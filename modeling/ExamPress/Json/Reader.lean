import ExamPress.Json.Basic
import ExamPress.Number.Decimal
import ExamPress.Number.Whole
import ExamPress.Text.Wide

/-! # Reading JSON

A reader takes one value from the front of a text and gives back the rest. Where it can not go on it
names the fault and how much of the text was left, from which `read` finds line and column. Besides
standard JSON the words `NaN`, `Infinity` and `-Infinity` are numbers. A number with a point or an
exponent is a double, any other an integer of at most 4300 digits. -/

namespace ExamPress.Json

/-- What a text lacks at a place to be JSON. -/
inductive Fault where
  | byteOrderMark
  | value
  | comma
  | colon
  | name
  | unterminated
  | controlCharacter
  | escape
  | unicodeEscape
  | extra
deriving DecidableEq, Repr

/-- The wording of a fault. -/
def Fault.message : Fault → String
  | .byteOrderMark => "Unexpected UTF-8 BOM (decode using utf-8-sig)"
  | .value => "Expecting value"
  | .comma => "Expecting ',' delimiter"
  | .colon => "Expecting ':' delimiter"
  | .name => "Expecting property name enclosed in double quotes"
  | .unterminated => "Unterminated string starting at"
  | .controlCharacter => "Invalid control character at"
  | .escape => "Invalid \\escape"
  | .unicodeEscape => "Invalid \\uXXXX escape"
  | .extra => "Extra data"

/-- Why a reader stops: a fault with that many characters left, or an integer with too many
digits. -/
inductive Stop where
  | fault (fault : Fault) (left : Nat)
  | tooManyDigits (count : Nat)
deriving DecidableEq, Repr

/-- The blank characters between the parts of a JSON text. -/
def isSpace (c : CodePoint) : Bool := c == ' ' || c == '\t' || c == '\n' || c == '\r'

/-- The text without the blanks at its front. -/
def skipSpace (s : Text) : Text := s.dropWhile isSpace

/-- The number written by four hexadecimal digits. -/
def hex4 (a b c d : CodePoint) : Option Nat := do
  let a ← Text.Percent.hexValue? a
  let b ← Text.Percent.hexValue? b
  let c ← Text.Percent.hexValue? c
  let d ← Text.Percent.hexValue? d
  return ((a * 16 + b) * 16 + c) * 16 + d

/-- The character that follows a backslash stands for, other than the letter `u`. -/
def escaped? (c : CodePoint) : Option CodePoint :=
  match c with
  | .char '"' => some '"'
  | .char '\\' => some '\\'
  | .char '/' => some '/'
  | .char 'b' => some '\x08'
  | .char 'f' => some '\x0c'
  | .char 'n' => some '\n'
  | .char 'r' => some '\r'
  | .char 't' => some '\t'
  | _ => none

/-- The code point written by the digits after a backslash and the letter `u`, and how many
characters write it. A first half of a surrogate pair takes the second half with it. The text must
go on after the digits. -/
def readUnicode (s : Text) : Except Stop (CodePoint × Nat) :=
  match s with
  | a :: b :: c :: d :: e :: rest =>
    match hex4 a b c d with
    | none => .error (.fault .unicodeEscape (s.length + 1))
    | some high =>
      match Text.Wide.isHigh high, e, rest with
      | true, .char '\\', .char 'u' :: a :: b :: c :: d :: _ :: after =>
        match hex4 a b c d with
        | none => .error (.fault .unicodeEscape (after.length + 6))
        | some low =>
          if Text.Wide.isLow low then .ok (CodePoint.ofNat (Text.Wide.joined high low), 10)
          else .ok (CodePoint.ofNat high, 4)
      | _, _, _ => .ok (CodePoint.ofNat high, 4)
  | _ => .error (.fault .unicodeEscape (s.length + 1))

/-- The characters up to the closing quotation mark, and the rest after it. `seen` counts the
characters from the opening mark on, `acc` holds those that were read, last first, and the next
`skipped` ones belong to an escape that was read. -/
def readString (seen : Nat) (acc : Text) (skipped : Nat) : Text → Except Stop (Text × Text)
  | [] => .error (.fault .unterminated seen)
  | c :: rest =>
    match skipped with
    | skipped + 1 => readString (seen + 1) acc skipped rest
    | 0 =>
      if c = '"' then .ok (acc.reverse, rest)
      else if c = '\\' then
        match rest with
        | [] => .error (.fault .unterminated (seen + 1))
        | .char 'u' :: digits =>
          match readUnicode digits with
          | .error stop => .error stop
          | .ok (d, count) => readString (seen + 1) (d :: acc) (count + 1) rest
        | d :: _ =>
          match escaped? d with
          | none => .error (.fault .escape (rest.length + 1))
          | some e => readString (seen + 1) (e :: acc) 1 rest
      else if c.toNat < 0x20 then .error (.fault .controlCharacter (rest.length + 1))
      else readString (seen + 1) (c :: acc) 0 rest

/-- The digits of the whole part: one zero, or all digits if the first is not zero. -/
def wholePart (s : Text) : Text :=
  match s with
  | .char '0' :: _ => "0".toText
  | _ => s.takeWhile CodePoint.isDigit

/-- The digits after a point, if there are any. -/
def fractionPart (s : Text) : Option Text :=
  match s with
  | .char '.' :: rest =>
    let digits := rest.takeWhile CodePoint.isDigit
    if digits.isEmpty then none else some digits
  | _ => none

/-- The exponent after the letter `e`: the length of its text, and its value. -/
def exponentPart (s : Text) : Option (Nat × Int) :=
  match s with
  | c :: rest =>
    if c = 'e' ∨ c = 'E' then
      let signed := rest.head? = some '+' ∨ rest.head? = some '-'
      let digits := (if signed then rest.drop 1 else rest).takeWhile CodePoint.isDigit
      if digits.isEmpty then none
      else
        let magnitude : Int := Text.toNat digits
        some (1 + (if signed then 1 else 0) + digits.length,
          if rest.head? = some '-' then -magnitude else magnitude)
    else none
  | [] => none

/-- A number at the front of a text, after its sign. -/
def readMagnitude (negative : Bool) (s : Text) : Except Stop (Option (Json × Text)) :=
  let whole := wholePart s
  if whole.isEmpty then .ok none
  else
    let rest := s.drop whole.length
    let fraction := fractionPart rest
    let rest := match fraction with
      | some digits => rest.drop (digits.length + 1)
      | none => rest
    let exponent := exponentPart rest
    let rest := match exponent with
      | some (length, _) => rest.drop length
      | none => rest
    if fraction.isNone && exponent.isNone then
      if whole.length > Whole.maxDigits then .error (.tooManyDigits whole.length)
      else
        let magnitude : Int := Text.toNat whole
        .ok (some (int (if negative then -magnitude else magnitude), rest))
    else
      let places := fraction.getD []
      let power := (exponent.map Prod.snd).getD 0
      let digits := Text.toNat (whole ++ places)
      .ok (some (float (Decimal.nearest negative digits (power - places.length)), rest))

/-- The values that are words, with their texts. -/
def words : List (String × Json) :=
  [("null", null), ("true", bool true), ("false", bool false), ("NaN", float .nan),
    ("Infinity", float (.infinite false)), ("-Infinity", float (.infinite true))]

/-- A word or a number at the front of a text, and the rest. -/
def readScalar (s : Text) : Except Stop (Json × Text) :=
  match words.find? fun word => Text.startsWith s word.1.toText with
  | some (word, value) => .ok (value, s.drop word.length)
  | none =>
    let number := match s with
      | .char '-' :: rest => readMagnitude true rest
      | _ => readMagnitude false s
    match number with
    | .error stop => .error stop
    | .ok (some found) => .ok found
    | .ok none => .error (.fault .value s.length)

mutual

/-- The value at the front of a text, and the rest. -/
def readValue (budget : Nat) (s : Text) : Except Stop (Json × Text) :=
  match budget with
  | 0 => .error (.fault .value s.length)
  | budget + 1 =>
    match s with
    | .char '"' :: rest =>
      match readString 1 [] 0 rest with
      | .error stop => .error stop
      | .ok (text, rest) => .ok (str text, rest)
    | .char '[' :: rest =>
      match skipSpace rest with
      | .char ']' :: rest => .ok (arr [], rest)
      | rest => readItems budget [] rest
    | .char '{' :: rest =>
      match skipSpace rest with
      | .char '}' :: rest => .ok (obj [], rest)
      | rest => readFields budget [] rest
    | s => readScalar s

/-- The items of an array up to its end, after those that were read before, last first. -/
def readItems (budget : Nat) (acc : List Json) (s : Text) : Except Stop (Json × Text) :=
  match budget with
  | 0 => .error (.fault .value s.length)
  | budget + 1 =>
    match readValue budget s with
    | .error stop => .error stop
    | .ok (value, rest) =>
      match skipSpace rest with
      | .char ']' :: rest => .ok (arr (value :: acc).reverse, rest)
      | .char ',' :: rest => readItems budget (value :: acc) (skipSpace rest)
      | rest => .error (.fault .comma rest.length)

/-- The fields of an object up to its end, after those that were read before. -/
def readFields (budget : Nat) (acc : List (Text × Json)) (s : Text) : Except Stop (Json × Text) :=
  match budget with
  | 0 => .error (.fault .value s.length)
  | budget + 1 =>
    match s with
    | .char '"' :: rest =>
      match readString 1 [] 0 rest with
      | .error stop => .error stop
      | .ok (name, rest) =>
        match skipSpace rest with
        | .char ':' :: rest =>
          match readValue budget (skipSpace rest) with
          | .error stop => .error stop
          | .ok (value, rest) =>
            let fields := insertField name value acc
            match skipSpace rest with
            | .char '}' :: rest => .ok (obj fields, rest)
            | .char ',' :: rest => readFields budget fields (skipSpace rest)
            | rest => .error (.fault .comma rest.length)
        | rest => .error (.fault .colon rest.length)
    | s => .error (.fault .name s.length)

end

/-- Why a text is not read: a fault at a place, or an integer with too many digits. -/
inductive ReadError where
  | malformed (fault : Fault) (line column position : Nat)
  | tooManyDigits (count : Nat)
deriving DecidableEq, Repr

/-- The place in a text that has so many characters left, with line and column counted from one. -/
def Stop.locate (source : Text) : Stop → ReadError
  | .fault what left =>
    let before := source.take (source.length - left)
    let line := before.reverse.takeWhile fun (c : CodePoint) => c != '\n'
    .malformed what (before.count (.char '\n') + 1) (line.length + 1)
      before.length
  | .tooManyDigits count => .tooManyDigits count

/-- The wording of an error. -/
def ReadError.message : ReadError → String
  | .malformed fault line column position =>
    fault.message ++ s!": line {line} column {column} (char {position})"
  | .tooManyDigits count => Whole.tooManyDigits count

/-- The value of a text that is one value between blanks. A byte order mark is no blank. -/
def readAfterMark (source : Text) : Except ReadError Json :=
  let result : Except Stop Json :=
    match readValue (2 * source.length + 2) (skipSpace source) with
    | .error stop => .error stop
    | .ok (value, rest) =>
      match skipSpace rest with
      | [] => .ok value
      | rest => .error (.fault .extra rest.length)
  result.mapError (Stop.locate source)

/-- The value of a text that is one value between blanks. A byte order mark in front is refused as
such. -/
def read (source : Text) : Except ReadError Json :=
  if source.head? = some '\ufeff' then
    .error (Stop.locate source (.fault .byteOrderMark source.length))
  else readAfterMark source

end ExamPress.Json
