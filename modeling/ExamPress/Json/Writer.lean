import ExamPress.Json.Basic
import ExamPress.Number.Decimal
import ExamPress.Text.Quoted

/-! # Written JSON

Three texts of a value. `write` is JSON on one line, with a space after each comma and colon and
only the characters escaped that must be, and `writeCompact` is the same without spaces. `display`
is what a reader of a table heading sees: capitalised words for null and the booleans, and texts
inside arrays and objects in quotation marks. -/

namespace ExamPress.Json

/-- A character inside the quotation marks of a JSON text. -/
def escape (c : CodePoint) : Text :=
  if c = '"' then "\\\"".toText
  else if c = '\\' then "\\\\".toText
  else if c = '\n' then "\\n".toText
  else if c = '\r' then "\\r".toText
  else if c = '\t' then "\\t".toText
  else if c = '\x08' then "\\b".toText
  else if c = '\x0c' then "\\f".toText
  else if c.toNat < 0x20 then '\\' :: 'u' :: Text.Quoted.hex 4 c.toNat
  else [c]

/-- A JSON text. -/
def writeText (s : Text) : Text := '"' :: (s.flatMap escape ++ "\"".toText)

/-- The JSON text of a double: the fewest digits that read back, and three words. -/
def writeDouble : Double → Text
  | .nan => "NaN".toText
  | .infinite negative => (if negative then "-".toText else []) ++ "Infinity".toText
  | d => d.shortestText

mutual

/-- The JSON text of a value with given marks between items, and between names and values. -/
def writeWith (comma colon : Text) : Json → Text
  | null => "null".toText
  | bool true => "true".toText
  | bool false => "false".toText
  | int i => Text.ofInt i
  | float d => writeDouble d
  | str s => writeText s
  | arr items => '[' :: (Text.joinWith comma (writeItems comma colon items) ++ "]".toText)
  | obj fields => '{' :: (Text.joinWith comma (writeFields comma colon fields) ++ "\x7d".toText)

/-- The JSON texts of the items of an array. -/
def writeItems (comma colon : Text) : List Json → List Text
  | [] => []
  | item :: items => writeWith comma colon item :: writeItems comma colon items

/-- The JSON texts of the fields of an object. -/
def writeFields (comma colon : Text) : List (Text × Json) → List Text
  | [] => []
  | (name, value) :: fields =>
    (writeText name ++ colon ++ writeWith comma colon value) :: writeFields comma colon fields

end

/-- The JSON text of a value. -/
def write (v : Json) : Text := writeWith ", ".toText ": ".toText v

/-- The JSON text of a value without spaces. -/
def writeCompact (v : Json) : Text := writeWith ",".toText ":".toText v

mutual

/-- The text of a value inside an array or an object of a heading. -/
def displayInside : Json → Text
  | null => "None".toText
  | bool true => "True".toText
  | bool false => "False".toText
  | int i => Text.ofInt i
  | float d => d.shortestText
  | str s => Text.Quoted.quote s
  | arr items => '[' :: (Text.joinWith ", ".toText (displayItems items) ++ "]".toText)
  | obj fields => '{' :: (Text.joinWith ", ".toText (displayFields fields) ++ "\x7d".toText)

/-- The texts of the items of an array of a heading. -/
def displayItems : List Json → List Text
  | [] => []
  | item :: items => displayInside item :: displayItems items

/-- The texts of the fields of an object of a heading. -/
def displayFields : List (Text × Json) → List Text
  | [] => []
  | (name, value) :: fields =>
    (Text.Quoted.quote name ++ ": ".toText ++ displayInside value) :: displayFields fields

end

/-- The text of a value in a heading: a text stands for itself. -/
def display : Json → Text
  | str s => s
  | v => displayInside v

end ExamPress.Json
