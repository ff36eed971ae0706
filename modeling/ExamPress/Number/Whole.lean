import ExamPress.Text.Blank
import ExamPress.Text.Digit
import ExamPress.Text.Percent
import ExamPress.Text.Quoted

/-! # Whole numbers

The integers that texts stand for: an optional sign and some digits of a base, with blanks around
it. Decimal digits may be of any script. An underscore may stand between two digits, and the digits
of base 2, 8 and 16 may have their mark in front. A decimal number has at most 4300 digits. -/

namespace ExamPress.Whole

/-- The largest number of digits of a decimal number. -/
def maxDigits : Nat := 4300

/-- Why a text is no whole number. -/
inductive Fault where
  | invalid (base : Nat) (source : Text)
  | tooManyDigits (count : Nat)
deriving DecidableEq, Repr

/-- The wording for a number with too many digits. -/
def tooManyDigits (count : Nat) : String :=
  s!"Exceeds the limit ({maxDigits} digits) for integer string conversion: value has {count} " ++
    "digits; use sys.set_int_max_str_digits() to increase the limit"

/-- The wording of a fault. A long text is cut off. -/
def Fault.message : Fault → Text
  | invalid base source =>
    s!"invalid literal for int() with base {base}: ".toText ++ (Text.Quoted.quote source).take 200
  | tooManyDigits count => (Whole.tooManyDigits count).toText

/-- Whether there is a minus sign in front, and the text without its sign. -/
def splitSign (s : Text) : Bool × Text :=
  match s with
  | .char '-' :: s => (true, s)
  | .char '+' :: s => (false, s)
  | s => (false, s)

/-- The letter that marks the digits of a base, if there is one. -/
def baseLetter? (base : Nat) : Option CodePoint :=
  match base with
  | 2 => some 'b'
  | 8 => some 'o'
  | 16 => some 'x'
  | _ => none

/-- The text after the mark of its base, if it has it. An underscore after it is dropped. -/
def dropMark (base : Nat) (s : Text) : Text :=
  match s with
  | .char '0' :: letter :: rest =>
    if baseLetter? base = some letter.lowerAscii then
      (match rest with
        | .char '_' :: rest => rest
        | rest => rest)
    else s
  | s => s

/-- Whether a text consists of digits of a base, with underscores that stand alone inside it. -/
def areDigits (base : Nat) (s : Text) : Bool :=
  (Text.splitOn '_' s).all fun digits =>
    !digits.isEmpty && digits.all fun c => (Text.Percent.hexValue? c).any (· < base)

/-- The number with some digits in a base. Other characters are passed over. -/
def numberOf (base : Nat) (digits : Text) : Nat :=
  (digits.filterMap Text.Percent.hexValue?).foldl (fun n d => base * n + d) 0

/-- The integer that a text stands for in a base of at most 16. -/
def read (base : Nat) (source : Text) : Except Fault Int :=
  let (negative, s) := splitSign (Text.stripWhile Text.isWhiteSpace (source.map Text.toAsciiDigit))
  let s := dropMark base s
  let count := (s.filter fun (c : CodePoint) => c != '_').length
  if !areDigits base s then .error (.invalid base source)
  else if base = 10 ∧ maxDigits < count then .error (.tooManyDigits count)
  else
    let magnitude : Int := numberOf base s
    .ok (if negative then -magnitude else magnitude)

end ExamPress.Whole
