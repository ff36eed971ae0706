import ExamPress.Number.Decimal
import ExamPress.Text.Blank

/-! # Numerals

The texts that stand for a double where a number is asked for: an optional sign, then digits with
an optional point and exponent, or a word for an infinity or for no number in any case. Blanks
around it are dropped, and so are underscores inside it that stand alone. -/

namespace ExamPress.Numeral

/-- The digits at the front of a text, and the rest. -/
def spanDigits (s : Text) : Text × Text := s.span CodePoint.isDigit

/-- The exponent that makes up a text. An empty text is the exponent zero. -/
def exponent? (s : Text) : Option Int :=
  match s with
  | [] => some 0
  | c :: s =>
    if c = 'e' ∨ c = 'E' then
      let (negative, s) := match s with
        | .char '-' :: s => (true, s)
        | .char '+' :: s => (false, s)
        | s => (false, s)
      if s.isEmpty || !s.all CodePoint.isDigit then none
      else
        let magnitude : Int := Text.toNat s
        some (if negative then -magnitude else magnitude)
    else none

/-- The double of a text without sign. -/
def magnitude? (negative : Bool) (s : Text) : Option Double :=
  let word := Text.lowerAscii s
  if word.isAnyOf ["inf", "infinity"] then some (.infinite negative)
  else if word = "nan".toText then some .nan
  else
    let (whole, rest) := spanDigits s
    let (places, rest) := match rest with
      | .char '.' :: rest => spanDigits rest
      | rest => ([], rest)
    if whole.isEmpty && places.isEmpty then none
    else
      (exponent? rest).map fun exponent =>
        Decimal.nearest negative (Text.toNat (whole ++ places))
          (exponent - places.length)

/-- The double of a text without blanks around it. -/
def plain? (s : Text) : Option Double :=
  match s with
  | .char '-' :: s => magnitude? true s
  | .char '+' :: s => magnitude? false s
  | s => magnitude? false s

/-- Whether two underscores stand side by side. -/
def hasDoubleUnderscore : Text → Bool
  | .char '_' :: .char '_' :: _ => true
  | _ :: s => hasDoubleUnderscore s
  | [] => false

/-- The text without its underscores, if it has some and all stand alone inside it. -/
def dropUnderscores? (s : Text) : Option Text :=
  if s.head? = some '_' ∨ s.getLast? = some '_' ∨ !s.contains '_' ∨ hasDoubleUnderscore s then none
  else some (s.filter (· != '_'))

/-- The double that a text stands for. -/
def toDouble? (s : Text) : Option Double :=
  match plain? (Text.stripWhile Text.isWhiteSpace s) with
  | some d => some d
  | none => (dropUnderscores? s).bind fun t => plain? (Text.stripWhile Text.isWhiteSpace t)

end ExamPress.Numeral
