import ExamPress.Text.Printable

/-! # Quoted texts

A text in quotation marks on one line. Single marks are used unless the text has a single mark and
no double one. Inside, the mark itself and the backslash follow a backslash, line ends and tabs
have letters, and any other character that is not printable is shown by its number. -/

namespace ExamPress.Text.Quoted

/-- A number in so many hexadecimal digits. -/
def hex (places n : Nat) : Text :=
  let digits := Nat.toDigits 16 n
  (List.replicate (places - digits.length) '0' ++ digits).map CodePoint.char

/-- The mark around a text. -/
def mark (s : Text) : CodePoint :=
  if s.contains '\x27' && !s.contains '"' then .char '"' else .char '\x27'

/-- A character by its number. -/
def byNumber (c : CodePoint) : Text :=
  if c.toNat < 0x100 then "\\x".toText ++ hex 2 c.toNat
  else if c.toNat < 0x10000 then "\\u".toText ++ hex 4 c.toNat
  else "\\U".toText ++ hex 8 c.toNat

/-- A character between marks of the given kind. -/
def escape (mark c : CodePoint) : Text :=
  if c = mark ∨ c = '\\' then ['\\', c]
  else if c = '\n' then "\\n".toText
  else if c = '\r' then "\\r".toText
  else if c = '\t' then "\\t".toText
  else if isPrintable c then [c]
  else byNumber c

/-- The quoted text. -/
def quote (s : Text) : Text := mark s :: (s.flatMap (escape (mark s)) ++ [mark s])

end ExamPress.Text.Quoted
