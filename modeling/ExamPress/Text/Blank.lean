import ExamPress.Text.Basic

/-! # Blank characters

Two classes of blank characters. `isWhiteSpace` is the Unicode property of that name. `isBlank` adds
the four information separators, and is what is stripped from the ends of a text. -/

namespace ExamPress.Text

/-- The Unicode property White_Space. -/
def isWhiteSpace (c : CodePoint) : Bool :=
  let n := c.toNat
  (0x09 ≤ n && n ≤ 0x0d) || n == 0x20 || n == 0x85 || n == 0xa0 || n == 0x1680 ||
    (0x2000 ≤ n && n ≤ 0x200a) || n == 0x2028 || n == 0x2029 || n == 0x202f || n == 0x205f ||
    n == 0x3000

/-- The characters that count as blank at the ends of a text. -/
def isBlank (c : CodePoint) : Bool := isWhiteSpace c || (0x1c ≤ c.toNat && c.toNat ≤ 0x1f)

/-- The text without blank characters at its ends. -/
def strip (s : Text) : Text := stripWhile isBlank s

/-- Whether a text has no character that is not blank. -/
def isAllBlank (s : Text) : Bool := s.all isBlank

end ExamPress.Text
