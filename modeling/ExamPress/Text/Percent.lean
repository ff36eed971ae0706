import ExamPress.Text.Utf8

/-! # Percent encoding

A text is written in ASCII by its UTF-8 bytes: a byte that is a safe character stands for itself,
any other one is a percent sign and two hexadecimal digits. -/

namespace ExamPress.Text.Percent

/-- A hexadecimal digit in upper case. -/
def hexDigit (n : Nat) : CodePoint := (Nat.digitChar n).toUpper

/-- A byte as a percent sign and two digits. -/
def encodeByte (b : Nat) : Text := ['%', hexDigit (b / 16), hexDigit (b % 16)]

/-- The text with every byte encoded that is not a safe character. -/
def encode (safe : CodePoint → Bool) (s : Text) : Text :=
  (Utf8.encode s).flatMap fun b =>
    if b < 0x80 ∧ safe (.ofNat b) then [.ofNat b] else encodeByte b

/-- The value of a hexadecimal digit. -/
def hexValue? (c : CodePoint) : Option Nat :=
  if c.isBetween '0' '9' then some (c.toNat - 48)
  else if c.isBetween 'a' 'f' then some (c.toNat - 87)
  else if c.isBetween 'A' 'F' then some (c.toNat - 55)
  else none

/-- The bytes that a percent-encoded text stands for. -/
def decodeBytes : Text → List Nat
  | [] => []
  | [c] => Utf8.encodeChar c
  | [c, d] => Utf8.encodeChar c ++ Utf8.encodeChar d
  | c :: high :: low :: rest =>
    match c, hexValue? high, hexValue? low with
    | .char '%', some h, some l => (16 * h + l) :: decodeBytes rest
    | c, _, _ => Utf8.encodeChar c ++ decodeBytes (high :: low :: rest)

/-- The text that a percent-encoded text stands for. -/
def decode (s : Text) : Except Malformed Text := Utf8.decode (decodeBytes s)

/-- The text that any percent-encoded text stands for. The bytes of a stretch of ASCII are read
together, and what is no text in them is replaced; other characters stand for themselves. -/
def decodeReplacing (s : Text) : Text :=
  let isAscii := Repertoire.ascii.contains
  (s.splitBy fun a b => isAscii a == isAscii b).flatMap fun stretch =>
    if stretch.all isAscii then Utf8.decodeReplacing (decodeBytes stretch) else stretch

/-- The characters that are never encoded in any part of an address. -/
def isUnreserved (c : CodePoint) : Bool :=
  c.isAlphanum || c == '-' || c == '.' || c == '_' || c == '~'

/-- The value of a form field: unreserved characters stay, a space is a plus sign. -/
def encodeForm (s : Text) : Text :=
  s.flatMap fun (c : CodePoint) => if c = ' ' then "+".toText else encode isUnreserved [c]

end ExamPress.Text.Percent
