import ExamPress.Text.Basic

/-! # Base 64

Three bytes are four digits of six bits. One or two bytes at the end are two or three digits,
filled up with equals signs. -/

namespace ExamPress.Text.Base64

/-- The digit of a number below 64. -/
def digit (n : Nat) : CodePoint :=
  if n < 26 then .ofNat (65 + n)
  else if n < 52 then .ofNat (71 + n)
  else if n < 62 then .ofNat (n - 4)
  else if n = 62 then '+'
  else '/'

/-- The number of a digit. -/
def value? (c : CodePoint) : Option Nat :=
  if c.isBetween 'A' 'Z' then some (c.toNat - 65)
  else if c.isBetween 'a' 'z' then some (c.toNat - 71)
  else if c.isBetween '0' '9' then some (c.toNat + 4)
  else if c = '+' then some 62
  else if c = '/' then some 63
  else none

/-- The text of a list of bytes. -/
def encode : List Nat → Text
  | [] => []
  | [a] => [digit (a / 4), digit (a % 4 * 16), '=', '=']
  | [a, b] => [digit (a / 4), digit (a % 4 * 16 + b / 16), digit (b % 16 * 4), '=']
  | a :: b :: c :: rest =>
    digit (a / 4) :: digit (a % 4 * 16 + b / 16) :: digit (b % 16 * 4 + c / 64) ::
      digit (c % 64) :: encode rest

/-- The bytes of a text that is written in groups of four, padded at the end. -/
def decode : Text → Option (List Nat)
  | [] => some []
  | [w, x, .char '=', .char '='] => do
    let w ← value? w
    let x ← value? x
    return [w * 4 + x / 16]
  | [w, x, y, .char '='] => do
    let w ← value? w
    let x ← value? x
    let y ← value? y
    return [w * 4 + x / 16, x % 16 * 16 + y / 4]
  | w :: x :: y :: z :: rest => do
    let w ← value? w
    let x ← value? x
    let y ← value? y
    let z ← value? z
    let bytes ← decode rest
    return (w * 4 + x / 16) :: (x % 16 * 16 + y / 4) :: (y % 4 * 64 + z) :: bytes
  | _ => none

/-- The bytes of a text from a place in a group of four on, after a digit of which some bits are not
used yet and after some equals signs. What is no digit is passed over, and an equals sign that
completes a group ends the text. -/
def decodeLooselyFrom (place bits padding : Nat) : Text → Option (List Nat)
  | [] => if place = 0 then some [] else none
  | c :: rest =>
    if c = '=' then
      if place ≥ 2 then
        if place + padding + 1 ≥ 4 then some []
        else decodeLooselyFrom place bits (padding + 1) rest
      else decodeLooselyFrom place bits padding rest
    else
      match value? c, place with
      | none, _ => decodeLooselyFrom place bits padding rest
      | some n, 0 => decodeLooselyFrom 1 n 0 rest
      | some n, 1 => (decodeLooselyFrom 2 (n % 16) 0 rest).map ((bits * 4 + n / 16) :: ·)
      | some n, 2 => (decodeLooselyFrom 3 (n % 4) 0 rest).map ((bits * 16 + n / 4) :: ·)
      | some n, _ => (decodeLooselyFrom 0 0 0 rest).map ((bits * 64 + n) :: ·)

/-- The bytes of a text with any characters between the digits. -/
def decodeLoosely (s : Text) : Option (List Nat) := decodeLooselyFrom 0 0 0 s

end ExamPress.Text.Base64
