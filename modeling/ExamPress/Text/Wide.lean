import ExamPress.Text.Malformed
import ExamPress.Text.Basic

/-! # Texts in wide units

Codings with units of two or four bytes. In units of two bytes, a code point from U+10000 on is a
pair of surrogates; a surrogate without a partner is read as it is. In units of four bytes every
number up to U+10FFFF is a code point. -/

namespace ExamPress.Text.Wide

/-- The number of the bytes of a unit. -/
def unit (highFirst : Bool) (bytes : List Nat) : Nat :=
  (if highFirst then bytes else bytes.reverse).foldl (fun n b => 256 * n + b) 0

/-- Whether a number is the first half of a pair of surrogates. -/
def isHigh (n : Nat) : Bool := 0xd800 ≤ n && n < 0xdc00

/-- Whether a number is the second half of a pair of surrogates. -/
def isLow (n : Nat) : Bool := 0xdc00 ≤ n && n < 0xe000

/-- The number of a pair of surrogates. -/
def joined (high low : Nat) : Nat := 0x10000 + (high - 0xd800) * 0x400 + (low - 0xdc00)

/-- Numbers with the pairs of surrogates joined. -/
def joinPairs : List Nat → List Nat
  | [] => []
  | high :: rest =>
    match joinPairs rest with
    | low :: after =>
      if isHigh high && isLow low then joined high low :: after else high :: low :: after
    | [] => [high]

/-- The units of two bytes from a position on. -/
def decodePairs (highFirst : Bool) (position : Nat) : List Nat → Except Malformed (List Nat)
  | [] => .ok []
  | [b] => .error ⟨.utf16 highFirst, .truncated, position, 1, b⟩
  | b :: c :: rest =>
    (decodePairs highFirst (position + 2) rest).map (unit highFirst [b, c] :: ·)

/-- The units of four bytes from a position on. -/
def decodeQuads (highFirst : Bool) (position : Nat) : List Nat → Except Malformed (List Nat)
  | [] => .ok []
  | b :: c :: d :: e :: rest =>
    let n := unit highFirst [b, c, d, e]
    if n < 0x110000 then (decodeQuads highFirst (position + 4) rest).map (n :: ·)
    else .error ⟨.utf32 highFirst, .outOfRange, position, 4, b⟩
  | b :: rest => .error ⟨.utf32 highFirst, .truncated, position, rest.length + 1, b⟩

/-- The text of units of two bytes, from a position on. -/
def decode16 (highFirst : Bool) (position : Nat) (bytes : List Nat) : Except Malformed Text :=
  (decodePairs highFirst position bytes).map fun units => (joinPairs units).map CodePoint.ofNat

/-- The text of units of four bytes, from a position on. -/
def decode32 (highFirst : Bool) (position : Nat) (bytes : List Nat) : Except Malformed Text :=
  (decodeQuads highFirst position bytes).map fun units => units.map CodePoint.ofNat

end ExamPress.Text.Wide
