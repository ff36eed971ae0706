import ExamPress.Text.Basic

/-! # Decimal digits

The decimal digits of all scripts, by Unicode 14. Every script that has digits has ten in a row,
from zero to nine. -/

namespace ExamPress.Text

/-- The zeros of all scripts, in ascending order. -/
def decimalZeros : List Nat := [
  0x30, 0x660, 0x6f0, 0x7c0, 0x966, 0x9e6, 0xa66, 0xae6, 0xb66, 0xbe6, 0xc66, 0xce6, 0xd66, 0xde6,
  0xe50, 0xed0, 0xf20, 0x1040, 0x1090, 0x17e0, 0x1810, 0x1946, 0x19d0, 0x1a80, 0x1a90, 0x1b50,
  0x1bb0, 0x1c40, 0x1c50, 0xa620, 0xa8d0, 0xa900, 0xa9d0, 0xa9f0, 0xaa50, 0xabf0, 0xff10, 0x104a0,
  0x10d30, 0x11066, 0x110f0, 0x11136, 0x111d0, 0x112f0, 0x11450, 0x114d0, 0x11650, 0x116c0, 0x11730,
  0x118e0, 0x11950, 0x11c50, 0x11d50, 0x11da0, 0x16a60, 0x16ac0, 0x16b50, 0x1d7ce, 0x1d7d8, 0x1d7e2,
  0x1d7ec, 0x1d7f6, 0x1e140, 0x1e2f0, 0x1e950, 0x1fbf0]

/-- The zero of the script of a decimal digit. -/
def zeroOf? (c : CodePoint) : Option Nat :=
  decimalZeros.find? fun first => first ≤ c.toNat && c.toNat < first + 10

/-- The value of a decimal digit of any script. -/
def decimalValue? (c : CodePoint) : Option Nat := (zeroOf? c).map fun first => c.toNat - first

/-- Whether a code point is a decimal digit of any script. -/
def isDecimal (c : CodePoint) : Bool := (zeroOf? c).isSome

/-- A decimal digit of any script as one of ASCII; any other code point itself. -/
def toAsciiDigit (c : CodePoint) : CodePoint :=
  match decimalValue? c with
  | some value => .ofNat (0x30 + value)
  | none => c

end ExamPress.Text
