/-! # Malformed bytes

Bytes that are said to be a text in some coding need not be one. The first stretch of bytes that is
no code point is named by its place and by what is wrong with it. Bytes are natural numbers below
256. -/

namespace ExamPress.Text

/-- The codings of texts: in single bytes, or in units of two or four bytes, of which the highest or
the lowest byte comes first. -/
inductive Coding where
  | utf8
  | utf16 (highFirst : Bool)
  | utf32 (highFirst : Bool)
deriving DecidableEq, Repr

/-- The name of a coding. -/
def Coding.name : Coding → String
  | utf8 => "utf-8"
  | utf16 highFirst => if highFirst then "utf-16-be" else "utf-16-le"
  | utf32 highFirst => if highFirst then "utf-32-be" else "utf-32-le"

/-- What is wrong with a stretch of bytes. -/
inductive CodingFault where
  | startByte
  | continuationByte
  | endOfData
  | truncated
  | outOfRange
deriving DecidableEq, Repr

/-- The wording of a fault. -/
def CodingFault.message : CodingFault → String
  | startByte => "invalid start byte"
  | continuationByte => "invalid continuation byte"
  | endOfData => "unexpected end of data"
  | truncated => "truncated data"
  | outOfRange => "code point not in range(0x110000)"

/-- A stretch of bytes that is no code point: where it starts, how long it is, its first byte. -/
structure Malformed where
  coding : Coding
  fault : CodingFault
  position : Nat
  length : Nat
  byte : Nat
deriving DecidableEq, Repr

/-- A byte in two hexadecimal digits. -/
def hexByte (b : Nat) : String := String.ofList [Nat.digitChar (b / 16), Nat.digitChar (b % 16)]

/-- The wording of a malformed stretch. -/
def Malformed.message (e : Malformed) : String :=
  let stretch :=
    if e.length = 1 then s!"byte 0x" ++ hexByte e.byte ++ s!" in position {e.position}"
    else s!"bytes in position {e.position}-{e.position + e.length - 1}"
  s!"'{e.coding.name}' codec can't decode " ++ stretch ++ ": " ++ e.fault.message

end ExamPress.Text
