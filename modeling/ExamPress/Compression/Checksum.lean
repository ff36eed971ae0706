/-! # Checksums

Two checksums of lists of bytes: the cyclic redundancy check, and the pair of sums of a compressed
stream. Bytes are natural numbers below 256. -/

namespace ExamPress.Compression

/-- One bit of the division that makes a cyclic redundancy check. -/
def checksumBit (crc : UInt32) : UInt32 :=
  if crc &&& 1 = 1 then (crc >>> 1) ^^^ 0xedb88320 else crc >>> 1

/-- The cyclic redundancy check with one more byte. -/
def checksumByte (crc : UInt32) (byte : Nat) : UInt32 :=
  (List.replicate 8 ()).foldl (fun crc _ => checksumBit crc) (crc ^^^ byte.toUInt32)

/-- The cyclic redundancy check of a list of bytes. -/
def checksum (bytes : List Nat) : Nat := (bytes.foldl checksumByte 0xffffffff ^^^ 0xffffffff).toNat

/-- The largest prime number below `2 ^ 16`. -/
def sumModulus : Nat := 65521

/-- The sum of the bytes and the sum of these sums, in one number. -/
def doubleSum (bytes : List Nat) : Nat :=
  let step := fun ((a, b) : Nat × Nat) byte =>
    let a := (a + byte) % sumModulus
    (a, (b + a) % sumModulus)
  let (a, b) := bytes.foldl step (1, 0)
  b * 0x10000 + a

end ExamPress.Compression
