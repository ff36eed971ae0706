import ExamPress.Compression.Checksum
import ExamPress.Compression.Inflate

/-! # Frames of compressed data

Compressed data stands on its own, or in one of two frames. Each has a header, which says how the
data is compressed, and sums after the data, which it is checked by. What follows the frame is not
read. Data that ends early yields the bytes up to its end. -/

namespace ExamPress.Compression

/-- The frames. -/
inductive Frame where
  | bare
  | short
  | long
deriving DecidableEq, Repr

/-- The number of some bytes, the lowest first. -/
def numberOfBytes (bytes : List Nat) : Nat := bytes.foldr (fun byte n => 256 * n + byte) 0

/-- The number in so many bytes at the front, and the rest. -/
def needBytes (count : Nat) (bytes : List Nat) : Except Stop (Nat × List Nat) :=
  if bytes.length < count then .error .ended
  else .ok (numberOfBytes (bytes.take count), bytes.drop count)

/-- What follows the next zero byte. -/
def needAfterZero (bytes : List Nat) : Except Stop (List Nat) :=
  match bytes.dropWhile (· != 0) with
  | _ :: rest => .ok rest
  | [] => .error .ended

/-- What follows the header of a short frame. -/
def afterShortHeader (bytes : List Nat) : Except Stop (List Nat) := do
  let (head, rest) ← needBytes 2 bytes
  if (head % 256 * 256 + head / 256) % 31 ≠ 0 then throw (.faulty .header)
  if head % 16 ≠ 8 then throw (.faulty .method)
  if 7 < head / 16 % 16 then throw (.faulty .window)
  if head.testBit 13 then
    let _ ← needBytes 4 rest
    throw (.faulty .dictionary)
  return rest

/-- What follows the header of a long frame. It may have further fields, a name, a comment and a sum
of its own. -/
def afterLongHeader (bytes : List Nat) : Except Stop (List Nat) := do
  let (mark, rest) ← needBytes 2 bytes
  if mark ≠ 0x8b1f then throw (.faulty .header)
  let (flags, rest) ← needBytes 2 rest
  if flags % 256 ≠ 8 then throw (.faulty .method)
  if flags / 0x2000 ≠ 0 then throw (.faulty .flags)
  let (_, rest) ← needBytes 6 rest
  let rest ←
    if flags.testBit 10 then do
      let (length, rest) ← needBytes 2 rest
      let (_, rest) ← needBytes length rest
      pure rest
    else pure rest
  let rest ← if flags.testBit 11 then needAfterZero rest else pure rest
  let rest ← if flags.testBit 12 then needAfterZero rest else pure rest
  if flags.testBit 9 then
    let header := bytes.take (bytes.length - rest.length)
    let (sum, rest) ← needBytes 2 rest
    if sum ≠ checksum header % 0x10000 then throw (.faulty .headerSum)
    return rest
  else return rest

/-- Checks the sums after the data of a frame. -/
def checkSums (frame : Frame) (output : List Nat) (rest : Bits) : Except Stop Unit := do
  let rest := toByte rest
  match frame with
  | .bare => return
  | .short =>
    let (sum, _) ← need 32 rest
    let bytes := [sum % 256, sum / 0x100 % 256, sum / 0x10000 % 256, sum / 0x1000000]
    if numberOfBytes bytes.reverse ≠ doubleSum output then throw (.faulty .dataSum)
  | .long =>
    let (sum, rest) ← need 32 rest
    if sum ≠ checksum output then throw (.faulty .dataSum)
    let (length, _) ← need 32 rest
    if length ≠ output.length % 0x100000000 then throw (.faulty .dataLength)

/-- The bytes that a frame holds. -/
def decompress (frame : Frame) (bytes : List Nat) : Except Fault (List Nat) :=
  let start : Except Stop (List Nat) := match frame with
    | .bare => .ok bytes
    | .short => afterShortHeader bytes
    | .long => afterLongHeader bytes
  match start with
  | .error .ended => .ok []
  | .error (.faulty fault) => .error fault
  | .ok data =>
    let (output, rest) := inflate (bitsOf data)
    let output := output.toList
    match rest.bind (checkSums frame output) with
    | .error (.faulty fault) => .error fault
    | _ => .ok output

end ExamPress.Compression
