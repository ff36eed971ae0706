import ExamPress.Compression.Code

/-! # Compressed blocks

Compressed data is a sequence of blocks. A block is stored as it is, or consists of symbols of two
codes: a byte, or a length, which is followed by the distance back to where as many bytes are
repeated from. The codes are fixed, or are described at the front of their block. Data that ends
early yields the bytes up to its end. -/

namespace ExamPress.Compression

/-- What is wrong with compressed data, its frame included. -/
inductive Fault where
  | header
  | method
  | window
  | flags
  | headerSum
  | dictionary
  | blockType
  | storedLength
  | tooManySymbols
  | lengthCode
  | repetition
  | noEnd
  | literalCode
  | distanceCode
  | literal
  | distance
  | tooFar
  | dataSum
  | dataLength
deriving DecidableEq, Repr

/-- The short wording of a fault. -/
def Fault.reason : Fault → String
  | header => "incorrect header check"
  | method => "unknown compression method"
  | window => "invalid window size"
  | flags => "unknown header flags set"
  | headerSum => "header crc mismatch"
  | dictionary => "need dictionary"
  | blockType => "invalid block type"
  | storedLength => "invalid stored block lengths"
  | tooManySymbols => "too many length or distance symbols"
  | lengthCode => "invalid code lengths set"
  | repetition => "invalid bit length repeat"
  | noEnd => "invalid code -- missing end-of-block"
  | literalCode => "invalid literal/lengths set"
  | distanceCode => "invalid distances set"
  | literal => "invalid literal/length code"
  | distance => "invalid distance code"
  | tooFar => "invalid distance too far back"
  | dataSum => "incorrect data check"
  | dataLength => "incorrect length check"

/-- The wording of a fault. -/
def Fault.message (fault : Fault) : String := "Error -3 while decompressing data: " ++ fault.reason

/-- Why reading stops: the data ends, or it is faulty. -/
inductive Stop where
  | ended
  | faulty (fault : Fault)
deriving DecidableEq, Repr

/-- The number in so many bits, or the end of the data. -/
def need (count : Nat) (bits : Bits) : Except Stop (Nat × Bits) :=
  match takeNumber count bits with
  | some found => .ok found
  | none => .error .ended

/-- The symbol at the front, where a fault says that there is none. -/
def needSymbol (code : Code) (fault : Fault) (bits : Bits) : Except Stop (Nat × Bits) :=
  match code.find bits with
  | .symbol symbol rest => .ok (symbol, rest)
  | .none => .error (.faulty fault)
  | .unfinished => .error .ended

/-! ### Lengths and distances -/

/-- The first values and the numbers of further bits of a row of symbols. -/
abbrev Ranges := List (Nat × Nat)

/-- The lengths that the symbols from 257 on stand for. -/
def lengthRanges : Ranges := [
  (3, 0), (4, 0), (5, 0), (6, 0), (7, 0), (8, 0), (9, 0), (10, 0), (11, 1), (13, 1), (15, 1),
  (17, 1), (19, 2), (23, 2), (27, 2), (31, 2), (35, 3), (43, 3), (51, 3), (59, 3), (67, 4), (83, 4),
  (99, 4), (115, 4), (131, 5), (163, 5), (195, 5), (227, 5), (258, 0)]

/-- The distances that symbols stand for. -/
def distanceRanges : Ranges := [
  (1, 0), (2, 0), (3, 0), (4, 0), (5, 1), (7, 1), (9, 2), (13, 2), (17, 3), (25, 3), (33, 4),
  (49, 4), (65, 5), (97, 5), (129, 6), (193, 6), (257, 7), (385, 7), (513, 8), (769, 8), (1025, 9),
  (1537, 9), (2049, 10), (3073, 10), (4097, 11), (6145, 11), (8193, 12), (12289, 12), (16385, 13),
  (24577, 13)]

/-- The value of the symbol at an index of some ranges. -/
def needValue (ranges : Ranges) (index : Nat) (fault : Fault) (bits : Bits) :
    Except Stop (Nat × Bits) :=
  match ranges[index]? with
  | none => .error (.faulty fault)
  | some (first, count) => do
    let (more, bits) ← need count bits
    return (first + more, bits)

/-- The bytes with so many more, each repeated from a distance back. -/
def repeatBack (distance : Nat) (output : Array Nat) : Nat → Array Nat
  | 0 => output
  | n + 1 => repeatBack distance (output.push (output[output.size - distance]?.getD 0)) n

/-- What the symbols at the front of a block yield: one more byte, or bytes to repeat with length
and distance, or the end of the block. -/
inductive Item where
  | byte (value : Nat)
  | copy (length distance : Nat)
  | finish

/-- The item at the front of some bits. -/
def needItem (literals distances : Code) (bits : Bits) : Except Stop (Item × Bits) := do
  let (symbol, bits) ← needSymbol literals .literal bits
  if symbol < 256 then return (.byte symbol, bits)
  else if symbol = 256 then return (.finish, bits)
  else
    let (length, bits) ← needValue lengthRanges (symbol - 257) .literal bits
    let (symbol, bits) ← needSymbol distances .distance bits
    let (distance, bits) ← needValue distanceRanges symbol .distance bits
    return (.copy length distance, bits)

/-- The bytes with those of the items of a block, and what is left after the block or why it can not
be read to its end. Every item takes a bit at least, so there are at most `budget` items. -/
def readItems (literals distances : Code) (budget : Nat) (output : Array Nat) (bits : Bits) :
    Array Nat × Except Stop Bits :=
  match budget with
  | 0 => (output, .error .ended)
  | budget + 1 =>
    match needItem literals distances bits with
    | .error stop => (output, .error stop)
    | .ok (.finish, bits) => (output, .ok bits)
    | .ok (.byte value, bits) => readItems literals distances budget (output.push value) bits
    | .ok (.copy length distance, bits) =>
      if output.size < distance then (output, .error (.faulty .tooFar))
      else readItems literals distances budget (repeatBack distance output length) bits

/-! ### Blocks -/

/-- The fixed code of bytes and lengths. -/
def fixedLiterals : Code :=
  .ofLengths (List.replicate 144 8 ++ List.replicate 112 9 ++ List.replicate 24 7 ++
    List.replicate 8 8)

/-- The fixed code of distances. -/
def fixedDistances : Code := .ofLengths (List.replicate 32 5)

/-- The order in which the lengths of the words for lengths are given. -/
def lengthOrder : List Nat := [16, 17, 18, 0, 8, 7, 9, 6, 10, 5, 11, 4, 12, 3, 13, 2, 14, 1, 15]

/-- So many numbers of three bits each. -/
def needTriples : Nat → Bits → Except Stop (List Nat × Bits)
  | 0, bits => .ok ([], bits)
  | count + 1, bits => do
    let (first, bits) ← need 3 bits
    let (rest, bits) ← needTriples count bits
    return (first :: rest, bits)

/-- The symbol for a length. In a code without words every bit is the length zero. -/
def needLengthSymbol (code : Code) (bits : Bits) : Except Stop (Nat × Bits) :=
  if code.symbols.isEmpty then do
    let (_, bits) ← need 1 bits
    return (0, bits)
  else needSymbol code .lengthCode bits

/-- The lengths of words, after those that were read before, last one first, up to a number of them.
A symbol from 16 on repeats the last length or zero. -/
def needLengths (code : Code) (total budget : Nat) (acc : List Nat) (bits : Bits) :
    Except Stop (List Nat × Bits) :=
  if total ≤ acc.length then .ok (acc.reverse, bits)
  else
    match budget with
    | 0 => .error .ended
    | budget + 1 => do
      let (symbol, bits) ← needLengthSymbol code bits
      if symbol < 16 then needLengths code total budget (symbol :: acc) bits
      else
        let (least, width) :=
          if symbol = 16 then (3, 2) else if symbol = 17 then (3, 3) else (11, 7)
        let (more, bits) ← need width bits
        match if symbol = 16 then acc.head? else some 0 with
        | none => throw (.faulty .repetition)
        | some length =>
          if total < acc.length + least + more then throw (.faulty .repetition)
          needLengths code total budget (List.replicate (least + more) length ++ acc) bits

/-- Whether a code can be used for bytes and lengths, or for distances. -/
def isUsable (code : Code) : Bool := code.isComplete || code.isMinimal

/-- The codes of bytes and lengths, and of distances, that a block describes. -/
def needCodes (bits : Bits) : Except Stop ((Code × Code) × Bits) := do
  let (counts, bits) ← need 14 bits
  let literalCount := counts % 32 + 257
  let distanceCount := counts / 32 % 32 + 1
  if 286 < literalCount ∨ 30 < distanceCount then throw (.faulty .tooManySymbols)
  let (triples, bits) ← needTriples (counts / 1024 + 4) bits
  let given := lengthOrder.zip triples
  let lengthCode := Code.ofLengths ((List.range 19).map fun symbol =>
    ((given.find? fun entry => entry.1 == symbol).map Prod.snd).getD 0)
  if !(lengthCode.isComplete || lengthCode.symbols.isEmpty) then throw (.faulty .lengthCode)
  let (lengths, bits) ←
    needLengths lengthCode (literalCount + distanceCount) (literalCount + distanceCount) [] bits
  if lengths[256]?.getD 0 = 0 then throw (.faulty .noEnd)
  let literals := Code.ofLengths (lengths.take literalCount)
  if !isUsable literals then throw (.faulty .literalCode)
  let distances := Code.ofLengths (lengths.drop literalCount)
  if !isUsable distances then throw (.faulty .distanceCode)
  return ((literals, distances), bits)

/-- The bytes with so many that are stored, and what is left after them. -/
def readBytes (output : Array Nat) : Nat → Bits → Array Nat × Except Stop Bits
  | 0, bits => (output, .ok bits)
  | count + 1, bits =>
    match need 8 bits with
    | .error stop => (output, .error stop)
    | .ok (byte, bits) => readBytes (output.push byte) count bits

/-- The bytes with those of a stored block. -/
def readStored (output : Array Nat) (bits : Bits) : Array Nat × Except Stop Bits :=
  match need 32 (toByte bits) with
  | .error stop => (output, .error stop)
  | .ok (lengths, bits) =>
    let length := lengths % 0x10000
    if length + lengths / 0x10000 ≠ 0xffff then (output, .error (.faulty .storedLength))
    else readBytes output length bits

/-- The bytes with those of the block at the front, whether it is the last one, and what is left. -/
def readBlock (output : Array Nat) (bits : Bits) : Array Nat × Except Stop (Bool × Bits) :=
  match need 3 bits with
  | .error stop => (output, .error stop)
  | .ok (head, bits) =>
    let (output, rest) :=
      match head / 2 with
      | 0 => readStored output bits
      | 1 => readItems fixedLiterals fixedDistances (bits.length + 1) output bits
      | 2 =>
        match needCodes bits with
        | .error stop => (output, .error stop)
        | .ok ((literals, distances), bits) =>
          readItems literals distances (bits.length + 1) output bits
      | _ => (output, .error (.faulty .blockType))
    (output, rest.map fun bits => (head % 2 == 1, bits))

/-- The bytes of blocks up to the last one, and what is left after it. Every block takes three bits
at least. -/
def readBlocks (budget : Nat) (output : Array Nat) (bits : Bits) : Array Nat × Except Stop Bits :=
  match budget with
  | 0 => (output, .error .ended)
  | budget + 1 =>
    match readBlock output bits with
    | (output, .error stop) => (output, .error stop)
    | (output, .ok (true, bits)) => (output, .ok bits)
    | (output, .ok (false, bits)) => readBlocks budget output bits

/-- The bytes of blocks, and what is left after them. -/
def inflate (bits : Bits) : Array Nat × Except Stop Bits := readBlocks (bits.length + 1) #[] bits

end ExamPress.Compression
