/-! # Codes of compressed data

A code gives each symbol a word of bits, such that no word begins another one. It is told by the
lengths of its words alone: the words of one length are consecutive numbers in the order of their
symbols, and follow those of the shorter ones. Bits are read from a list. -/

namespace ExamPress.Compression

/-- A sequence of bits. -/
abbrev Bits := List Bool

/-- The bits of bytes, the lowest bit of each byte first. -/
def bitsOf (bytes : List Nat) : Bits :=
  bytes.flatMap fun byte => (List.range 8).map fun i => byte.testBit i

/-- The number of some bits, the lowest first. -/
def numberOf (bits : Bits) : Nat := bits.foldr (fun bit n => 2 * n + bit.toNat) 0

/-- The number in so many bits at the front, and the rest. -/
def takeNumber (count : Nat) (bits : Bits) : Option (Nat × Bits) :=
  let front := bits.take count
  if front.length < count then none else some (numberOf front, bits.drop count)

/-- The bits from the next whole byte on, of bits that end with a whole byte. -/
def toByte (bits : Bits) : Bits := bits.drop (bits.length % 8)

/-- A code: how many words there are of each length from one on, and the symbols in the order of
their words. -/
structure Code where
  counts : List Nat
  symbols : List Nat
deriving DecidableEq, Repr

namespace Code

/-- The code whose symbols have words of given lengths. A symbol without a word has length zero. -/
def ofLengths (lengths : List Nat) : Code :=
  let sizes := (List.range (max 1 (lengths.foldl max 0))).map (· + 1)
  let ofSize (size : Nat) : List Nat :=
    (lengths.zipIdx.filter fun entry => entry.1 == size).map Prod.snd
  { counts := sizes.map fun size => (ofSize size).length
    symbols := sizes.flatMap ofSize }

/-- The words of the greatest length that are left, after the words of some lengths. A negative
number says how many there are too many at the length where they are used up. -/
def left (free : Int) : List Nat → Int
  | [] => free
  | count :: counts =>
    let free := 2 * free - count
    if free < 0 then free else left free counts

/-- Whether all sequences of bits begin with a word and no two words are the same. -/
def isComplete (c : Code) : Bool := left 1 c.counts == 0

/-- Whether the code has no words, or words of length one only and not both of them. -/
def isMinimal (c : Code) : Bool := c.counts.length == 1 && 0 < left 1 c.counts

/-- What is at the front of some bits: the symbol of a word, with the rest; no word; or nothing that
can be told before there are more bits. -/
inductive Found where
  | symbol (symbol : Nat) (rest : Bits)
  | none
  | unfinished
deriving DecidableEq, Repr

/-- Looks for a word of the lengths whose counts are given, after bits that are no word. -/
def findFrom (word first : Nat) (symbols : List Nat) : List Nat → Bits → Found
  | [], _ => .none
  | _ :: _, [] => .unfinished
  | count :: counts, bit :: bits =>
    let word := 2 * word + bit.toNat
    if word < first + count then
      match symbols[word - first]? with
      | some symbol => .symbol symbol bits
      | none => .none
    else findFrom word (2 * (first + count)) (symbols.drop count) counts bits

/-- Looks for the word at the front of some bits. -/
def find (c : Code) (bits : Bits) : Found := findFrom 0 0 c.symbols c.counts bits

end Code

end ExamPress.Compression
