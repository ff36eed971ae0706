import ExamPress.Text.Malformed
import ExamPress.Text.Unencodable

/-! # UTF-8

Bytes are natural numbers below 256. `encode` writes each code point in one to four bytes. It writes
surrogates too, in three bytes, which only `decodeLoosely` reads; where a text must have a proper
UTF-8 form, `check` names the first stretch of surrogates in it. `decode` reads the bytes of
characters, and otherwise names the first stretch of bytes that is none, by the first byte that can
not stand where it does. `decodeReplacing` reads any bytes. -/

namespace ExamPress.Text.Utf8

/-- The bytes of a code point. -/
def encodeChar (c : CodePoint) : List Nat :=
  let n := c.toNat
  if n < 0x80 then [n]
  else if n < 0x800 then [0xc0 + n / 0x40, 0x80 + n % 0x40]
  else if n < 0x10000 then [0xe0 + n / 0x1000, 0x80 + n / 0x40 % 0x40, 0x80 + n % 0x40]
  else [0xf0 + n / 0x40000, 0x80 + n / 0x1000 % 0x40, 0x80 + n / 0x40 % 0x40, 0x80 + n % 0x40]

/-- The bytes of a text. -/
def encode (s : Text) : List Nat := s.flatMap encodeChar

/-- A text that has a UTF-8 form, or the first stretch of surrogates in it. -/
def check (s : Text) : Except Unencodable Text := Repertoire.characters.check s

/-! ### Reading bytes -/

/-- Whether a byte continues a code point. -/
def isContinuation (b : Nat) : Bool := 0x80 ≤ b && b < 0xc0

/-- The bounds of the second byte after a given first byte. They exclude code points that have a
shorter form, surrogates, and numbers above U+10FFFF. -/
def secondBounds (first : Nat) : Nat × Nat :=
  if first = 0xe0 then (0xa0, 0xbf)
  else if first = 0xed then (0x80, 0x9f)
  else if first = 0xf0 then (0x90, 0xbf)
  else if first = 0xf4 then (0x80, 0x8f)
  else (0x80, 0xbf)

/-- The number of bytes that a first byte announces, if it is one. -/
def announced (first : Nat) : Option Nat :=
  if first < 0x80 then some 1
  else if 0xc2 ≤ first ∧ first < 0xe0 then some 2
  else if 0xe0 ≤ first ∧ first < 0xf0 then some 3
  else if 0xf0 ≤ first ∧ first < 0xf5 then some 4
  else none

/-- The payload of a first byte. -/
def payload (first : Nat) : Nat :=
  if first < 0x80 then first
  else if first < 0xe0 then first - 0xc0
  else if first < 0xf0 then first - 0xe0
  else first - 0xf0

/-- The first code point of a nonempty list of bytes, and how many bytes it takes; or the fault and
the length of the bad stretch. -/
def decodeFirst (first : Nat) (rest : List Nat) : Except (CodingFault × Nat) (CodePoint × Nat) :=
  match announced first with
  | none => .error (.startByte, 1)
  | some size =>
    let follow := rest.take (size - 1)
    let fits (i b : Nat) : Bool :=
      if i = 0 then (secondBounds first).1 ≤ b && b ≤ (secondBounds first).2 else isContinuation b
    let good := (follow.zipIdx.takeWhile fun (b, i) => fits i b).length
    if good < follow.length then .error (.continuationByte, good + 1)
    else if follow.length < size - 1 then .error (.endOfData, follow.length + 1)
    else
      .ok (.ofNat (follow.foldl (fun n b => n * 0x40 + (b - 0x80)) (payload first)), size)

/-- The surrogate whose three bytes begin with a first byte and go on with others. -/
def surrogate? (first : Nat) (rest : List Nat) : Option CodePoint :=
  match rest with
  | b :: c :: _ =>
    if first = 0xed ∧ 0xa0 ≤ b ∧ b < 0xc0 ∧ isContinuation c then
      some (.ofNat (0xd000 + (b - 0x80) * 0x40 + (c - 0x80)))
    else none
  | _ => none

/-- Reads the bytes from a position on, skipping those that belong to the code point before. If it
is `loose`, surrogates are read too. -/
def decodeFrom (loose : Bool) (position skipped : Nat) : List Nat → Except Malformed Text
  | [] => .ok []
  | b :: rest =>
    match skipped with
    | skipped + 1 => decodeFrom loose (position + 1) skipped rest
    | 0 =>
      match if loose then surrogate? b rest else none, decodeFirst b rest with
      | some c, _ => (decodeFrom loose (position + 1) 2 rest).map (c :: ·)
      | none, .error (fault, length) => .error ⟨.utf8, fault, position, length, b⟩
      | none, .ok (c, size) => (decodeFrom loose (position + 1) (size - 1) rest).map (c :: ·)

/-- The text that the bytes encode. -/
def decode (bytes : List Nat) : Except Malformed Text := decodeFrom false 0 0 bytes

/-- The text that the bytes encode after those that belong to the code point before. A stretch that
is no code point is replaced by a character that stands for it. -/
def replaceFrom (skipped : Nat) : List Nat → Text
  | [] => []
  | b :: rest =>
    match skipped with
    | skipped + 1 => replaceFrom skipped rest
    | 0 =>
      match decodeFirst b rest with
      | .error (_, length) => '\uFFFD' :: replaceFrom (length - 1) rest
      | .ok (c, size) => c :: replaceFrom (size - 1) rest

/-- The text of any bytes: stretches that are no code points are replaced. -/
def decodeReplacing (bytes : List Nat) : Text := replaceFrom 0 bytes

/-- The text that the bytes encode, with surrogates that have three bytes of their own. -/
def decodeLoosely (bytes : List Nat) : Except Malformed Text := decodeFrom true 0 0 bytes

end ExamPress.Text.Utf8
