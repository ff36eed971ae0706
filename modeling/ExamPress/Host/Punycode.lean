import ExamPress.Text.Basic

/-! # Punycode

A text in letters, digits and hyphens. The characters of ASCII come first, in their order, with a
hyphen behind them. Then, for each further character by its number, a count says how many places are
passed over until it is inserted, where a place is a character together with a position. A count is
written with digits in base 36, the lowest first, and a digit below a threshold ends it; the
thresholds follow the size of the counts so far. -/

namespace ExamPress.Host.Punycode

/-- The digit of a number below 36. -/
def digit (n : Nat) : CodePoint := if n < 26 then .ofNat (0x61 + n) else .ofNat (0x30 + (n - 26))

/-- The number of a digit. -/
def value? (c : CodePoint) : Option Nat :=
  if c.isBetween 'a' 'z' then some (c.toNat - 0x61)
  else if c.isBetween 'A' 'Z' then some (c.toNat - 0x41)
  else if c.isBetween '0' '9' then some (c.toNat - 0x30 + 26)
  else none

/-- The threshold of a place, counted by 36 from 36 on. -/
def threshold (bias place : Nat) : Nat := min 26 (max 1 (place - bias))

theorem one_le_threshold (bias place : Nat) : 1 ≤ threshold bias place := by
  unfold threshold
  omega

/-- A size divided by 35 until it is at most 455, with 36 for each division added to a sum. -/
def scaleDown (size sum : Nat) : Nat × Nat :=
  if 455 < size then scaleDown (size / 35) (sum + 36) else (size, sum)
termination_by size
decreasing_by omega

/-- The bias after a count, when so many characters are written. The first count is damped. -/
def adapt (count written : Nat) (isFirst : Bool) : Nat :=
  let size := if isFirst then count / 700 else count / 2
  let (size, sum) := scaleDown (size + size / written) 0
  sum + 36 * size / (size + 38)

/-! ### Writing -/

/-- The digits of a count from a place on. -/
def writeCount (bias place n : Nat) : Text :=
  let t := threshold bias place
  if n < t then [digit n]
  else digit (t + (n - t) % (36 - t)) :: writeCount bias (place + 36) ((n - t) / (36 - t))
termination_by n
decreasing_by
  have := one_le_threshold bias place
  have := Nat.div_le_self (n - threshold bias place) (36 - threshold bias place)
  omega

/-- A text that is being written: its digits so far, the places passed over since the last count,
the bias, and how many characters are written. -/
structure Writing where
  digits : Text := []
  count : Nat := 0
  bias : Nat := 72
  written : Nat

/-- The writing when it passes a character of the text while it inserts the ones of a number. -/
def Writing.pass (basic number : Nat) (w : Writing) (c : CodePoint) : Writing :=
  if c.toNat < number then { w with count := w.count + 1 }
  else if c.toNat = number then
    { digits := w.digits ++ writeCount w.bias 36 w.count
      count := 0
      bias := adapt w.count (w.written + 1) (w.written == basic)
      written := w.written + 1 }
  else w

/-- Inserts the characters of all numbers, which are in ascending order, from a number on. -/
def insertAll (s : Text) (basic : Nat) (w : Writing) (start : Nat) : List Nat → Text
  | [] => w.digits
  | number :: numbers =>
    let w := { w with count := w.count + (number - start) * (w.written + 1) }
    let w := s.foldl (Writing.pass basic number) w
    insertAll s basic { w with count := w.count + 1 } (number + 1) numbers

/-- A number put in its place among numbers in ascending order, unless it is there. -/
def insertNumber (n : Nat) : List Nat → List Nat
  | [] => [n]
  | m :: rest =>
    if n < m then n :: m :: rest else if n = m then m :: rest else m :: insertNumber n rest

/-- Whether a code point is one of ASCII. -/
def isBasic (c : CodePoint) : Bool := c.toNat < 0x80

/-- The punycode of a text. -/
def encode (s : Text) : Text :=
  let basic := s.filter isBasic
  let numbers := (s.filter fun c => !isBasic c).foldr (fun c => insertNumber c.toNat) []
  (if basic.isEmpty then [] else basic ++ "-".toText) ++
    insertAll s basic.length { written := basic.length } 0x80 numbers

/-! ### Reading -/

/-- The count at the front of a text, and the rest. -/
def readCount (bias place weight sum : Nat) : Text → Option (Nat × Text)
  | [] => none
  | c :: rest =>
    match value? c with
    | none => none
    | some d =>
      let t := threshold bias place
      if d < t then some (sum + d * weight, rest)
      else readCount bias (place + 36) (weight * (36 - t)) (sum + d * weight) rest

theorem length_of_readCount {bias place weight sum count : Nat} {s rest : Text}
    (h : readCount bias place weight sum s = some (count, rest)) : rest.length < s.length := by
  induction s generalizing place weight sum with
  | nil => simp [readCount] at h
  | cons c s ih =>
    rw [readCount] at h
    split at h
    · simp at h
    · dsimp only at h
      split at h
      · simp only [Option.some.injEq, Prod.mk.injEq] at h
        simp [h.2]
      · exact Nat.lt_succ_of_lt (ih h)

/-- Inserts characters into a text by the counts of another one, from the place after the last
insertion on. -/
def readAll (s : Text) (bias number position : Nat) (isFirst : Bool) (counts : Text) :
    Option Text :=
  if counts.isEmpty then some s
  else
    match _ : readCount bias 36 1 0 counts with
    | none => none
    | some (count, rest) =>
      let places := s.length + 1
      let number := number + (position + count) / places
      let position := (position + count) % places
      if number > 0x10ffff then none
      else
        let s := s.take position ++ .ofNat number :: s.drop position
        readAll s (adapt count places isFirst) number (position + 1) false rest
termination_by counts.length
decreasing_by exact length_of_readCount ‹_›

/-- The text that a punycode stands for. -/
def decode (s : Text) : Option Text :=
  let counts := (s.reverse.takeWhile fun (c : CodePoint) => c != '-').reverse
  readAll (s.take (s.length - counts.length - 1)) 72 0x80 0 true counts

end ExamPress.Host.Punycode
