/-! # Texts

A text is the list of its code points. A code point is a character, or a surrogate: a number that
Unicode keeps for one half of a pair, and that is no character when it stands on its own. A text may
hold surrogates, because an escape in its source may name one; such a text has no UTF-8 form. All
the functions here are total and work on the list from the left; lengths and positions count code
points. -/

namespace ExamPress

/-- A code point. The surrogate of an index is the one that comes so far after the first. -/
inductive CodePoint where
  | char (c : Char)
  | surrogate (index : Fin 2048)
deriving DecidableEq, Repr

namespace CodePoint

instance : Coe Char CodePoint := ⟨char⟩

/-- The number of the first surrogate. -/
def firstSurrogate : Nat := 0xd800

/-- The number of a code point. -/
def toNat : CodePoint → Nat
  | char c => c.toNat
  | surrogate index => firstSurrogate + index

/-- The code point of a number; of one that no code point has, the null character. -/
def ofNat (n : Nat) : CodePoint :=
  if h : firstSurrogate ≤ n ∧ n < firstSurrogate + 2048 then
    surrogate ⟨n - firstSurrogate, by omega⟩
  else char (Char.ofNat n)

/-- Whether a code point is a character with a property. -/
def satisfies (p : Char → Bool) : CodePoint → Bool
  | char c => p c
  | surrogate _ => false

/-- Whether a code point is a surrogate. -/
def isSurrogate : CodePoint → Bool
  | char _ => false
  | surrogate _ => true

/-- A letter of ASCII. -/
def isAlpha (c : CodePoint) : Bool := c.satisfies Char.isAlpha

/-- A digit of ASCII. -/
def isDigit (c : CodePoint) : Bool := c.satisfies Char.isDigit

/-- A letter or a digit of ASCII. -/
def isAlphanum (c : CodePoint) : Bool := c.satisfies Char.isAlphanum

/-- A letter of ASCII in lower case; any other code point itself. -/
def lowerAscii : CodePoint → CodePoint
  | char c => char c.toLower
  | c => c

/-- Whether a code point stands between two characters, these included. -/
def isBetween (first last : Char) (c : CodePoint) : Bool :=
  first.toNat ≤ c.toNat && c.toNat ≤ last.toNat

/-- The value of a digit of ASCII, zero for any other code point. -/
def digitValue (c : CodePoint) : Nat := if c.isDigit then c.toNat - 48 else 0

end CodePoint

/-- A text, as the list of its code points. -/
abbrev Text := List CodePoint

end ExamPress

/-- The text of a string. -/
def String.toText (s : String) : ExamPress.Text := s.toList.map ExamPress.CodePoint.char

namespace ExamPress.Text

/-- The pieces of a text between the occurrences of a separator. There is always at least one. -/
def splitOn (separator : CodePoint) : Text → List Text
  | [] => [[]]
  | c :: rest =>
    match splitOn separator rest with
    | [] => [[]]
    | piece :: pieces =>
      if c = separator then [] :: piece :: pieces else (c :: piece) :: pieces

/-- The pieces with one separator between neighbours. -/
def joinWith (separator : Text) : List Text → Text
  | [] => []
  | [piece] => piece
  | piece :: next :: pieces => piece ++ separator ++ joinWith separator (next :: pieces)

/-- The text without the longest stretch of characters at its end that satisfy `p`. -/
def dropRightWhile (p : CodePoint → Bool) (s : Text) : Text := (s.reverse.dropWhile p).reverse

/-- The text without the characters at both ends that satisfy `p`. -/
def stripWhile (p : CodePoint → Bool) (s : Text) : Text := dropRightWhile p (s.dropWhile p)

/-- Whether a text begins with another one. -/
def startsWith (s start : Text) : Bool := start.isPrefixOf s

/-- Whether a text ends with another one. -/
def endsWith (s ending : Text) : Bool := ending.reverse.isPrefixOf s.reverse

/-- The text as it is read from a file opened for lines: CR LF and a lone CR both become LF. -/
def universalNewlines : Text → Text
  | [] => []
  | .char '\r' :: .char '\n' :: rest => '\n' :: universalNewlines rest
  | c :: rest => (if c = '\r' then '\n' else c) :: universalNewlines rest

/-- The decimal digits of a natural number. -/
def ofNat (n : Nat) : Text := (Nat.toDigits 10 n).map CodePoint.char

/-- The decimal text of an integer. -/
def ofInt : Int → Text
  | .ofNat n => ofNat n
  | .negSucc n => '-' :: ofNat (n + 1)

/-- The number that decimal digits write. -/
def toNat (digits : Text) : Nat := digits.foldl (fun n c => 10 * n + c.digitValue) 0

/-- Whether a text is one of some words. -/
def isAnyOf (s : Text) (words : List String) : Bool := words.any fun word => word.toText = s

/-- A letter of the ASCII alphabet in lower case; any other code point itself. -/
def lowerAscii (s : Text) : Text := s.map CodePoint.lowerAscii

/-! ### Pieces, line ends and endings -/

theorem splitOn_ne_nil (separator : CodePoint) (s : Text) : splitOn separator s ≠ [] := by
  induction s with
  | nil => simp [splitOn]
  | cons c rest ih =>
    obtain ⟨piece, pieces, h⟩ := List.exists_cons_of_ne_nil ih
    simp only [splitOn, h]
    split <;> simp

theorem not_mem_of_mem_splitOn {separator : CodePoint} {s piece : Text}
    (h : piece ∈ splitOn separator s) : separator ∉ piece := by
  induction s generalizing piece with
  | nil =>
    simp only [splitOn, List.mem_singleton] at h
    simp [h]
  | cons c rest ih =>
    obtain ⟨first, pieces, hs⟩ := List.exists_cons_of_ne_nil (splitOn_ne_nil separator rest)
    simp only [splitOn, hs] at h
    rw [hs] at ih
    split at h
    · rcases List.mem_cons.mp h with rfl | h
      · simp
      · exact ih h
    · rename_i hc
      rcases List.mem_cons.mp h with rfl | h
      · simp only [List.mem_cons, not_or]
        exact ⟨fun e => hc e.symm, ih (List.mem_cons_self ..)⟩
      · exact ih (List.mem_cons_of_mem _ h)

theorem splitOn_of_not_mem {separator : CodePoint} {s : Text} (h : separator ∉ s) :
    splitOn separator s = [s] := by
  induction s with
  | nil => rfl
  | cons c rest ih =>
    obtain ⟨hc, hr⟩ := not_or.mp (mt List.mem_cons.mpr h)
    simp only [splitOn, ih hr, if_neg (Ne.symm hc)]

theorem splitOn_append (separator : CodePoint) (a b : Text) :
    splitOn separator (a ++ separator :: b) = splitOn separator a ++ splitOn separator b := by
  induction a with
  | nil =>
    obtain ⟨piece, pieces, h⟩ := List.exists_cons_of_ne_nil (splitOn_ne_nil separator b)
    simp only [List.nil_append, splitOn, h, if_true, List.singleton_append]
  | cons c rest ih =>
    obtain ⟨piece, pieces, h⟩ := List.exists_cons_of_ne_nil (splitOn_ne_nil separator rest)
    rw [h] at ih
    simp only [List.cons_append, splitOn, ih, h]
    split <;> rfl

/-- Cutting undoes joining. -/
theorem splitOn_joinWith {separator : CodePoint} {pieces : List Text} (hne : pieces ≠ [])
    (h : ∀ piece ∈ pieces, separator ∉ piece) :
    splitOn separator (joinWith [separator] pieces) = pieces := by
  induction pieces with
  | nil => exact absurd rfl hne
  | cons piece pieces ih =>
    obtain ⟨hp, hps⟩ := List.forall_mem_cons.mp h
    cases pieces with
    | nil => exact splitOn_of_not_mem hp
    | cons next pieces =>
      rw [joinWith, List.append_assoc, List.singleton_append, splitOn_append,
        splitOn_of_not_mem hp, ih (List.cons_ne_nil _ _) hps, List.singleton_append]

end ExamPress.Text
