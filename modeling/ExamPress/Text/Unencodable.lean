import ExamPress.Text.Quoted

/-! # Texts that can not be encoded

A coding need not have a form for every code point. The first stretch of code points without one is
named by its place. -/

namespace ExamPress.Text

/-- The code points that a coding has a form for: those of ASCII, or all characters. -/
inductive Repertoire where
  | ascii
  | characters
deriving DecidableEq, Repr

namespace Repertoire

/-- Whether there is a form for a code point. -/
def contains : Repertoire → CodePoint → Bool
  | ascii, c => c.toNat < 0x80
  | characters, c => !c.isSurrogate

/-- The name of the coding. -/
def coding : Repertoire → String
  | ascii => "ascii"
  | characters => "utf-8"

/-- Why other code points have no form. -/
def reason : Repertoire → String
  | ascii => "ordinal not in range(128)"
  | characters => "surrogates not allowed"

end Repertoire

/-- A stretch of code points without a form: where it starts, and what it consists of. -/
structure Unencodable where
  repertoire : Repertoire
  position : Nat
  stretch : Text
deriving DecidableEq, Repr

/-- The wording for a text that can not be encoded. One code point is shown, several are counted. -/
def Unencodable.message (e : Unencodable) : Text :=
  let place :=
    match e.stretch with
    | [c] =>
      "character '".toText ++ Quoted.byNumber c ++ s!"' in position {e.position}".toText
    | several =>
      s!"characters in position {e.position}-{e.position + several.length - 1}".toText
  s!"'{e.repertoire.coding}' codec can't encode ".toText ++ place ++
    (": " ++ e.repertoire.reason).toText

/-- A text, or the first stretch of it that can not be encoded. -/
def Repertoire.check (r : Repertoire) (s : Text) : Except Unencodable Text :=
  match s.dropWhile r.contains with
  | [] => .ok s
  | c :: rest =>
    let stretch := (c :: rest).takeWhile fun c => !r.contains c
    .error ⟨r, s.length - (c :: rest).length, stretch⟩

/-- Only a text of code points that have a form passes the check, and it stays as it is. -/
theorem Repertoire.check_eq_ok_iff {r : Repertoire} {s t : Text} :
    r.check s = .ok t ↔ s = t ∧ s.all r.contains = true := by
  have hall : s.dropWhile r.contains = [] ↔ s.all r.contains = true := by
    induction s with
    | nil => simp
    | cons c s ih => by_cases h : r.contains c <;> simp [h, ih]
  unfold Repertoire.check
  split
  · rename_i h
    simp [hall.mp h]
  · rename_i h
    rw [← hall, h]
    simp

end ExamPress.Text
