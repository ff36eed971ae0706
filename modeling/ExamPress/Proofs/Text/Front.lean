import ExamPress.Text.Basic
import Mathlib.Data.List.TakeWhile

/-! # The front of a text

What stands at the front of two texts that were put together, and inside one of them. -/

namespace ExamPress.Text

theorem prefix_append_cases {p a b : Text} (h : p <+: a ++ b) :
    p <+: a ∨ ∃ q, q <+: b ∧ p = a ++ q := by
  rcases List.prefix_or_prefix_of_prefix h (List.prefix_append a b) with h' | ⟨q, rfl⟩
  · exact Or.inl h'
  · exact Or.inr ⟨q, (List.prefix_append_right_inj a).mp h, rfl⟩

theorem not_prefix_append {p a b : Text} (ha : ¬ p <+: a) (hb : ∀ c ∈ b.head?, c ∉ p) :
    ¬ p <+: a ++ b := by
  intro h
  rcases prefix_append_cases h with front | ⟨q, hq, rfl⟩
  · exact ha front
  · cases q with
    | nil =>
      rw [List.append_nil] at ha
      exact ha List.prefix_rfl
    | cons c q =>
      obtain ⟨r, rfl⟩ := hq
      exact hb c rfl (List.mem_append_right a List.mem_cons_self)

theorem not_infix_append {p a b : Text} (h : ¬ p <:+: a ++ b) : ¬ p <:+: a ∧ ¬ p <:+: b :=
  ⟨fun inside => h (inside.trans (List.prefix_append a b).isInfix),
    fun inside => h (inside.trans (List.suffix_append a b).isInfix)⟩

/-- The longest stretch of a class ends in front of the first character that is not in it. -/
theorem takeWhile_append {p : CodePoint → Bool} {a r : Text} (ha : ∀ c ∈ a, p c = true)
    (hr : ∀ c ∈ r.head?, p c = false) : (a ++ r).takeWhile p = a := by
  have stop : r.takeWhile p = [] := by
    rcases r with _ | ⟨c, r⟩
    · rfl
    · simp [hr c rfl]
  rw [List.takeWhile_append_of_pos ha, stop, List.append_nil]

theorem dropWhile_append {p : CodePoint → Bool} {a r : Text} (ha : ∀ c ∈ a, p c = true)
    (hr : ∀ c ∈ r.head?, p c = false) : (a ++ r).dropWhile p = r := by
  rw [List.dropWhile_append_of_pos ha]
  rcases r with _ | ⟨c, r⟩
  · rfl
  · exact List.dropWhile_cons_of_neg (by simp [hr c rfl])

/-- At the front of a text stands the longest stretch of a class, which may be empty. -/
theorem exists_stretch (p : CodePoint → Bool) (s : Text) :
    ∃ a r : Text, s = a ++ r ∧ (∀ c ∈ a, p c = true) ∧ ∀ c ∈ r.head?, p c = false := by
  refine ⟨s.takeWhile p, s.dropWhile p, List.takeWhile_append_dropWhile.symm,
    fun c => List.mem_takeWhile_imp, fun c hc => ?_⟩
  have h := List.head?_dropWhile_not p s
  rw [Option.mem_def.mp hc] at h
  simpa using h

end ExamPress.Text
