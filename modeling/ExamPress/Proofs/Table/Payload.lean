import ExamPress.Proofs.Text.Front
import ExamPress.Table.Rows
import Mathlib.Data.List.Basic
import Mathlib.Tactic.Common

/-! # The text of a table

A text carries the text of its table: what is left of it without code fences and without blanks at
the ends. `Unfenced` tells which characters belong to a fence, from the front of the text on, and
`IsStripped` where the blanks end. The table is read from that one text (`carries_iff`). -/

namespace ExamPress.Table

/-! ### Fences -/

/-- `Unfenced s t`: the text `t` is left of `s` without its fences. At the front of a text stands a
fence with the word, or one without it, or a character that is kept. -/
inductive Unfenced : Text → Text → Prop
  | nil : Unfenced [] []
  | wordFence {s t : Text} (rest : Unfenced s t) : Unfenced (fenceMark ++ (fenceWord ++ s)) t
  | fence {s t : Text} (plain : ¬ fenceWord <+: s) (rest : Unfenced s t) :
      Unfenced (fenceMark ++ s) t
  | keep {c : CodePoint} {s t : Text} (unmarked : ¬ fenceMark <+: c :: s) (rest : Unfenced s t) :
      Unfenced (c :: s) (c :: t)

theorem removeFencesFrom_eq_drop (skipped : Nat) (s : Text) :
    removeFencesFrom skipped s = removeFences (s.drop skipped) := by
  induction s generalizing skipped with
  | nil => simp [removeFences, removeFencesFrom]
  | cons c s ih =>
    cases skipped with
    | zero => rfl
    | succ skipped => exact ih skipped

theorem fenceLength_wordFence (s : Text) : fenceLength (fenceMark ++ (fenceWord ++ s)) = 7 := by
  rw [fenceLength, if_pos]
  · rfl
  · rw [Text.startsWith, List.isPrefixOf_iff_prefix, ← List.append_assoc]
    exact List.prefix_append _ s

theorem fenceLength_fence {s : Text} (plain : ¬ fenceWord <+: s) :
    fenceLength (fenceMark ++ s) = 3 := by
  rw [fenceLength, if_neg, if_pos]
  · rfl
  · rw [Text.startsWith, List.isPrefixOf_iff_prefix]
    exact List.prefix_append _ s
  · rwa [Text.startsWith, List.isPrefixOf_iff_prefix, List.prefix_append_right_inj]

theorem fenceLength_unmarked {s : Text} (unmarked : ¬ fenceMark <+: s) : fenceLength s = 0 := by
  rw [fenceLength, if_neg, if_neg]
  · rwa [Text.startsWith, List.isPrefixOf_iff_prefix]
  · rw [Text.startsWith, List.isPrefixOf_iff_prefix]
    exact fun h => unmarked ((List.prefix_append _ _).trans h)

theorem removeFences_of_fence {length : Nat} {c : CodePoint} {s : Text}
    (h : fenceLength (c :: s) = length + 1) :
    removeFences (c :: s) = removeFences (s.drop length) := by
  rw [← removeFencesFrom_eq_drop]
  simp only [removeFences, removeFencesFrom, h]

theorem removeFences_unmarked {c : CodePoint} {s : Text} (unmarked : ¬ fenceMark <+: c :: s) :
    removeFences (c :: s) = c :: removeFences s := by
  simp only [removeFences, removeFencesFrom, fenceLength_unmarked unmarked]

theorem removeFences_of_unfenced {s t : Text} (h : Unfenced s t) : removeFences s = t := by
  induction h with
  | nil => rfl
  | @wordFence s t _ ih => exact (removeFences_of_fence (fenceLength_wordFence s)).trans ih
  | fence plain _ ih => exact (removeFences_of_fence (fenceLength_fence plain)).trans ih
  | keep unmarked _ ih => rw [removeFences_unmarked unmarked, ih]

theorem exists_unfenced (s : Text) : ∃ t, Unfenced s t := by
  induction h : s.length using Nat.strongRecOn generalizing s with
  | ind length ih =>
    have mark : 0 < fenceMark.length := by decide
    by_cases marked : fenceMark <+: s
    · obtain ⟨r, rfl⟩ := marked
      by_cases word : fenceWord <+: r
      · obtain ⟨r, rfl⟩ := word
        obtain ⟨t, ht⟩ := ih r.length (by simp only [← h, List.length_append]; omega) r rfl
        exact ⟨t, ht.wordFence⟩
      · obtain ⟨t, ht⟩ := ih r.length (by simp only [← h, List.length_append]; omega) r rfl
        exact ⟨t, ht.fence word⟩
    · cases s with
      | nil => exact ⟨[], .nil⟩
      | cons c s =>
        obtain ⟨t, ht⟩ := ih s.length (by simp [← h]) s rfl
        exact ⟨c :: t, ht.keep marked⟩

/-- **Fences are removed** as the rules say. -/
theorem unfenced_iff {s t : Text} : Unfenced s t ↔ removeFences s = t := by
  refine ⟨removeFences_of_unfenced, ?_⟩
  rintro rfl
  obtain ⟨t, ht⟩ := exists_unfenced s
  rwa [removeFences_of_unfenced ht]

theorem Unfenced.self {s : Text} (h : ∀ c ∈ s, c ≠ '\x60') : Unfenced s s := by
  induction s with
  | nil => exact .nil
  | cons c s ih =>
    refine .keep (fun marked => h c List.mem_cons_self ?_) (ih fun d hd => h d (.tail _ hd))
    exact (List.cons_prefix_cons.mp marked).1.symm

/-! ### Texts that are put together -/

/-- A character that is in no fence. -/
def IsApart (c : CodePoint) : Prop := c ∉ fenceMark ++ fenceWord

instance : DecidablePred IsApart := fun _ => inferInstanceAs (Decidable (_ ∉ _))

theorem IsApart.ne {c : CodePoint} (h : IsApart c) : c ≠ '\x60' := by
  rintro rfl
  exact h (by decide)

/-- A fence does not go on over a character that is in none. -/
theorem Unfenced.append {s t u v : Text} (h : Unfenced s t) (hu : Unfenced u v)
    (apart : ∀ c ∈ u.head?, IsApart c) : Unfenced (s ++ u) (t ++ v) := by
  have mark : ∀ c ∈ u.head?, c ∉ fenceMark :=
    fun c hc inside => apart c hc (List.mem_append_left _ inside)
  have word : ∀ c ∈ u.head?, c ∉ fenceWord :=
    fun c hc inside => apart c hc (List.mem_append_right _ inside)
  induction h with
  | nil => exact hu
  | wordFence _ ih =>
    rw [List.append_assoc, List.append_assoc]
    exact .wordFence ih
  | fence plain _ ih =>
    rw [List.append_assoc]
    exact .fence (Text.not_prefix_append plain word) ih
  | keep unmarked _ ih => exact .keep (Text.not_prefix_append unmarked mark) ih

theorem removeFences_append {s u : Text} (apart : ∀ c ∈ u.head?, IsApart c) :
    removeFences (s ++ u) = removeFences s ++ removeFences u :=
  unfenced_iff.mp ((unfenced_iff.mpr rfl).append (unfenced_iff.mpr rfl) apart)

theorem removeFences_nil : removeFences [] = [] := rfl

theorem removeFences_cons {c : CodePoint} (h : c ≠ '\x60') (s : Text) :
    removeFences (c :: s) = c :: removeFences s :=
  removeFences_unmarked fun marked => h (List.cons_prefix_cons.mp marked).1.symm

theorem removeFences_apart_append {m : Text} (apart : ∀ c ∈ m, IsApart c) (s : Text) :
    removeFences (m ++ s) = m ++ removeFences s := by
  induction m with
  | nil => rfl
  | cons c m ih =>
    obtain ⟨hc, hm⟩ := List.forall_mem_cons.mp apart
    rw [List.cons_append, removeFences_cons hc.ne, ih hm, List.cons_append]

/-- Fences are removed on both sides of what is in none. -/
theorem removeFences_between {a m s : Text} (some : m ≠ []) (apart : ∀ c ∈ m, IsApart c) :
    removeFences (a ++ (m ++ s)) = removeFences a ++ (m ++ removeFences s) := by
  have front : ∀ c ∈ (m ++ s).head?, IsApart c := by
    obtain ⟨d, m, rfl⟩ := List.exists_cons_of_ne_nil some
    rintro c ⟨⟩
    exact apart d List.mem_cons_self
  rw [removeFences_append front, removeFences_apart_append apart]

theorem removeFences_of_no_mark {s : Text} (h : ¬ fenceMark <:+: s) : removeFences s = s := by
  induction s with
  | nil => rfl
  | cons c s ih =>
    rw [removeFences_unmarked fun front => h front.isInfix, ih]
    exact fun inside => h (inside.trans (List.suffix_cons c s).isInfix)

/-- Backquotes at the front of what is left stood at the front before, if no fence did. -/
theorem Unfenced.prefix_marks {s t : Text} {n : Nat} (h : Unfenced s t)
    (front : List.replicate n (.char '\x60') <+: t) :
    fenceMark <+: s ∨ List.replicate n (.char '\x60') <+: s := by
  induction n generalizing s t with
  | zero => exact Or.inr List.nil_prefix
  | succ n ih =>
    cases h with
    | nil => exact Or.inr front
    | wordFence _ => exact Or.inl (List.prefix_append _ _)
    | fence _ _ => exact Or.inl (List.prefix_append _ _)
    | keep _ rest =>
      obtain ⟨rfl, behind⟩ := List.cons_prefix_cons.mp front
      rcases ih rest behind with ⟨r, rfl⟩ | later
      · exact Or.inl ⟨'\x60' :: r, rfl⟩
      · exact Or.inr (List.cons_prefix_cons.mpr ⟨rfl, later⟩)

/-- **No fence is left**: what stood around a fence does not make up another one. -/
theorem Unfenced.no_mark {s t : Text} (h : Unfenced s t) : ¬ fenceMark <:+: t := by
  induction h with
  | nil => decide
  | wordFence _ ih => exact ih
  | fence _ _ ih => exact ih
  | keep unmarked rest ih =>
    intro inside
    rcases List.infix_cons_iff.mp inside with front | later
    · exact unmarked (((Unfenced.keep unmarked rest).prefix_marks (n := 3) front).elim id id)
    · exact ih later

/-! ### Blanks at the ends -/

/-- `IsStripped s t`: the text `t` is left of `s` without the blanks at its ends. -/
structure IsStripped (s t : Text) : Prop where
  between : ∃ front back, s = front ++ t ++ back ∧ ∀ c ∈ front ++ back, Text.isBlank c = true
  head : ∀ c ∈ t.head?, Text.isBlank c = false
  last : ∀ c ∈ t.getLast?, Text.isBlank c = false

theorem IsStripped.self {s : Text} (head : ∀ c ∈ s.head?, Text.isBlank c = false)
    (last : ∀ c ∈ s.getLast?, Text.isBlank c = false) : IsStripped s s :=
  ⟨⟨[], [], by simp, nofun⟩, head, last⟩

theorem strip_of_isStripped {s t : Text} (h : IsStripped s t) : s.strip = t := by
  obtain ⟨⟨front, back, rfl, blank⟩, head, last⟩ := h
  obtain ⟨blankFront, blankBack⟩ := List.forall_mem_append.mp blank
  rw [Text.strip, Text.stripWhile, Text.dropRightWhile]
  rcases t with _ | ⟨c, t⟩
  · have all : (front ++ [] ++ back).dropWhile Text.isBlank = [] := by
      rw [List.append_nil, List.dropWhile_eq_nil_iff]
      exact blank
    rw [all]
    rfl
  · rw [List.append_assoc, Text.dropWhile_append blankFront (by exact head), List.reverse_append,
      Text.dropWhile_append, List.reverse_reverse]
    · exact fun d hd => blankBack d (List.mem_reverse.mp hd)
    · rwa [List.head?_reverse]

theorem exists_isStripped (s : Text) : ∃ t, IsStripped s t := by
  obtain ⟨front, rest, rfl, blankFront, head⟩ := Text.exists_stretch Text.isBlank s
  obtain ⟨back, core, reversed, blankBack, last⟩ := Text.exists_stretch Text.isBlank rest.reverse
  obtain rfl : rest = core.reverse ++ back.reverse := by
    rw [← List.reverse_append, ← reversed, List.reverse_reverse]
  refine ⟨core.reverse, ⟨front, back.reverse, (List.append_assoc ..).symm, ?_⟩, ?_, ?_⟩
  · exact List.forall_mem_append.mpr
      ⟨blankFront, fun c hc => blankBack c (List.mem_reverse.mp hc)⟩
  · exact fun c hc => head c (List.mem_head?_append_of_mem_head? hc)
  · rwa [List.getLast?_reverse]

/-- **Blanks are removed** from the ends only, and all of them. -/
theorem isStripped_iff {s t : Text} : IsStripped s t ↔ s.strip = t := by
  refine ⟨strip_of_isStripped, ?_⟩
  rintro rfl
  obtain ⟨t, ht⟩ := exists_isStripped s
  rwa [strip_of_isStripped ht]

/-! ### The text that is read -/

/-- `Carries s t`: without its fences and then the blanks at its ends `s` is the text `t`. -/
def Carries (s t : Text) : Prop := ∃ unfenced, Unfenced s unfenced ∧ IsStripped unfenced t

/-- A text carries the one text from which its table is read. -/
theorem carries_iff {s t : Text} : Carries s t ↔ payload s = t := by
  simp only [Carries, unfenced_iff, exists_eq_left', isStripped_iff, payload]

theorem Carries.self {s : Text} (unmarked : ∀ c ∈ s, c ≠ '\x60')
    (head : ∀ c ∈ s.head?, Text.isBlank c = false)
    (last : ∀ c ∈ s.getLast?, Text.isBlank c = false) : Carries s s :=
  ⟨s, .self unmarked, .self head last⟩

end ExamPress.Table
