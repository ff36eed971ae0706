import ExamPress.Proofs.Document.Source
import ExamPress.Proofs.Text.Front
import Mathlib.Data.List.Chain

/-! # Formulas inside a line

The runs of a line are described without the scan that finds them (`IsSplit`): written one after the
other they give the line, no text is empty or stands beside another text, and no text hides a
formula that begins further to the left than the one behind it. Every line has exactly one such
list of runs, the one that the scan finds (`isSplit_iff`). The scan is followed from formula to
formula: up to the leftmost formula all is text (`splitFrom_leftmost`), and without a formula the
whole line is (`splitFrom_of_not_hasFormula`). -/

namespace ExamPress

/-! ### Formulas in a text -/

/-- What may stand between dollar signs as a formula. -/
structure IsFormulaSource (source : Text) : Prop where
  some : source ≠ []
  plain : (.char '$' : CodePoint) ∉ source

/-- A text between dollar signs, in front of another. -/
def dollared (source rest : Text) : Text := '$' :: (source ++ ('$' :: rest : Text))

/-- A text that begins with a formula between dollar signs. -/
def BeginsWithFormula (s : Text) : Prop :=
  ∃ source rest, s = dollared source rest ∧ IsFormulaSource source

/-- A text with a formula between dollar signs anywhere in it. -/
def HasFormula (s : Text) : Prop := ∃ before t : Text, s = before ++ t ∧ BeginsWithFormula t

theorem not_hasFormula_nil : ¬ HasFormula [] := by
  rintro ⟨before, t, h, source, rest, rfl, -⟩
  exact List.cons_ne_nil _ _ (List.append_eq_nil_iff.mp h.symm).2

theorem hasFormula_cons {c : CodePoint} {s : Text} :
    HasFormula (c :: s) ↔ BeginsWithFormula (c :: s) ∨ HasFormula s := by
  constructor
  · rintro ⟨before, t, h, begins⟩
    rcases before with _ | ⟨c', before⟩
    · exact Or.inl (h ▸ begins)
    · obtain ⟨rfl, rfl⟩ := List.cons.inj h
      exact Or.inr ⟨before, t, rfl, begins⟩
  · rintro (begins | ⟨before, t, rfl, begins⟩)
    · exact ⟨[], c :: s, rfl, begins⟩
    · exact ⟨c :: before, t, rfl, begins⟩

/-- The dollar sign behind a text closes a formula at its front, whatever stands behind the sign. -/
theorem beginsWithFormula_append_dollar {c : CodePoint} {s : Text} (more : Text) :
    BeginsWithFormula (c :: (s ++ ('$' :: more : Text))) ↔
      BeginsWithFormula (c :: (s ++ "$".toText)) := by
  constructor
  · rintro ⟨source, rest, h, formula⟩
    obtain ⟨rfl, behind⟩ := List.cons.inj h
    rcases List.append_eq_append_iff.mp behind with ⟨q, rfl, hq⟩ | ⟨q, rfl, hq⟩
    · -- the source would go on behind the dollar sign
      rcases q with _ | ⟨c, q⟩
      · rw [List.append_nil] at formula
        exact ⟨s, [], rfl, formula⟩
      · obtain ⟨rfl, -⟩ := List.cons.inj hq
        exact (formula.plain (by simp)).elim
    · rcases q with _ | ⟨c, q⟩
      · rw [List.append_nil]
        exact ⟨source, [], rfl, formula⟩
      · obtain ⟨rfl, -⟩ := List.cons.inj hq
        refine ⟨source, q ++ "$".toText, ?_, formula⟩
        rw [dollared, List.append_assoc, List.cons_append]
  · rintro ⟨source, rest, h, formula⟩
    refine ⟨source, rest ++ more, ?_, formula⟩
    have longer := congrArg (· ++ more) h
    simpa [dollared, String.toText] using longer

theorem not_hasFormula_dollar : ¬ HasFormula "$".toText := by
  have single : "$".toText = [.char '$'] := rfl
  rw [single, hasFormula_cons]
  rintro (⟨source, rest, h, -⟩ | h)
  · exact List.append_ne_nil_of_right_ne_nil _ (List.cons_ne_nil _ _) (List.cons.inj h).2.symm
  · exact not_hasFormula_nil h

/-- **The leftmost formula** of a text, if there is one: no formula begins in the text before it. -/
theorem exists_leftmost (s : Text) :
    ¬ HasFormula s ∨ ∃ before source after, s = before ++ dollared source after ∧
      IsFormulaSource source ∧ ¬ HasFormula (before ++ "$".toText) := by
  induction s with
  | nil => exact Or.inl not_hasFormula_nil
  | cons c s ih =>
    by_cases begins : BeginsWithFormula (c :: s)
    · obtain ⟨source, after, h, formula⟩ := begins
      exact Or.inr ⟨[], source, after, h, formula, not_hasFormula_dollar⟩
    rcases ih with none | ⟨before, source, after, rfl, formula, none⟩
    · exact Or.inl fun h => (hasFormula_cons.mp h).elim begins none
    · refine Or.inr ⟨c :: before, source, after, rfl, formula, fun h => ?_⟩
      rcases hasFormula_cons.mp h with h | h
      · exact begins ((beginsWithFormula_append_dollar _).mpr h)
      · exact none h

/-! ### The scan -/

/-- At a place where no formula begins, the scan takes one more character of text. -/
theorem splitFrom_cons {c : CodePoint} {s : Text} (acc : Text) (h : ¬ BeginsWithFormula (c :: s)) :
    splitFrom acc (c :: s) = splitFrom (c :: acc) s := by
  rw [splitFrom]
  split_ifs with hc
  · rfl
  dsimp only
  rw [if_pos]
  by_contra closed
  rw [not_or, List.isEmpty_iff, List.isEmpty_iff] at closed
  have hs := append_dollar_eq rfl closed.2
  refine h ⟨_, _, congrArg₂ List.cons (not_not.mp hc) hs.symm, closed.1, fun hd => ?_⟩
  simpa using List.mem_takeWhile_imp hd

theorem splitFrom_formula {source : Text} (acc rest : Text) (h : IsFormulaSource source) :
    splitFrom acc (dollared source rest) =
      Run.consText acc.reverse (Run.ofSource source :: splitLine rest) := by
  have body : (source ++ ('$' :: rest : Text)).takeWhile (fun (c : CodePoint) => c != '$') =
      source := by
    refine Text.takeWhile_append (fun c hc => bne_iff_ne.mpr fun hd => h.plain (hd ▸ hc)) ?_
    rintro c hc
    cases hc
    rfl
  rw [dollared, splitFrom, if_neg (not_not.mpr rfl)]
  simp only [body, List.drop_left, List.drop_length_add_append]
  rw [if_neg, splitLine]
  · rfl
  · simp [h.some]

theorem splitFrom_of_not_hasFormula {s : Text} (acc : Text) (h : ¬ HasFormula s) :
    splitFrom acc s = Run.consText (acc.reverse ++ s) [] := by
  induction s generalizing acc with
  | nil => rw [splitFrom, List.append_nil]
  | cons c s ih =>
    rw [hasFormula_cons, not_or] at h
    rw [splitFrom_cons acc h.1, ih (c :: acc) h.2, List.reverse_cons, List.append_assoc,
      List.singleton_append]

/-- **Up to the leftmost formula** the scan takes all as one text. -/
theorem splitFrom_leftmost {before source : Text} (acc after : Text) (h : IsFormulaSource source)
    (none : ¬ HasFormula (before ++ "$".toText)) :
    splitFrom acc (before ++ dollared source after) =
      Run.consText (acc.reverse ++ before) (Run.ofSource source :: splitLine after) := by
  induction before generalizing acc with
  | nil => rw [List.nil_append, splitFrom_formula acc after h, List.append_nil]
  | cons c before ih =>
    rw [List.cons_append, hasFormula_cons, not_or] at none
    have begins :=
      (beginsWithFormula_append_dollar (source ++ ('$' :: after : Text))).not.mpr none.1
    have step : splitFrom acc (c :: (before ++ dollared source after)) =
        splitFrom (c :: acc) (before ++ dollared source after) := splitFrom_cons acc begins
    rw [List.cons_append, step, ih (c :: acc) none.2, List.reverse_cons, List.append_assoc,
      List.singleton_append]

/-! ### Runs of a line -/

/-- Which runs may follow each other: no two texts, and no formula behind a text in which a formula
begins that the dollar sign of the next one would close. -/
def Run.MayPrecede : Run → Run → Prop
  | .text _, .text _ => False
  | .text content, .formula _ _ => ¬ HasFormula (content ++ "$".toText)
  | .formula _ _, _ => True

/-- **The runs of a line**, described without the scan that finds them. -/
structure IsSplit (line : Text) (runs : List Run) : Prop where
  written : runs.flatMap Run.source = line
  formulas : ∀ source nodes, .formula source nodes ∈ runs →
    IsFormulaSource source ∧ nodes = Math.parse source
  texts : ∀ content, .text content ∈ runs → content ≠ []
  order : runs.IsChain Run.MayPrecede
  last : ∀ content, runs.getLast? = some (.text content) → ¬ HasFormula content

namespace IsSplit

theorem nil : IsSplit [] [] := by
  constructor <;> simp

theorem text {content : Text} (some : content ≠ []) (none : ¬ HasFormula content) :
    IsSplit content [.text content] := by
  constructor <;> simp [Run.source, some, none]

theorem consFormula {line source : Text} {runs : List Run} (h : IsSplit line runs)
    (formula : IsFormulaSource source) :
    IsSplit (dollared source line) (Run.ofSource source :: runs) where
  written := by
    rw [List.flatMap_cons, h.written, Run.ofSource, Run.source]
    simp [dollared, String.toText]
  formulas other nodes hm := by
    rcases List.mem_cons.mp hm with heq | hm
    · cases heq
      exact ⟨formula, rfl⟩
    · exact h.formulas other nodes hm
  texts content hm := by
    rcases List.mem_cons.mp hm with heq | hm
    · cases heq
    · exact h.texts content hm
  order := List.isChain_cons.mpr ⟨fun _ _ => trivial, h.order⟩
  last content hl := by
    rcases runs with _ | ⟨run, runs⟩
    · cases hl
    · rw [List.getLast?_cons_cons] at hl
      exact h.last content hl

theorem consText {line content source : Text} {nodes : List Math.Node} {runs : List Run}
    (h : IsSplit line (.formula source nodes :: runs))
    (none : ¬ HasFormula (content ++ "$".toText)) :
    IsSplit (content ++ line) (Run.consText content (.formula source nodes :: runs)) := by
  rcases content with _ | ⟨c, content⟩
  · exact h
  refine ⟨?_, fun other nodes hm => ?_, fun other hm => ?_, ?_, fun other hl => ?_⟩
  · rw [source_consText, h.written]
  · rcases List.mem_cons.mp hm with heq | hm
    · cases heq
    · exact h.formulas other nodes hm
  · rcases List.mem_cons.mp hm with heq | hm
    · cases heq
      exact List.cons_ne_nil _ _
    · exact h.texts other hm
  · exact List.isChain_cons_cons.mpr ⟨none, h.order⟩
  · exact h.last other ((List.getLast?_cons_cons ..).symm.trans hl)

theorem tail {line : Text} {run : Run} {runs : List Run} (h : IsSplit line (run :: runs)) :
    IsSplit (runs.flatMap Run.source) runs where
  written := rfl
  formulas source nodes hm := h.formulas source nodes (List.mem_cons_of_mem _ hm)
  texts content hm := h.texts content (List.mem_cons_of_mem _ hm)
  order := h.order.tail
  last content hl := by
    rcases runs with _ | ⟨next, runs⟩
    · cases hl
    · exact h.last content ((List.getLast?_cons_cons ..).trans hl)

end IsSplit

/-- **The scan finds such runs.** -/
theorem isSplit_splitLine (line : Text) : IsSplit line (splitLine line) := by
  induction h : line.length using Nat.strong_induction_on generalizing line with
  | _ n ih =>
    rcases exists_leftmost line with none | ⟨before, source, after, rfl, formula, none⟩
    · rw [splitLine, splitFrom_of_not_hasFormula [] none]
      rcases line with _ | ⟨c, line⟩
      · exact IsSplit.nil
      · exact IsSplit.text (List.cons_ne_nil c line) none
    · have behind : after.length < n := by
        simp only [← h, dollared, List.length_append, List.length_cons]
        omega
      rw [splitLine, splitFrom_leftmost [] after formula none]
      exact ((ih _ behind after rfl).consFormula formula).consText none

/-- **There are no others.** -/
theorem IsSplit.eq_splitLine : ∀ {runs : List Run} {line : Text}, IsSplit line runs →
    runs = splitLine line
  | [], line, h => by
    obtain rfl : [] = line := h.written
    rw [splitLine, splitFrom]
    rfl
  | .formula source nodes :: runs, line, h => by
    obtain ⟨formula, rfl⟩ := h.formulas source nodes (List.mem_cons_self ..)
    obtain rfl : dollared source (runs.flatMap Run.source) = line := by
      rw [← h.written, List.flatMap_cons, Run.source]
      simp [dollared, String.toText]
    rw [splitLine, splitFrom_formula [] _ formula, ← h.tail.eq_splitLine]
    rfl
  | [.text content], line, h => by
    obtain rfl : content = line := by simpa [Run.source] using h.written
    rw [splitLine, splitFrom_of_not_hasFormula [] (h.last content rfl)]
    have some := h.texts content (List.mem_singleton_self _)
    simp [Run.consText, some]
  | .text content :: .formula source nodes :: runs, line, h => by
    obtain ⟨formula, rfl⟩ := h.formulas source nodes (by simp)
    obtain ⟨none, -⟩ := List.isChain_cons_cons.mp h.order
    have some := h.texts content (List.mem_cons_self ..)
    obtain rfl : content ++ dollared source (runs.flatMap Run.source) = line := by
      rw [← h.written, List.flatMap_cons, List.flatMap_cons, Run.source, Run.source]
      simp [dollared, String.toText]
    rw [splitLine, splitFrom_leftmost [] _ formula none, ← h.tail.tail.eq_splitLine]
    simp [Run.consText, some, Run.ofSource]
  | .text _ :: .text _ :: _, _, h => (List.isChain_cons_cons.mp h.order).1.elim

/-- **The one and only list of runs** of a line is the one that the scan finds. -/
theorem isSplit_iff (line : Text) (runs : List Run) : IsSplit line runs ↔ runs = splitLine line :=
  ⟨IsSplit.eq_splitLine, fun h => h ▸ isSplit_splitLine line⟩

end ExamPress
