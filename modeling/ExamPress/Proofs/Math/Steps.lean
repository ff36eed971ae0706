import ExamPress.Math.Parser
import ExamPress.Proofs.Math.Braces
import Mathlib.Data.List.TakeWhile

/-! # The steps of reading a formula

What a step of the reader does, said once: `Cut s t r` describes the operand `t` at the front of `s`
and the source `r` behind it, `Move s item r` the item at the front and the source behind it. Every
source that is not empty has exactly one move (`move_nextStep`, `Move.nextStep_eq`). Properties of
reading are proved by induction along the moves (`reading_induction`), with `parseOnto_move` for
what a move adds to the nodes. -/

namespace ExamPress.Math

/-! ### Commands -/

/-- A source in front of which the name of a command ends. -/
def EndsName (s : Text) : Prop := ∀ c ∈ s.head?, c.isAlpha = false

/-- A name consists of letters. -/
abbrev Letters (name : Text) : Prop := ∀ c ∈ name, c.isAlpha = true

theorem commandName_append {name r : Text} (hn : Letters name) (hr : EndsName r) :
    commandName (name ++ r) = name := Text.takeWhile_append hn hr

theorem exists_name (s : Text) : ∃ name r : Text, s = name ++ r ∧ Letters name ∧ EndsName r :=
  Text.exists_stretch CodePoint.isAlpha s

/-- Whether a source begins with a name is decided by the letters at its front. -/
theorem prefix_append_iff {start name r : Text} (hs : Letters start) (hr : EndsName r) :
    start <+: name ++ r ↔ start <+: name := by
  refine ⟨fun h => ?_, fun h => h.trans (List.prefix_append name r)⟩
  rcases Text.prefix_append_cases h with h' | ⟨q, hq, rfl⟩
  · exact h'
  rcases q with _ | ⟨c, q⟩
  · simp
  · obtain ⟨r, rfl⟩ := hq
    have hc := hr c rfl
    rw [hs c (by simp)] at hc
    cases hc

theorem letters_of_mem_structuralNames {name : Text} (h : name ∈ structuralNames) :
    Letters name := by
  revert name
  decide

theorem startsWith_append_iff {start name r : Text} (hs : start ∈ structuralNames)
    (hr : EndsName r) : (name ++ r).startsWith start = true ↔ start <+: name := by
  rw [Text.startsWith, List.isPrefixOf_iff_prefix]
  exact prefix_append_iff (letters_of_mem_structuralNames hs) hr

/-- In front of a name that begins with no construct, no construct is read. -/
theorem startsWith_structural {name r : Text} (hr : EndsName r)
    (h : ∀ start ∈ structuralNames, ¬ start <+: name) :
    ∀ start ∈ structuralNames, (name ++ r).startsWith start = false := fun start hs =>
  Bool.eq_false_iff.mpr fun hp => h start hs ((startsWith_append_iff hs hr).mp hp)

theorem letter_no_brace {c : CodePoint} (h : c.isAlpha = true) : c ≠ '{' ∧ c ≠ '}' := by
  constructor <;> (rintro rfl; revert h; decide)

theorem wellNested_command {name s : Text} (hn : Letters name) (hs : WellNested s) :
    WellNested ('\\' :: (name ++ s)) := by
  rw [← List.cons_append]
  refine WellNested.append (WellNested.of_plain fun c hc => ?_) hs
  rcases List.mem_cons.mp hc with rfl | hc
  · decide
  · exact letter_no_brace (hn c hc)

theorem command_cases (s : Text) :
    (∃ start ∈ structuralNames, ∃ r, s = start ++ r) ∨
      ∃ name r : Text, s = name ++ r ∧ Letters name ∧ EndsName r ∧
        ∀ start ∈ structuralNames, ¬ start <+: name := by
  by_cases h : ∃ start ∈ structuralNames, start <+: s
  · obtain ⟨start, hs, r, rfl⟩ := h
    exact Or.inl ⟨start, hs, r, rfl⟩
  · obtain ⟨name, r, rfl, hn, hr⟩ := exists_name s
    exact Or.inr ⟨name, r, rfl, hn, hr, fun start hs hp =>
      h ⟨start, hs, hp.trans (List.prefix_append name r)⟩⟩

/-- The characters that have a meaning of their own and are shown by no run. -/
def marks : List CodePoint := [' ', '^', '_', '{', '}']

theorem symbolTable_marks : ∀ entry ∈ symbolTable, (.char entry.2 : CodePoint) ∉ marks := by
  decide

theorem commandText_cases (name : Text) :
    (∃ entry ∈ symbolTable, commandText name = [.char entry.2]) ∨
      (symbol? name = none ∧ commandText name = ('\\' :: name : Text)) := by
  unfold commandText
  cases h : symbol? name with
  | none => exact Or.inr ⟨rfl, rfl⟩
  | some c =>
    obtain ⟨entry, he, rfl⟩ := Option.map_eq_some_iff.mp h
    exact Or.inl ⟨entry, List.mem_of_find?_eq_some he, rfl⟩

/-! ### Operands -/

/-- `Cut s t r`: the operand at the front of `s` has the source `t`, and `r` stands behind it. -/
inductive Cut : Text → Text → Text → Prop
  | missing : Cut [] [] []
  | group {t : Text} (r : Text) (nested : WellNested t) : Cut (braced t r) t r
  | unclosed {r : Text} (open' : ∀ t r' : Text, WellNested t → r ≠ t ++ ('}' :: r' : Text)) :
      Cut ('{' :: r) [] r
  | command {name r : Text} (letters : Letters name) (ends : EndsName r) :
      Cut ('\\' :: (name ++ r)) ('\\' :: name) r
  | single {c : CodePoint} (r : Text) (brace : c ≠ '{') (backslash : c ≠ '\\') : Cut (c :: r) [c] r

theorem exists_cut (s : Text) : ∃ t r, Cut s t r := by
  rcases s with _ | ⟨c, s⟩
  · exact ⟨_, _, Cut.missing⟩
  by_cases ho : c = '{'
  · subst ho
    by_cases h : ∃ t r : Text, WellNested t ∧ s = t ++ ('}' :: r : Text)
    · obtain ⟨t, r, ht, rfl⟩ := h
      exact ⟨_, _, Cut.group r ht⟩
    · exact ⟨_, _, Cut.unclosed fun t r ht hs => h ⟨t, r, ht, hs⟩⟩
  by_cases hb : c = '\\'
  · subst hb
    obtain ⟨name, r, rfl, hn, hr⟩ := exists_name s
    exact ⟨_, _, Cut.command hn hr⟩
  · exact ⟨_, _, Cut.single s ho hb⟩

theorem readGroup_braced {t : Text} (r : Text) (ht : WellNested t) :
    readGroup (braced t r) = ⟨t, t.length + 2⟩ := by
  have h : closingBrace 0 (braced t r) = some (t.length + 1) := by
    have := closingBrace_one_iff.mpr ⟨t, r, rfl, rfl, ht⟩
    simp [braced, closingBrace, this]
  rw [readGroup, h]
  simp [braced]

theorem readGroup_unclosed {r : Text}
    (h : ∀ t r' : Text, WellNested t → r ≠ t ++ ('}' :: r' : Text)) :
    readGroup ('{' :: r) = ⟨[], 1⟩ := by
  have h : closingBrace 0 ('{' :: r) = none := by
    simp only [closingBrace, if_true, zero_add, Option.map_eq_none_iff]
    exact closingBrace_one_eq_none_iff.mpr h
  rw [readGroup, h]

/-- **The operand** at the front of a source is what is cut from it. -/
theorem Cut.operand_eq {s t r : Text} (h : Cut s t r) :
    (operand s).content = t ∧ s.drop (operand s).width = r := by
  cases h with
  | missing => exact ⟨rfl, rfl⟩
  | group r ht =>
    have : operand (braced t r) = readGroup (braced t r) := rfl
    rw [this, readGroup_braced r ht]
    simp [braced]
  | unclosed h =>
    have : operand ('{' :: r) = readGroup ('{' :: r) := rfl
    rw [this, readGroup_unclosed h]
    exact ⟨rfl, rfl⟩
  | @command name _ hn hr =>
    have : operand ('\\' :: (name ++ r)) = readCommand ('\\' :: (name ++ r)) := rfl
    rw [this, readCommand]
    simp [commandName_append hn hr]
  | single r ho hb =>
    have := nextOperand.eq_4 _ r (by simpa using ho) (by simpa using hb)
    simp [operand, this]

/-! ### Moves -/

/-- `Move s item r`: at the front of `s` stands the item, and `r` behind it. -/
inductive Move : Text → Item → Text → Prop
  | skip {c : CodePoint} (s : Text) (h : c = ' ' ∨ c = '{' ∨ c = '}') : Move (c :: s) .nothing s
  | character {c : CodePoint} (s : Text) (mark : c ∉ marks) (backslash : c ≠ '\\') :
      Move (c :: s) (.run [c]) s
  | command {name r : Text} (letters : Letters name) (ends : EndsName r)
      (symbol : ∀ start ∈ structuralNames, ¬ start <+: name) :
      Move ('\\' :: (name ++ r)) (.run (commandText name)) r
  | fraction {s n s' d r : Text} (numerator : Cut s n s') (denominator : Cut s' d r) :
      Move ('\\' :: (fractionName ++ s)) (.fraction n d) r
  | root {s t r : Text} (radicand : Cut s t r) : Move ('\\' :: (rootName ++ s)) (.root t) r
  | script {s t r : Text} (kind : ScriptKind) (script : Cut s t r) :
      Move (kind.operator :: s) (.script kind t) r

theorem exists_move {s : Text} (h : s ≠ []) : ∃ item r, Move s item r := by
  obtain ⟨c, s, rfl⟩ := List.exists_cons_of_ne_nil h
  by_cases hb : c = '\\'
  · subst hb
    rcases command_cases s with ⟨start, hs, s, rfl⟩ | ⟨name, r, rfl, hn, hr, hsym⟩
    · simp only [structuralNames, List.mem_cons, List.not_mem_nil, or_false] at hs
      obtain ⟨t, r, ht⟩ := exists_cut s
      obtain ⟨d, r', hd⟩ := exists_cut r
      rcases hs with rfl | rfl
      · exact ⟨_, _, Move.fraction ht hd⟩
      · exact ⟨_, _, Move.root ht⟩
    · exact ⟨_, _, Move.command hn hr hsym⟩
  by_cases hm : c ∈ marks
  · simp only [marks, List.mem_cons, List.not_mem_nil, or_false] at hm
    obtain ⟨t, r, ht⟩ := exists_cut s
    rcases hm with rfl | rfl | rfl | rfl | rfl
    · exact ⟨_, _, Move.skip s (by decide)⟩
    · exact ⟨_, _, Move.script .superscript ht⟩
    · exact ⟨_, _, Move.script .subscript ht⟩
    · exact ⟨_, _, Move.skip s (by decide)⟩
    · exact ⟨_, _, Move.skip s (by decide)⟩
  · exact ⟨_, _, Move.character s hm hb⟩

/-- **The step** at the front of a source is its move. -/
theorem Move.nextStep_eq {c : CodePoint} {s r : Text} {item : Item} (h : Move (c :: s) item r) :
    nextStep c s = ⟨item, r⟩ := by
  generalize hs : c :: s = source at h
  cases h with
  | skip s h =>
    obtain ⟨rfl, rfl⟩ := List.cons.inj hs
    rcases h with rfl | rfl | rfl <;> rfl
  | character s hm hb =>
    obtain ⟨rfl, rfl⟩ := List.cons.inj hs
    simp only [marks, List.mem_cons, List.not_mem_nil, or_false, not_or] at hm
    simp [nextStep, hm, hb]
  | @command name _ hn hr hsym =>
    obtain ⟨rfl, rfl⟩ := List.cons.inj hs
    have hf := startsWith_structural hr hsym fractionName (by decide)
    have ht := startsWith_structural hr hsym rootName (by decide)
    simp [nextStep, commandStep, hf, ht, commandName_append hn hr]
  | @fraction s _ _ _ _ hn hd =>
    obtain ⟨rfl, rfl⟩ := List.cons.inj hs
    obtain ⟨rfl, rfl⟩ := hn.operand_eq
    obtain ⟨rfl, rfl⟩ := hd.operand_eq
    have hf : (fractionName ++ s).startsWith fractionName = true := rfl
    simp [nextStep, commandStep, hf]
  | @root s _ _ ht =>
    obtain ⟨rfl, rfl⟩ := List.cons.inj hs
    obtain ⟨rfl, rfl⟩ := ht.operand_eq
    have hf : (rootName ++ s).startsWith fractionName = false := rfl
    have hr : (rootName ++ s).startsWith rootName = true := rfl
    simp [nextStep, commandStep, hf, hr]
  | script kind ht =>
    obtain ⟨rfl, rfl⟩ := List.cons.inj hs
    obtain ⟨rfl, rfl⟩ := ht.operand_eq
    cases kind <;> rfl

theorem move_nextStep (c : CodePoint) (s : Text) :
    Move (c :: s) (nextStep c s).item (nextStep c s).rest := by
  obtain ⟨item, r, h⟩ := exists_move (List.cons_ne_nil c s)
  rw [h.nextStep_eq]
  exact h

/-! ### Reading -/

/-- The nodes that were read, the last one first, after one more item. -/
def Item.onto (acc : List Node) : Item → List Node
  | .nothing => acc
  | .run text => .run text :: acc
  | .fraction numerator denominator => .fraction (parse numerator) (parse denominator) :: acc
  | .root radicand => .root (parse radicand) [] :: acc
  | .script kind source => .scripted [acc.headD (.run [])] kind (parse source) :: acc.tail

@[simp] theorem parseOnto_nil (acc : List Node) : parseOnto acc [] = acc := by rw [parseOnto]

/-- A move puts its item after the nodes that were read. -/
theorem parseOnto_move {s r : Text} {item : Item} (h : Move s item r) (acc : List Node) :
    parseOnto acc s = parseOnto (item.onto acc) r := by
  rcases s with _ | ⟨c, s⟩
  · cases h
  rw [parseOnto]
  split <;> rename_i hs <;> rw [h.nextStep_eq, Step.mk.injEq] at hs <;>
    obtain ⟨rfl, rfl⟩ := hs <;> rfl

/-- **Induction along the moves** of a source, also into the operands. -/
theorem reading_induction {motive : Text → Prop} (nil : motive [])
    (move : ∀ s item r, Move s item r → (∀ t ∈ item.operands, motive t) → motive r → motive s)
    (s : Text) : motive s := by
  induction h : s.length using Nat.strong_induction_on generalizing s with
  | _ n ih =>
    rcases s with _ | ⟨c, s⟩
    · exact nil
    rw [List.length_cons] at h
    refine move _ _ _ (move_nextStep c s) (fun t ht => ih _ ?_ t rfl) (ih _ ?_ _ rfl)
    · have := length_le_of_mem_operands ht
      omega
    · have := length_rest_le c s
      omega

end ExamPress.Math
