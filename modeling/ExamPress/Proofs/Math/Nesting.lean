import ExamPress.Proofs.Math.Groups
import Mathlib.Data.Nat.SuccPred
import Mathlib.Order.SuccPred.Archimedean

/-! # How deep readings nest

While a source is read, the operands of its items are read by themselves, and their operands inside
of that (`HasOperand`). The content of a group is the only operand that can have operands of any
depth: a character has at most a missing operand, and a command at most single letters. So readings
are nested by three at most where no groups are, and by one more for each group that stands in
another (`readings_nest`). A reader that may only nest them so deep reads every such source. -/

namespace ExamPress.Math

/-! ### Operands -/

/-- `HasOperand s t`: an item of the source `s` has the operand `t`, which is read by itself. A
missing operand is read as the empty text. -/
inductive HasOperand : Text → Text → Prop
  | first {c : CodePoint} {s t : Text} (operand : t ∈ (nextStep c s).item.operands) :
      HasOperand (c :: s) t
  | later {c : CodePoint} {s t : Text} (operand : HasOperand (nextStep c s).rest t) :
      HasOperand (c :: s) t

theorem not_hasOperand_nil (t : Text) : ¬ HasOperand [] t := nofun

theorem hasOperand_cons_iff {c : CodePoint} {s t : Text} :
    HasOperand (c :: s) t ↔
      t ∈ (nextStep c s).item.operands ∨ HasOperand (nextStep c s).rest t := by
  constructor
  · intro h
    cases h with
    | first operand => exact Or.inl operand
    | later operand => exact Or.inr operand
  · rintro (operand | operand)
    · exact .first operand
    · exact .later operand

theorem hasOperand_move_iff {s r t : Text} {item : Item} (h : Move s item r) :
    HasOperand s t ↔ t ∈ item.operands ∨ HasOperand r t := by
  rcases s with _ | ⟨c, s⟩
  · cases h
  · rw [hasOperand_cons_iff, h.nextStep_eq]

/-- **An operand is shorter** than the source that it is cut from. -/
theorem HasOperand.length_lt {s t : Text} (h : HasOperand s t) : t.length < s.length := by
  induction h with
  | first operand => exact Nat.lt_succ_of_le (length_le_of_mem_operands operand)
  | later _ ih => exact ih.trans_le (Nat.le_succ_of_le (length_rest_le _ _))

theorem Move.exists_cut {s r t : Text} {item : Item} (h : Move s item r)
    (operand : t ∈ item.operands) : ∃ source rest, source <:+ s ∧ Cut source t rest := by
  cases h with
  | skip _ _ => cases operand
  | character _ _ _ => cases operand
  | command _ _ _ => cases operand
  | @fraction s n s' d r numerator denominator =>
    have inside : s <:+ '\\' :: (fractionName ++ s) :=
      List.suffix_append ('\\' :: fractionName : Text) s
    simp only [Item.operands, List.mem_cons, List.not_mem_nil, or_false] at operand
    rcases operand with rfl | rfl
    · exact ⟨s, s', inside, numerator⟩
    · exact ⟨s', r, numerator.suffix.trans inside, denominator⟩
  | @root s u r radicand =>
    obtain rfl := List.mem_singleton.mp operand
    exact ⟨s, r, List.suffix_append ('\\' :: rootName : Text) s, radicand⟩
  | @script s u r kind script =>
    obtain rfl := List.mem_singleton.mp operand
    exact ⟨s, r, List.suffix_cons _ s, script⟩

theorem HasOperand.exists_cut {s t : Text} (h : HasOperand s t) :
    ∃ source rest, source <:+ s ∧ Cut source t rest := by
  induction h with
  | @first c s t operand => exact (move_nextStep c s).exists_cut operand
  | @later c s t _ ih =>
    obtain ⟨source, rest, inside, cut⟩ := ih
    exact ⟨source, rest, inside.trans (move_nextStep c s).suffix, cut⟩

/-! ### Shallow sources -/

/-- A source whose operands have no operands. -/
def IsShallow (s : Text) : Prop := ∀ t, HasOperand s t → ∀ u, ¬ HasOperand t u

theorem isShallow_nil : IsShallow [] := fun t h => (not_hasOperand_nil t h).elim

theorem isShallow_singleton (c : CodePoint) : IsShallow [c] := by
  intro t h
  obtain rfl : t = [] := List.length_eq_zero_iff.mp (Nat.lt_one_iff.mp h.length_lt)
  exact not_hasOperand_nil

theorem not_hasOperand_letter {c : CodePoint} (h : c.isAlpha = true) (t : Text) :
    ¬ HasOperand [c] t := by
  have mark : c ∉ marks := by
    intro hc
    revert h
    revert c
    decide
  have backslash : c ≠ '\\' := by
    rintro rfl
    cases h
  rw [hasOperand_move_iff (Move.character [] mark backslash)]
  rintro (operand | operand)
  · cases operand
  · exact not_hasOperand_nil t operand

/-- The operands of a construct in its name are single letters, or missing. -/
theorem isShallow_command {name : Text} (letters : Letters name) : IsShallow ('\\' :: name) := by
  intro t h
  obtain ⟨source, rest, inside, cut⟩ := h.exists_cut
  have noBrace : (.char '{' : CodePoint) ∉ ('\\' :: name : Text) := by
    intro hc
    rcases List.mem_cons.mp hc with hc | hc
    · cases hc
    · exact (letter_no_brace (letters _ hc)).1 rfl
  cases cut with
  | missing => exact not_hasOperand_nil
  | group _ _ => exact (noBrace (inside.subset List.mem_cons_self)).elim
  | unclosed _ => exact not_hasOperand_nil
  | @command name' _ _ ends =>
    -- a name has no backslash, so it is the whole source, and the operand is shorter
    rcases List.suffix_cons_iff.mp inside with whole | inside
    · obtain rfl := (List.cons.inj whole).2
      rcases rest with _ | ⟨c, rest⟩
      · have short := h.length_lt
        rw [List.append_nil] at short
        exact (short.ne rfl).elim
      · have letter := letters c (List.mem_append_right name' List.mem_cons_self)
        rw [ends c rfl] at letter
        cases letter
    · have letter := letters _ (inside.subset List.mem_cons_self)
      cases letter
  | @single c _ _ backslash =>
    rcases List.suffix_cons_iff.mp inside with whole | inside
    · exact (backslash (List.cons.inj whole).1).elim
    · exact not_hasOperand_letter (letters c (inside.subset List.mem_cons_self))

/-- An operand is the content of a group, or it is shallow. -/
theorem HasOperand.group_or_isShallow {s t : Text} (h : HasOperand s t) :
    (WellNested t ∧ ∃ r, braced t r <:+ s) ∨ IsShallow t := by
  obtain ⟨source, rest, inside, cut⟩ := h.exists_cut
  cases cut with
  | missing => exact Or.inr isShallow_nil
  | group _ nested => exact Or.inl ⟨nested, rest, inside⟩
  | unclosed _ => exact Or.inr isShallow_nil
  | command letters _ => exact Or.inr (isShallow_command letters)
  | @single c _ _ _ => exact Or.inr (isShallow_singleton c)

/-! ### Nested groups -/

/-- `Nests k s`: in the source `s` stand `k` groups, each but the first in the one before. -/
inductive Nests : Nat → Text → Prop
  | none (s : Text) : Nests 0 s
  | group {k : Nat} {t : Text} (a r : Text) (nested : WellNested t) (inside : Nests k t) :
      Nests (k + 1) (a ++ braced t r)

namespace Nests

theorem le_length {k : Nat} {s : Text} (h : Nests k s) : k ≤ s.length := by
  induction h with
  | none s => exact Nat.zero_le _
  | group a r _ _ ih =>
    simp only [braced, List.length_append, List.length_cons]
    omega

theorem of_content {k : Nat} {s t r : Text} (h : Nests k t) (nested : WellNested t)
    (inside : braced t r <:+ s) : Nests (k + 1) s := by
  obtain ⟨a, rfl⟩ := inside
  exact .group a r nested h

end Nests

/-- In every source some number of groups is the greatest one that are nested in each other. -/
theorem exists_isGreatest_nests (s : Text) : ∃ k, IsGreatest {k | Nests k s} k :=
  BddAbove.exists_isGreatest_of_nonempty ⟨s.length, fun _ h => h.le_length⟩ ⟨0, .none s⟩

/-! ### Readings inside each other -/

theorem length_of_isShallow {s : Text} {operands : List Text} (h : IsShallow s)
    (chain : List.IsChain HasOperand (s :: operands)) : operands.length ≤ 1 := by
  rcases operands with _ | ⟨t, _ | ⟨u, operands⟩⟩
  · exact Nat.zero_le 1
  · exact le_rfl
  · obtain ⟨first, chain⟩ := List.isChain_cons_cons.mp chain
    exact (h t first u (List.isChain_cons_cons.mp chain).1).elim

/-- **Readings inside each other**: where at most `k` groups are nested, at most `k + 2` operands
are. -/
theorem length_of_nests {s : Text} {operands : List Text} {k : Nat} (h : ∀ j, Nests j s → j ≤ k)
    (chain : List.IsChain HasOperand (s :: operands)) : operands.length ≤ k + 2 := by
  induction operands generalizing s k with
  | nil => exact Nat.zero_le _
  | cons t operands ih =>
    obtain ⟨first, chain⟩ := List.isChain_cons_cons.mp chain
    rcases first.group_or_isShallow with ⟨nested, r, inside⟩ | shallow
    · have deeper (j : Nat) (hj : Nests j t) : j + 1 ≤ k := h _ (hj.of_content nested inside)
      have least := deeper 0 (.none t)
      have := ih (k := k - 1) (fun j hj => Nat.le_sub_one_of_lt (deeper j hj)) chain
      rw [List.length_cons]
      omega
    · have := length_of_isShallow shallow chain
      rw [List.length_cons]
      omega

/-! ### Reading with a budget -/

/-- The nodes that were read, the last one first, after one more item whose operands are read by
`read`. -/
def Item.ontoWith (read : Text → Option (List Node)) (acc : List Node) :
    Item → Option (List Node)
  | .nothing => some acc
  | .run text => some (.run text :: acc)
  | .fraction numerator denominator => do
    let numerator ← read numerator
    let denominator ← read denominator
    return .fraction numerator denominator :: acc
  | .root radicand => do
    let radicand ← read radicand
    return .root radicand [] :: acc
  | .script kind source => do
    let script ← read source
    return .scripted [acc.headD (.run [])] kind script :: acc.tail

/-- The nodes of a source after nodes that were read before, with the operands read by `read`. -/
def parseOntoWith (read : Text → Option (List Node)) (acc : List Node) (source : Text) :
    Option (List Node) :=
  match source with
  | [] => some acc
  | c :: s => do
    let acc ← (nextStep c s).item.ontoWith read acc
    parseOntoWith read acc (nextStep c s).rest
termination_by source.length
decreasing_by
  have := length_rest_le c s
  rw [List.length_cons]
  omega

/-- The nodes of a formula, if readings are nested no deeper than the budget. -/
def parseWithin : Nat → Text → Option (List Node)
  | 0, _ => none
  | budget + 1, source => (parseOntoWith (parseWithin budget) [] source).map List.reverse

/-- A reader that gives the nodes of a source or nothing. -/
def Sound (read : Text → Option (List Node)) : Prop :=
  ∀ source nodes, read source = some nodes → nodes = parse source

section
variable {read : Text → Option (List Node)}

theorem Sound.bind_eq_some_iff {α : Type} (sound : Sound read) {source : Text}
    {next : List Node → Option α} {x : α} :
    (read source).bind next = some x ↔
      read source = some (parse source) ∧ next (parse source) = some x := by
  rw [Option.bind_eq_some_iff]
  constructor
  · rintro ⟨nodes, h, hx⟩
    obtain rfl := sound _ _ h
    exact ⟨h, hx⟩
  · rintro ⟨h, hx⟩
    exact ⟨_, h, hx⟩

theorem Sound.ontoWith_eq_some_iff (sound : Sound read) {item : Item} {acc nodes : List Node} :
    item.ontoWith read acc = some nodes ↔
      (∀ t ∈ item.operands, read t = some (parse t)) ∧ item.onto acc = nodes := by
  cases item <;>
    simp [Item.ontoWith, Item.operands, Item.onto, sound.bind_eq_some_iff, and_assoc]

theorem parseOntoWith_move {s r : Text} {item : Item} (h : Move s item r) (acc : List Node) :
    parseOntoWith read acc s =
      (item.ontoWith read acc).bind fun acc => parseOntoWith read acc r := by
  rcases s with _ | ⟨c, s⟩
  · cases h
  · rw [parseOntoWith, h.nextStep_eq]
    rfl

theorem Sound.parseOntoWith_eq_some_iff (sound : Sound read) {s : Text} {acc nodes : List Node} :
    parseOntoWith read acc s = some nodes ↔
      (∀ t, HasOperand s t → read t = some (parse t)) ∧ parseOnto acc s = nodes := by
  induction s using reading_induction generalizing acc nodes with
  | nil => simp [parseOntoWith, not_hasOperand_nil]
  | move s item r move operands rest =>
    simp only [parseOntoWith_move move, parseOnto_move move, Option.bind_eq_some_iff,
      sound.ontoWith_eq_some_iff, hasOperand_move_iff move, rest]
    constructor
    · rintro ⟨_, ⟨inItem, rfl⟩, inRest, rfl⟩
      exact ⟨fun t h => h.elim (inItem t) (inRest t), rfl⟩
    · rintro ⟨all, rfl⟩
      exact ⟨_, ⟨fun t h => all t (Or.inl h), rfl⟩, fun t h => all t (Or.inr h), rfl⟩

end

theorem sound_parseWithin (budget : Nat) : Sound (parseWithin budget) := by
  induction budget with
  | zero => nofun
  | succ budget sound =>
    intro source nodes h
    obtain ⟨found, hfound, rfl⟩ := Option.map_eq_some_iff.mp h
    rw [← (sound.parseOntoWith_eq_some_iff.mp hfound).2, parse]

theorem parseWithin_succ_eq_some_iff {budget : Nat} {s : Text} :
    parseWithin (budget + 1) s = some (parse s) ↔
      ∀ t, HasOperand s t → parseWithin budget t = some (parse t) := by
  rw [parseWithin, parse, Option.map_eq_some_iff]
  constructor
  · rintro ⟨found, hfound, -⟩
    exact ((sound_parseWithin budget).parseOntoWith_eq_some_iff.mp hfound).1
  · intro operands
    exact ⟨_, (sound_parseWithin budget).parseOntoWith_eq_some_iff.mpr ⟨operands, rfl⟩, rfl⟩

/-- **Reading with a budget** fails just where readings inside each other are too many for it. -/
theorem parseWithin_eq_some_iff {budget : Nat} {s : Text} :
    parseWithin budget s = some (parse s) ↔
      ∀ operands, List.IsChain HasOperand (s :: operands) → operands.length < budget := by
  induction budget generalizing s with
  | zero =>
    refine iff_of_false nofun fun h => ?_
    exact absurd (h [] (List.IsChain.singleton s)) (Nat.not_lt_zero _)
  | succ budget ih =>
    simp only [parseWithin_succ_eq_some_iff, ih]
    constructor
    · intro h operands chain
      rcases operands with _ | ⟨t, operands⟩
      · exact Nat.succ_pos budget
      · obtain ⟨first, chain⟩ := List.isChain_cons_cons.mp chain
        exact Nat.succ_lt_succ (h t first operands chain)
    · intro h t first operands chain
      exact Nat.lt_of_succ_lt_succ (h (t :: operands) (List.isChain_cons_cons.mpr ⟨first, chain⟩))

/-! ### The places of the reader -/

/-- **A step goes forward**, and not behind the end. -/
theorem exists_next_place {s rest : Text} {c : CodePoint} {p : Nat} (h : s.drop p = c :: rest) :
    ∃ q, p < q ∧ q ≤ s.length ∧ (nextStep c rest).rest = s.drop q := by
  have move := move_nextStep c rest
  obtain ⟨a, front, -⟩ := move.exists_front
  have length := congrArg List.length front
  have forward := length_rest_le c rest
  have inside := congrArg List.length h
  simp only [List.length_append, List.length_cons, List.length_drop] at length inside
  refine ⟨p + a.length, by omega, by omega, ?_⟩
  rw [← List.drop_drop, h, front, List.drop_left]

theorem Cut.exists_width {s t r : Text} (h : Cut s t r) (notEmpty : s ≠ []) :
    ∃ width, nextOperand s = some ⟨t, width⟩ ∧ 0 < width ∧ s.length = width + r.length := by
  cases h with
  | missing => exact (notEmpty rfl).elim
  | group r nested =>
    refine ⟨t.length + 2, congrArg some (readGroup_braced r nested), Nat.succ_pos _, ?_⟩
    simp only [braced, List.length_cons, List.length_append]
    omega
  | unclosed open' =>
    exact ⟨1, congrArg some (readGroup_unclosed open'), Nat.one_pos, Nat.add_comm _ _⟩
  | @command name r letters ends =>
    refine ⟨name.length + 1, ?_, Nat.succ_pos _, ?_⟩
    · have found : nextOperand ('\\' :: (name ++ r)) =
          some (readCommand ('\\' :: (name ++ r))) := rfl
      rw [found, readCommand]
      simp [commandName_append letters ends]
    · simp only [List.length_cons, List.length_append]
      omega
  | single r brace backslash =>
    refine ⟨1, nextOperand.eq_4 _ r ?_ ?_, Nat.one_pos, Nat.add_comm _ _⟩
    · simpa using brace
    · simpa using backslash

/-- **An operand takes something** of the source, and nothing behind its end. -/
theorem exists_operand_width {s : Text} {p : Nat} (h : p < s.length) :
    ∃ found, nextOperand (s.drop p) = some found ∧ 0 < found.width ∧
      p + found.width ≤ s.length := by
  obtain ⟨t, r, cut⟩ := exists_cut (s.drop p)
  have notEmpty : s.drop p ≠ [] := by simpa using h
  obtain ⟨width, found, forward, length⟩ := cut.exists_width notEmpty
  rw [List.length_drop] at length
  exact ⟨⟨t, width⟩, found, forward, by dsimp only; omega⟩

/-! ### How deep readings nest -/

/-- **Readings nest** by three more than groups are nested in the source at most, and a reader that
may nest them so deep reads the whole source. Each operand is shorter than its source, and each step
goes forward, but not behind the end. -/
theorem readings_nest (s : Text) :
    ∃ k, IsGreatest {k | Nests k s} k ∧
      (∀ operands, List.IsChain HasOperand (s :: operands) → (s :: operands).length ≤ k + 3) ∧
      (∀ budget, k + 3 ≤ budget → parseWithin budget s = some (parse s)) ∧
      (∀ t, HasOperand s t → t.length < s.length) ∧
      (∀ p c rest, s.drop p = c :: rest →
        ∃ q, p < q ∧ q ≤ s.length ∧ (nextStep c rest).rest = s.drop q) ∧
      ∀ p < s.length, ∃ found, nextOperand (s.drop p) = some found ∧ 0 < found.width ∧
        p + found.width ≤ s.length := by
  obtain ⟨k, greatest⟩ := exists_isGreatest_nests s
  have most (j : Nat) (h : Nests j s) : j ≤ k := greatest.2 h
  refine ⟨k, greatest, fun operands chain => ?_, fun budget enough => ?_,
    fun t operand => operand.length_lt, fun p c rest => exists_next_place,
    fun p => exists_operand_width⟩
  · exact Nat.succ_le_succ (length_of_nests most chain)
  · refine parseWithin_eq_some_iff.mpr fun operands chain => ?_
    have := length_of_nests most chain
    omega

/-- With one group, four readings stand in each other: three are too few. -/
example : parseWithin 3 "^\x7b^\\fracab\x7d".toText = none := by cbv

end ExamPress.Math
