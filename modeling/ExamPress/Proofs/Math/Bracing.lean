import ExamPress.Proofs.Math.Groups
import ExamPress.Proofs.Math.Spaces

/-! # Braces around operands

An operand can be written with braces around it or without: a character and a command are read the
same in braces, and a group is read the same in a second pair of braces (`parse_braceOperand`). The
braces change nothing in front of the operand either: they open and close at the same depth, so
they close no group that was left open there (`EndsAlike.braced`). -/

namespace ExamPress.Math

/-! ### Operands and their places -/

/-- The places at which the operands of the item at the front of a source begin. -/
def operandStarts : Text → List Nat
  | [] => []
  | c :: s => (operandSources c s).map fun t => (c :: s).length - t.length

/-- A source with braces around the operand that begins at a place. -/
def braceOperand (p : Nat) (s : Text) : Text :=
  let width := (operand (s.drop p)).width
  s.take p ++ braced ((s.drop p).take width) (s.drop (p + width))

/-- A source that begins with a whole operand: a character other than a brace, a command, or a group
with its closing brace. -/
inductive BeginsWhole : Text → Prop
  | character {c : CodePoint} (r : Text) (opening : c ≠ '{') (closing : c ≠ '}')
      (backslash : c ≠ '\\') : BeginsWhole (c :: r)
  | command (r : Text) : BeginsWhole ('\\' :: r)
  | group {t : Text} (r : Text) (nested : WellNested t) : BeginsWhole (braced t r)

/-! ### Operands in braces -/

theorem BeginsWhole.exists_cut {s : Text} (h : BeginsWhole s) :
    ∃ a t r : Text, s = a ++ r ∧ Cut s t r ∧ WellNested a ∧ a ≠ [] ∧ parse a = parse t := by
  cases h with
  | @character c r ho hc hb =>
    exact ⟨[c], [c], r, rfl, Cut.single r ho hb, WellNested.of_plain (by simp [ho, hc]),
      List.cons_ne_nil _ _, rfl⟩
  | command r =>
    obtain ⟨name, r, rfl, hn, hr⟩ := exists_name r
    have nested := wellNested_command hn WellNested.nil
    rw [List.append_nil] at nested
    exact ⟨'\\' :: name, '\\' :: name, r, rfl, Cut.command hn hr, nested,
      List.cons_ne_nil _ _, rfl⟩
  | @group t r ht =>
    exact ⟨braced t [], t, r, by rw [braced_append, List.nil_append], Cut.group r ht,
      ht.braced WellNested.nil, List.cons_ne_nil _ _, parse_braced ht⟩

theorem Cut.unique {s t r t' r' : Text} (h : Cut s t r) (h' : Cut s t' r') : t = t' ∧ r = r' := by
  obtain ⟨rfl, rfl⟩ := h.operand_eq
  exact h'.operand_eq

theorem braceOperand_append (x s : Text) (p : Nat) :
    braceOperand (x.length + p) (x ++ s) = x ++ braceOperand p s := by
  simp only [braceOperand, List.drop_length_add_append, List.take_length_add_append, Nat.add_assoc,
    List.append_assoc]

theorem Cut.braceOperand {a t r : Text} (h : Cut (a ++ r) t r) :
    braceOperand 0 (a ++ r) = braced a r := by
  obtain ⟨-, rest⟩ := h.operand_eq
  have parts := List.take_append_drop (operand (a ++ r)).width (a ++ r)
  rw [rest, List.append_cancel_right_eq] at parts
  rw [Math.braceOperand, List.drop_zero, List.take_zero, List.nil_append, Nat.zero_add, rest, parts]

/-- **Braces around an operand** do not change how it is read. -/
theorem Cut.exists_braced {s t r : Text} (h : Cut s t r) (whole : BeginsWhole s) :
    ∃ a, Cut (Math.braceOperand 0 s) a r ∧ parse a = parse t := by
  obtain ⟨a, t', r', rfl, cut, nested, -, same⟩ := whole.exists_cut
  obtain ⟨rfl, rfl⟩ := h.unique cut
  rw [cut.braceOperand]
  exact ⟨a, Cut.group r nested, same⟩

theorem EndsAlike.braced {a : Text} (ha : WellNested a) (some : a ≠ []) (r : Text) :
    EndsAlike (a ++ r) (braced a r) where
  name _ c hc := by
    cases hc
    rfl
  depths p' hp' := by
    rcases p' with _ | ⟨c, p'⟩
    · exact ⟨[], List.nil_prefix, le_rfl⟩
    obtain ⟨rfl, hp⟩ := List.cons_prefix_cons.mp hp'
    rcases Text.prefix_append_cases hp with hp | ⟨q, hq, rfl⟩
    · have := ha.nonneg p' hp
      refine ⟨[], List.nil_prefix, ?_⟩
      rw [depth_cons, if_pos rfl, depth_nil]
      omega
    rcases q with _ | ⟨c, q⟩
    · refine ⟨[], List.nil_prefix, ?_⟩
      rw [List.append_nil, depth_cons, if_pos rfl, ha.closed, depth_nil]
      omega
    · -- behind the closing brace the depth is the same as without the braces
      obtain ⟨rfl, tail⟩ := List.cons_prefix_cons.mp hq
      refine ⟨a ++ q, (List.prefix_append_right_inj a).mpr tail, ?_⟩
      rw [depth_cons, if_pos rfl, depth_append, depth_append, depth_cons, if_neg (by decide),
        if_pos rfl]
      omega
  missing h := (some (List.append_eq_nil_iff.mp h).1).elim

theorem BeginsWhole.endsAlike {s : Text} (whole : BeginsWhole s) :
    EndsAlike s (braceOperand 0 s) := by
  obtain ⟨a, t, r, rfl, cut, nested, some, -⟩ := whole.exists_cut
  rw [cut.braceOperand]
  exact EndsAlike.braced nested some r

/-! ### Items -/

theorem not_mem_operandStarts {c : CodePoint} {s : Text} (hk : c ≠ '^' ∧ c ≠ '_')
    (hs : c = '\\' → ∀ start ∈ structuralNames, s.startsWith start = false) (p : Nat) :
    p ∉ operandStarts (c :: s) := by
  have none : operandSources c s = [] := by
    rw [operandSources, if_neg (not_or.mpr hk)]
    split_ifs with hc hf hr
    · rw [hs hc _ (by decide)] at hf
      cases hf
    · rw [hs hc _ (by decide)] at hr
      cases hr
    · rfl
    · rfl
  rw [operandStarts, none]
  exact List.not_mem_nil

theorem mem_operandStarts_fraction {a s n : Text} {p : Nat} (hn : Cut (a ++ s) n s)
    (h : p ∈ operandStarts ('\\' :: (fractionName ++ (a ++ s)))) :
    p = fractionName.length + 1 ∨ p = fractionName.length + 1 + a.length := by
  rw [operandStarts, operandSources_fraction hn] at h
  simp only [List.map_cons, List.map_nil, List.mem_cons, List.not_mem_nil, or_false,
    List.length_cons, List.length_append] at h
  omega

/-- **An operand written otherwise**: an item is read the same if one of its operands is replaced by
a source that is read the same, and that ends alike what stands in front of it. -/
theorem Move.exists_operand {s r : Text} {item : Item} {p : Nat} (h : Move s item r)
    (place : p ∈ operandStarts s) :
    ∃ x source t rest : Text, s = x ++ source ∧ p = x.length ∧ Cut source t rest ∧
      ∀ source' t', Cut source' t' rest → parse t' = parse t → EndsAlike source source' →
        ∃ item', Move (x ++ source') item' r ∧ ∀ acc, item'.onto acc = item.onto acc := by
  cases h with
  | @skip c _ hc =>
    have hk : c ≠ '^' ∧ c ≠ '_' ∧ c ≠ '\\' := by rcases hc with rfl | rfl | rfl <;> decide
    exact absurd place (not_mem_operandStarts ⟨hk.1, hk.2.1⟩ (fun hc => (hk.2.2 hc).elim) p)
  | @character c _ hm hb =>
    simp only [marks, List.mem_cons, List.not_mem_nil, or_false, not_or] at hm
    exact absurd place (not_mem_operandStarts ⟨hm.2.1, hm.2.2.1⟩ (fun hc => (hb hc).elim) p)
  | @command name r hn hr hsym =>
    exact absurd place
      (not_mem_operandStarts (by decide) (fun _ => startsWith_structural hr hsym) p)
  | @fraction s n s' d r hn hd =>
    obtain ⟨a, rfl, front⟩ := hn.exists_front
    rcases mem_operandStarts_fraction hn place with rfl | rfl
    · refine ⟨'\\' :: fractionName, a ++ s', n, s', rfl, rfl, hn, fun source t cut same _ => ?_⟩
      exact ⟨.fraction t d, Move.fraction cut hd, fun acc => by rw [Item.onto, same, Item.onto]⟩
    · refine ⟨'\\' :: (fractionName ++ a), s', d, r, by simp, ?_, hd,
        fun source t cut same alike => ⟨.fraction n t, ?_, fun acc => ?_⟩⟩
      · rw [List.length_cons, List.length_append]
        omega
      · rw [List.cons_append, List.append_assoc]
        exact Move.fraction (front source alike) cut
      · rw [Item.onto, same, Item.onto]
  | @root s t r ht =>
    have start : p = rootName.length + 1 := by
      rw [operandStarts, operandSources_root, List.map_singleton, List.mem_singleton] at place
      rw [place, List.length_cons, List.length_append]
      omega
    refine ⟨'\\' :: rootName, s, t, r, rfl, start, ht, fun source t cut same _ => ?_⟩
    exact ⟨.root t, Move.root cut, fun acc => by rw [Item.onto, same, Item.onto]⟩
  | @script s t r kind ht =>
    have start : p = 1 := by simpa [operandStarts, operandSources_operator] using place
    refine ⟨[.char kind.operator], s, t, r, rfl, start, ht, fun source t cut same _ => ?_⟩
    exact ⟨.script kind t, Move.script kind cut, fun acc => by rw [Item.onto, same, Item.onto]⟩

/-- **An item** is read the same with braces around one of its operands. -/
theorem Move.exists_braced {s r : Text} {item : Item} {p : Nat} (h : Move s item r)
    (place : p ∈ operandStarts s) (whole : BeginsWhole (s.drop p)) :
    (∃ item', Move (braceOperand p s) item' r ∧ ∀ acc, item'.onto acc = item.onto acc) ∧
      EndsAlike s (braceOperand p s) := by
  obtain ⟨x, source, t, rest, rfl, rfl, cut, replace⟩ := h.exists_operand place
  rw [List.drop_left] at whole
  obtain ⟨a, cut', same⟩ := cut.exists_braced whole
  have put : braceOperand x.length (x ++ source) = x ++ braceOperand 0 source :=
    braceOperand_append x source 0
  rw [put]
  exact ⟨replace _ a cut' same whole.endsAlike, whole.endsAlike.append x⟩

/-! ### Sources -/

/-- **Braces around an operand** of an item that the reader comes to change nothing of what is
read. -/
theorem parse_braceOperand {s : Text} {i p : Nat} (stop : i ∈ stops s)
    (place : p ∈ operandStarts (s.drop i)) (whole : BeginsWhole (s.drop (i + p))) :
    parse (braceOperand (i + p) s) = parse s := by
  obtain ⟨a, r, rfl, rfl⟩ : ∃ a r : Text, s = a ++ r ∧ i = a.length := by
    have le : i ≤ s.length := by
      by_contra hlt
      rw [List.drop_eq_nil_of_le (by omega)] at place
      cases place
    exact ⟨s.take i, s.drop i, (List.take_append_drop i s).symm, (List.length_take_of_le le).symm⟩
  rw [List.drop_left] at place
  rw [List.drop_length_add_append] at whole
  have some : r ≠ [] := by
    rintro rfl
    cases place
  obtain ⟨item, rest, move⟩ := exists_move some
  obtain ⟨⟨item', move', onto⟩, alike⟩ := move.exists_braced place whole
  have stop' := mem_stops_of_endsAlike stop alike
  have before := parseOnto_take_drop stop []
  have after := parseOnto_take_drop stop' []
  rw [List.take_left, List.drop_left] at before after
  rw [braceOperand_append, parse, parse, before, after, parseOnto_move move, parseOnto_move move',
    onto]

/-- A fraction in a group that is left open, with a command and a group as its operands. -/
def openGroup : Text := "x^\x7ba\\frac\\pi\x7bb\x7d^_c".toText

/-- Braces around the numerator and around the denominator, which is a group already, and around an
operator that is the operand of another one. -/
theorem parse_braceOperand_openGroup :
    parse "x^\x7ba\\frac\x7b\\pi\x7d\x7bb\x7d^_c".toText = parse openGroup ∧
      parse "x^\x7ba\\frac\\pi\x7b\x7bb\x7d\x7d^_c".toText = parse openGroup ∧
      parse "x^\x7ba\\frac\\pi\x7bb\x7d^\x7b_\x7dc".toText = parse openGroup := by
  have hs : stops openGroup = [0, 1, 3, 4, 15, 17, 18] := by decide +kernel
  have fraction : 4 ∈ stops openGroup := by simp [hs]
  have operator : 15 ∈ stops openGroup := by simp [hs]
  have numerator := parse_braceOperand (p := 5) fraction (by decide) (BeginsWhole.command _)
  have denominator := parse_braceOperand (p := 8) fraction (by decide)
    (BeginsWhole.group (t := "b".toText) _ (WellNested.of_plain (by decide)))
  have script := parse_braceOperand (p := 1) operator (by decide)
    (BeginsWhole.character _ (by decide) (by decide) (by decide))
  exact ⟨numerator, denominator, script⟩

end ExamPress.Math
