import ExamPress.Proofs.Math.Stops

/-! # Groups and their braces

The reader meets braces in two ways. Where it looks for an operand, a group is cut out and its
content is read by itself, without the braces. Where it looks for the next item, the braces are
passed over. Both ways give the same nodes (`exists_operand_parse_eq`). The one brace that is not
passed over is a closing brace where an operand is missing: there it is read as the operand, and
shows as much as the missing one, nothing (`parseOnto_append_closing`). A group that is cut out ends
with the one brace that matches its opening brace, if there is one (`readGroup_at`). -/

namespace ExamPress.Math

/-! ### Where a group ends -/

/-- `IsGroup s p e t`: from the place `p` of the source to the place `e` stands a group with the
content `t`. -/
structure IsGroup (s : Text) (p e : Nat) (t : Text) : Prop where
  inside : e ≤ s.length
  slice : (s.take e).drop p = braced t []
  nested : WellNested t

theorem IsGroup.drop_eq {s t : Text} {p e : Nat} (h : IsGroup s p e t) :
    s.drop p = braced t (s.drop e) ∧ p + (t.length + 2) = e := by
  have slice := h.slice
  rw [List.drop_take] at slice
  have width : e - p = t.length + 2 := by
    have length := congrArg List.length slice
    have := h.inside
    simp only [List.length_take, List.length_drop, braced, List.length_cons, List.length_append,
      List.length_nil] at length
    omega
  have behind : p + (e - p) = e := by omega
  have parts := List.take_append_drop (e - p) (s.drop p)
  rw [slice, List.drop_drop, behind, braced_append, List.nil_append] at parts
  exact ⟨parts.symm, width ▸ behind⟩

theorem isGroup_of_drop_eq {s t r : Text} {p : Nat} (h : s.drop p = braced t r)
    (nested : WellNested t) : IsGroup s p (p + (t.length + 2)) t where
  inside := by
    have length := congrArg List.length h
    simp only [List.length_drop, braced, List.length_cons, List.length_append] at length
    omega
  slice := by
    have front : braced t r = braced t [] ++ r := by rw [braced_append, List.nil_append]
    rw [List.drop_take, Nat.add_sub_cancel_left, h, front, List.take_left']
    simp [braced]
  nested := nested

/-- **Where a group ends**: a group that opens at a place ends at one place at most. If it ends
there, it is read up to there, with what stands between its braces. If it ends nowhere, it is empty
and ends behind its opening brace. -/
theorem readGroup_at {s : Text} {p : Nat} (opens : s[p]? = some (.char '{')) :
    (∀ e t e' t', IsGroup s p e t → IsGroup s p e' t' → e = e') ∧
      (∀ e t, IsGroup s p e t →
        (readGroup (s.drop p)).content = t ∧ p + (readGroup (s.drop p)).width = e) ∧
      ((∀ e t, ¬ IsGroup s p e t) →
        (readGroup (s.drop p)).content = [] ∧ p + (readGroup (s.drop p)).width = p + 1) := by
  have closed (e : Nat) (t : Text) (h : IsGroup s p e t) :
      (readGroup (s.drop p)).content = t ∧ p + (readGroup (s.drop p)).width = e := by
    obtain ⟨drop, ends⟩ := h.drop_eq
    rw [drop, readGroup_braced _ h.nested]
    exact ⟨rfl, ends⟩
  refine ⟨fun e t e' t' h h' => ?_, closed, fun unclosed => ?_⟩
  · exact (closed e t h).2.symm.trans (closed e' t' h').2
  · obtain ⟨inside, first⟩ := List.getElem?_eq_some_iff.mp opens
    have drop : s.drop p = .char '{' :: s.drop (p + 1) := by
      rw [List.drop_eq_getElem_cons inside, first]
    rw [drop, readGroup_unclosed fun t r nested behind => ?_]
    · exact ⟨rfl, rfl⟩
    · refine unclosed _ t (isGroup_of_drop_eq (r := r) ?_ nested)
      rw [drop, behind, braced]

/-- A group with a group inside, a brace that closes nothing, and a brace that stays open. -/
def looseBraces : Text := "\x7ba\x7bb\x7dc\x7d\x7d\x7bd".toText

theorem readGroup_at_looseBraces :
    (looseBraces[0]? = some (.char '{') ∧ IsGroup looseBraces 0 7 "a\x7bb\x7dc".toText ∧
      readGroup looseBraces = ⟨"a\x7bb\x7dc".toText, 7⟩) ∧
    (looseBraces[8]? = some (.char '{') ∧ (∀ e t, ¬ IsGroup looseBraces 8 e t) ∧
      readGroup (looseBraces.drop 8) = ⟨[], 1⟩) := by
  have opens : looseBraces[0]? = some (.char '{') := by decide
  have opens' : looseBraces[8]? = some (.char '{') := by decide
  have nested : WellNested ("a".toText ++ braced "b".toText "c".toText) :=
    (WellNested.of_plain (by decide)).append
      ((WellNested.of_plain (by decide)).braced (WellNested.of_plain (by decide)))
  have group : IsGroup looseBraces 0 7 "a\x7bb\x7dc".toText := ⟨by decide, by decide, nested⟩
  have unclosed (e : Nat) (t : Text) : ¬ IsGroup looseBraces 8 e t := by
    intro h
    have behind := (List.cons.inj h.drop_eq.1).2
    have closing : (.char '}' : CodePoint) ∈ t ++ ('}' :: looseBraces.drop e : Text) :=
      List.mem_append_right t List.mem_cons_self
    rw [← behind] at closing
    revert closing
    decide
  obtain ⟨content, ends⟩ := (readGroup_at opens).2.1 7 _ group
  obtain ⟨content', ends'⟩ := (readGroup_at opens').2.2 unclosed
  refine ⟨⟨opens, group, ?_⟩, opens', unclosed, ?_⟩
  · rw [List.drop_zero] at content ends
    rw [← content, ← ends, Nat.zero_add]
  · rw [← content', ← Nat.add_left_cancel ends']

/-! ### Closing braces at the end -/

/-- A source in which every opening brace has its closing brace. -/
def GroupsClose (s : Text) : Prop :=
  ∀ r : Text, ('{' :: r : Text) <:+ s → ∃ t r' : Text, WellNested t ∧ r = t ++ ('}' :: r' : Text)

theorem WellNested.groupsClose {s : Text} (h : WellNested s) : GroupsClose s := by
  rintro r ⟨a, rfl⟩
  exact h.exists_closing

theorem GroupsClose.of_suffix {s r : Text} (h : GroupsClose s) (hr : r <:+ s) : GroupsClose r :=
  fun _ hb => h _ (hb.trans hr)

theorem Cut.suffix {s t r : Text} (h : Cut s t r) : r <:+ s := by
  obtain ⟨a, rfl, -⟩ := h.exists_front
  exact List.suffix_append a r

theorem Move.suffix {s r : Text} {item : Item} (h : Move s item r) : r <:+ s := by
  obtain ⟨a, rfl, -⟩ := h.exists_front
  exact List.suffix_append a r

/-- A text of nothing but closing braces. -/
abbrev Closings (e : Text) : Prop := ∀ c ∈ e, c = '}'

theorem Closings.endsName {r e : Text} (he : Closings e) (hr : EndsName r) : EndsName (r ++ e) := by
  intro c hc
  rcases r with _ | ⟨c', r⟩
  · rw [he c (List.mem_of_mem_head? hc)]
    rfl
  · exact hr c hc

theorem parseOnto_closings {e : Text} (he : Closings e) (acc : List Node) :
    parseOnto acc e = acc := by
  induction e with
  | nil => exact parseOnto_nil acc
  | cons c e ih =>
    obtain ⟨rfl, tail⟩ := List.forall_mem_cons.mp he
    rw [parseOnto_move (Move.skip e (by decide)), Item.onto, ih tail]

/-- **An operand** is read the same with closing braces behind the source. If it is missing, one of
them is the operand. -/
theorem Cut.append_closing {s t r e : Text} (h : Cut s t r) (closes : GroupsClose s)
    (he : Closings e) :
    ∃ t' e', Closings e' ∧ Cut (s ++ e) t' (r ++ e') ∧ parse t' = parse t := by
  cases h with
  | missing =>
    rcases e with _ | ⟨c, e⟩
    · exact ⟨[], [], he, Cut.missing, rfl⟩
    · obtain ⟨rfl, tail⟩ := List.forall_mem_cons.mp he
      refine ⟨['}'], e, tail, Cut.single e (by decide) (by decide), ?_⟩
      rw [parse, parseOnto_closings (List.forall_mem_singleton.mpr rfl), parse, parseOnto_nil]
  | @group t r ht =>
    refine ⟨t, e, he, ?_, rfl⟩
    rw [braced_append]
    exact Cut.group (r ++ e) ht
  | @unclosed r open' =>
    obtain ⟨t, r', ht, hr⟩ := closes r List.suffix_rfl
    exact (open' t r' ht hr).elim
  | @command name r hn hr =>
    refine ⟨'\\' :: name, e, he, ?_, rfl⟩
    rw [List.cons_append, List.append_assoc]
    exact Cut.command hn (he.endsName hr)
  | @single c r ho hb => exact ⟨[c], e, he, Cut.single (r ++ e) ho hb, rfl⟩

/-- **An item** is read the same with closing braces behind the source. -/
theorem Move.append_closing {s r e : Text} {item : Item} (h : Move s item r)
    (closes : GroupsClose s) (he : Closings e) :
    ∃ item' e', Closings e' ∧ Move (s ++ e) item' (r ++ e') ∧
      ∀ acc, item'.onto acc = item.onto acc := by
  cases h with
  | skip _ hc => exact ⟨_, e, he, Move.skip (r ++ e) hc, fun _ => rfl⟩
  | character _ hm hb => exact ⟨_, e, he, Move.character (r ++ e) hm hb, fun _ => rfl⟩
  | @command name r hn hr hsym =>
    refine ⟨_, e, he, ?_, fun _ => rfl⟩
    rw [List.cons_append, List.append_assoc]
    exact Move.command hn (he.endsName hr) hsym
  | @fraction s n s' d r hn hd =>
    have closes : GroupsClose s :=
      closes.of_suffix (List.suffix_append ('\\' :: fractionName : Text) s)
    obtain ⟨n', e', he', numerator, sameN⟩ := hn.append_closing closes he
    obtain ⟨d', e'', he'', denominator, sameD⟩ :=
      hd.append_closing (closes.of_suffix hn.suffix) he'
    refine ⟨.fraction n' d', e'', he'', ?_, fun acc => by rw [Item.onto, sameN, sameD, Item.onto]⟩
    rw [List.cons_append, List.append_assoc]
    exact Move.fraction numerator denominator
  | @root s t r ht =>
    have closes : GroupsClose s := closes.of_suffix (List.suffix_append ('\\' :: rootName : Text) s)
    obtain ⟨t', e', he', radicand, same⟩ := ht.append_closing closes he
    refine ⟨.root t', e', he', ?_, fun acc => by rw [Item.onto, same, Item.onto]⟩
    rw [List.cons_append, List.append_assoc]
    exact Move.root radicand
  | @script s t r kind ht =>
    have closes : GroupsClose s := closes.of_suffix (List.suffix_cons (.char kind.operator) s)
    obtain ⟨t', e', he', script, same⟩ := ht.append_closing closes he
    exact ⟨.script kind t', e', he', Move.script kind script,
      fun acc => by rw [Item.onto, same, Item.onto]⟩

/-- **Closing braces at the end** of a source change nothing, if all its groups are closed. -/
theorem parseOnto_append_closing {s e : Text} (closes : GroupsClose s) (he : Closings e)
    (acc : List Node) : parseOnto acc (s ++ e) = parseOnto acc s := by
  induction s using reading_induction generalizing e acc with
  | nil => rw [List.nil_append, parseOnto_closings he, parseOnto_nil]
  | move s item r move operands rest =>
    obtain ⟨item', e', he', move', onto⟩ := move.append_closing closes he
    rw [parseOnto_move move', onto, rest (closes.of_suffix move.suffix) he', parseOnto_move move]

/-! ### Operands as they stand in the source -/

theorem parse_braced {t : Text} (h : WellNested t) : parse (braced t []) = parse t := by
  rw [parse, braced, parseOnto_move (Move.skip _ (by decide)), Item.onto,
    parseOnto_append_closing h.groupsClose (List.forall_mem_singleton.mpr rfl), parse]

/-- **An operand as it stands in the source**, with the braces around it, is read like its
content. -/
theorem Cut.exists_standing {s t r : Text} (h : Cut s t r) :
    ∃ a : Text, s = a ++ r ∧ parse a = parse t := by
  cases h with
  | missing => exact ⟨[], rfl, rfl⟩
  | @group t r ht =>
    exact ⟨braced t [], by rw [braced_append, List.nil_append], parse_braced ht⟩
  | unclosed _ =>
    refine ⟨['{'], rfl, ?_⟩
    rw [parse, parseOnto_move (Move.skip [] (by decide)), Item.onto, parse]
  | @command name r _ _ => exact ⟨'\\' :: name, rfl, rfl⟩
  | @single c r _ _ => exact ⟨[c], rfl, rfl⟩

/-- **Cutting out or passing over**: at every place of a source stands an operand, and its content
gives the same nodes as the part of the source that it takes. -/
theorem exists_operand_parse_eq {s : Text} {p : Nat} (h : p < s.length) :
    ∃ operand, nextOperand (s.drop p) = some operand ∧
      parse operand.content = parse ((s.drop p).take operand.width) := by
  generalize hs : s.drop p = source
  have notEmpty : source ≠ [] := by
    rw [← hs]
    simpa using h
  obtain ⟨found, hfound⟩ : ∃ found, nextOperand source = some found := by
    unfold nextOperand
    split <;> simp_all
  obtain ⟨t, r, cut⟩ := exists_cut source
  obtain ⟨content, rest⟩ := cut.operand_eq
  rw [operand, hfound, Option.getD_some] at content rest
  obtain ⟨a, standing, same⟩ := cut.exists_standing
  have taken : source.take found.width = a := by
    have parts := List.take_append_drop found.width source
    rw [rest] at parts
    exact List.append_cancel_right (parts.trans standing)
  exact ⟨found, hfound, by rw [content, taken, same]⟩

/-- A script whose group ends with a fraction that lacks its denominator. -/
def openFraction : Text := "x^\x7ba\\frac\x7bb\x7d\x7dd".toText

/-- Where the group stands, the fraction takes the closing brace for its denominator. -/
theorem exists_operand_parse_eq_openFraction :
    2 < openFraction.length ∧
      nextOperand (openFraction.drop 2) = some ⟨"a\\frac\x7bb\x7d".toText, 11⟩ ∧
      parse "a\\frac\x7bb\x7d".toText = parse "\x7ba\\frac\x7bb\x7d\x7d".toText := by
  have inside : 2 < openFraction.length := by decide
  have group : nextOperand (openFraction.drop 2) =
      some ⟨"a\\frac\x7bb\x7d".toText, 11⟩ := by decide
  obtain ⟨operand, found, same⟩ := exists_operand_parse_eq inside
  obtain rfl := Option.some.inj (group.symm.trans found)
  exact ⟨inside, group, same⟩

end ExamPress.Math
