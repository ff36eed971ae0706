import ExamPress.Proofs.Math.Stops
import Mathlib.Tactic.Common

/-! # Spaces in the source of a formula

A space shows nothing where the reader looks for the next item, but where it looks for an operand
the space is the operand (`parseOnto_operator_space`). So a space can be put anywhere into a source
without a change to its nodes, except inside a command and in front of an operand
(`parse_insertSpace`). -/

namespace ExamPress.Math

/-! ### Places -/

/-- A source with one more space, at a place counted from its front. -/
def insertSpace (i : Nat) (s : Text) : Text := s.take i ++ (' ' :: s.drop i : Text)

/-- Whether a place is inside a command: in front of it stands a backslash, or letters behind a
backslash, and behind it a letter. -/
def insideCommand (s : Text) (i : Nat) : Bool :=
  ((s.take i).reverse.dropWhile CodePoint.isAlpha).head? == some (.char '\\') &&
    (s.drop i).head?.any CodePoint.isAlpha

/-- The parts of a source that begins with `c` which the operands of the item at its front stand at
the front of. -/
def operandSources (c : CodePoint) (s : Text) : List Text :=
  if c = '^' ∨ c = '_' then [s]
  else if c = '\\' then
    if s.startsWith fractionName then
      let s := s.drop fractionName.length
      [s, s.drop (operand s).width]
    else if s.startsWith rootName then [s.drop rootName.length]
    else []
  else []

theorem length_le_of_mem_operandSources {c : CodePoint} {s t : Text}
    (h : t ∈ operandSources c s) : t.length ≤ s.length := by
  unfold operandSources at h
  split_ifs at h <;> simp only [List.mem_cons, List.not_mem_nil, or_false] at h
  · exact h ▸ le_rfl
  · rcases h with rfl | rfl
    · simp
    · simp only [List.length_drop]
      omega
  · simp [h]

mutual

/-- The places of a source at which an operand begins, also inside other operands. -/
def operandPlaces (s : Text) : List Nat :=
  match s with
  | [] => []
  | c :: s =>
    let rest := (nextStep c s).rest
    (operandSources c s).attach.flatMap (fun t =>
        (placesAt t.1).map (· + ((c :: s).length - t.1.length))) ++
      (operandPlaces rest).map (· + ((c :: s).length - rest.length))
termination_by (s.length, 0)
decreasing_by
  · have := length_le_of_mem_operandSources t.2
    simp only [List.length_cons, Prod.lex_def]
    omega
  · have := length_rest_le c s
    simp only [List.length_cons, Prod.lex_def]
    omega

/-- The places at which the operand at the front of a source begins, and those inside it. -/
def placesAt (s : Text) : List Nat :=
  match s with
  | [] => []
  | .char '{' :: s => 0 :: (operandPlaces (readGroup ('{' :: s)).content).map (· + 1)
  | _ => [0]
termination_by (s.length, 1)
decreasing_by
  have := length_readGroup_le ('{' :: s)
  simp only [Prod.lex_def]
  omega

end

/-! ### Insertion -/

theorem insertSpace_append (a s : Text) (i : Nat) :
    insertSpace (a.length + i) (a ++ s) = a ++ insertSpace i s := by
  rw [insertSpace, List.take_length_add_append, List.drop_length_add_append, List.append_assoc,
    insertSpace]

theorem insertSpace_succ (c : CodePoint) (s : Text) (i : Nat) :
    insertSpace (i + 1) (c :: s) = c :: insertSpace i s := rfl

theorem insertSpace_behind_name (name s : Text) (j : Nat) :
    insertSpace (name.length + 1 + j) ('\\' :: (name ++ s)) =
      ('\\' :: (name ++ insertSpace j s) : Text) :=
  insertSpace_append ('\\' :: name) s j

theorem insertSpace_append_left {t : Text} {i : Nat} (h : i ≤ t.length) (r : Text) :
    insertSpace i (t ++ r) = insertSpace i t ++ r := by
  rw [insertSpace, List.take_append_of_le_length h, List.drop_append_of_le_length h, insertSpace,
    List.append_assoc, List.cons_append]

theorem insertSpace_braced {t : Text} {i : Nat} (h : i ≤ t.length) (r : Text) :
    insertSpace (i + 1) (braced t r) = braced (insertSpace i t) r := by
  rw [braced, insertSpace_succ, insertSpace_append_left h, braced]

theorem depth_append_space (a b : Text) : depth (a ++ (' ' :: b : Text)) = depth (a ++ b) := by
  rw [depth_append, depth_cons, if_neg (by decide), if_neg (by decide), zero_add, depth_append]

theorem depth_insertSpace (i : Nat) (s : Text) : depth (insertSpace i s) = depth s := by
  rw [insertSpace, depth_append_space, List.take_append_drop]

/-- A space closes no group: no part of a text comes to close more than it opens. -/
theorem nonneg_insertSpace {s : Text} (h : ∀ p, p <+: s → 0 ≤ depth p) (i : Nat) :
    ∀ p, p <+: insertSpace i s → 0 ≤ depth p := by
  intro p hp
  rcases Text.prefix_append_cases hp with front | ⟨q, hq, rfl⟩
  · exact h p (front.trans (List.take_prefix i s))
  rcases q with _ | ⟨c, q⟩
  · rw [List.append_nil]
    exact h _ (List.take_prefix i s)
  · obtain ⟨rfl, hq'⟩ := List.cons_prefix_cons.mp hq
    have inside := (List.prefix_append_right_inj (s.take i)).mpr hq'
    rw [List.take_append_drop] at inside
    rw [depth_append_space]
    exact h _ inside

theorem wellNested_insertSpace {t : Text} (h : WellNested t) (i : Nat) :
    WellNested (insertSpace i t) :=
  ⟨nonneg_insertSpace h.nonneg i, by rw [depth_insertSpace, h.closed]⟩

theorem unclosed_insertSpace {r : Text}
    (h : ∀ t r' : Text, WellNested t → r ≠ t ++ ('}' :: r' : Text)) (i : Nat) :
    ∀ t r' : Text, WellNested t → insertSpace i r ≠ t ++ ('}' :: r' : Text) :=
  forall_ne_closing_iff.mpr (nonneg_insertSpace (forall_ne_closing_iff.mp h) i)

theorem endsName_insertSpace {r : Text} (h : EndsName r) (i : Nat) :
    EndsName (insertSpace i r) := by
  intro c hc
  rcases i with _ | i
  · cases hc
    decide
  rcases r with _ | ⟨c', r⟩
  · cases hc
    decide
  · exact h c hc

/-! ### Inside commands -/

theorem insideCommand_append (a : Text) {s : Text} {i : Nat} (h : insideCommand s i = true) :
    insideCommand (a ++ s) (a.length + i) = true := by
  obtain ⟨front, back⟩ := (Bool.and_eq_true _ _).mp h
  rw [insideCommand, List.take_length_add_append, List.drop_length_add_append, Bool.and_eq_true,
    List.reverse_append, List.dropWhile_append]
  refine ⟨?_, back⟩
  -- the backslash stands in front of the letters in `s` already
  split_ifs with hs
  · rw [List.isEmpty_iff.mp hs] at front
    cases front
  · rw [List.head?_append, beq_iff_eq.mp front]
    rfl

theorem insideCommand_append_left {t : Text} {i : Nat} (hi : i ≤ t.length)
    (h : insideCommand t i = true) (r : Text) : insideCommand (t ++ r) i = true := by
  obtain ⟨front, back⟩ := (Bool.and_eq_true _ _).mp h
  rw [insideCommand, List.take_append_of_le_length hi, List.drop_append_of_le_length hi, front,
    Bool.true_and]
  obtain ⟨c, hc, ha⟩ := (Option.any_eq_true _ _).mp back
  rw [List.head?_append, hc]
  exact ha

theorem insideCommand_letters {name : Text} (hn : Letters name) (r : Text) {i : Nat}
    (hi : i < name.length) : insideCommand ('\\' :: (name ++ r)) (i + 1) = true := by
  have front : ∀ c ∈ (name.take i).reverse, CodePoint.isAlpha c = true := fun c hc =>
    hn c (List.mem_of_mem_take (List.mem_reverse.mp hc))
  have letter : (name.drop i ++ r).head?.any CodePoint.isAlpha = true := by
    rw [List.drop_eq_getElem_cons hi]
    exact hn _ (List.getElem_mem hi)
  rw [insideCommand, List.take_succ_cons, List.drop_succ_cons,
    List.take_append_of_le_length hi.le, List.drop_append_of_le_length hi.le, List.reverse_cons,
    List.dropWhile_append_of_pos front, letter]
  rfl

theorem exists_behind_name {name r : Text} {i : Nat} (hn : Letters name)
    (h : insideCommand ('\\' :: (name ++ r)) (i + 1) = false) :
    ∃ j, i + 1 = name.length + 1 + j := by
  rcases Nat.lt_or_ge i name.length with hlt | hle
  · rw [insideCommand_letters hn r hlt] at h
    cases h
  · obtain ⟨j, rfl⟩ := Nat.exists_eq_add_of_le hle
    exact ⟨j, by omega⟩

/-! ### In front of operands -/

theorem mem_operandPlaces_of_source {c : CodePoint} {s t : Text} {i : Nat}
    (ht : t ∈ operandSources c s) (hi : i ∈ placesAt t) :
    (c :: s).length - t.length + i ∈ operandPlaces (c :: s) := by
  rw [operandPlaces, List.mem_append, List.mem_flatMap]
  exact Or.inl ⟨⟨t, ht⟩, List.mem_attach _ _, List.mem_map.mpr ⟨i, hi, Nat.add_comm _ _⟩⟩

theorem mem_operandPlaces_of_rest {a r : Text} {item : Item} (h : Move (a ++ r) item r) {i : Nat}
    (hi : i ∈ operandPlaces r) : a.length + i ∈ operandPlaces (a ++ r) := by
  have length : (a ++ r).length - r.length = a.length := by
    rw [List.length_append, Nat.add_sub_cancel]
  rcases hs : a ++ r with _ | ⟨c, s⟩
  · rw [hs] at h
    cases h
  · rw [hs] at h length
    rw [operandPlaces, h.nextStep_eq, List.mem_append, List.mem_map]
    exact Or.inr ⟨i, hi, by rw [length, Nat.add_comm]⟩

theorem operandSources_operator (kind : ScriptKind) (s : Text) :
    operandSources kind.operator s = [s] := by
  cases kind <;> rfl

theorem operandSources_root (s : Text) : operandSources '\\' (rootName ++ s) = [s] := rfl

theorem operandSources_fraction {s n s' : Text} (h : Cut s n s') :
    operandSources '\\' (fractionName ++ s) = [s, s'] := by
  obtain ⟨-, rfl⟩ := h.operand_eq
  rfl

theorem zero_mem_placesAt {s : Text} (h : s ≠ []) : 0 ∈ placesAt s := by
  unfold placesAt
  split <;> simp_all

theorem mem_placesAt_braced {t r : Text} (h : WellNested t) {i : Nat} (hi : i ∈ operandPlaces t) :
    i + 1 ∈ placesAt (braced t r) := by
  have group : (readGroup ('{' :: (t ++ ('}' :: r : Text)))).content = t :=
    congrArg Operand.content (readGroup_braced r h)
  rw [braced, placesAt, group]
  exact List.mem_cons_of_mem _ (List.mem_map_of_mem hi)

/-! ### Gaps -/

/-- **A gap**: a place of a source that is not inside a command and not in front of an operand. -/
structure IsGap (s : Text) (i : Nat) : Prop where
  le : i ≤ s.length
  outside : insideCommand s i = false
  apart : i ∉ operandPlaces s

/-- A gap of a source with an operand at its front. -/
structure IsGapAt (s : Text) (i : Nat) : Prop where
  le : i ≤ s.length
  outside : insideCommand s i = false
  apart : i ∉ placesAt s

theorem outside_of_append {a s : Text} {i : Nat}
    (h : insideCommand (a ++ s) (a.length + i) = false) : insideCommand s i = false :=
  Bool.eq_false_iff.mpr fun inside => by
    rw [insideCommand_append a inside] at h
    cases h

theorem outside_of_cons {c : CodePoint} {s : Text} {i : Nat}
    (h : insideCommand (c :: s) (i + 1) = false) : insideCommand s i = false := by
  rw [Nat.add_comm] at h
  exact outside_of_append (a := [c]) h

theorem le_of_append {a s : Text} {i : Nat} (h : a.length + i ≤ (a ++ s).length) :
    i ≤ s.length := by
  rw [List.length_append] at h
  omega

theorem IsGap.behind {a r : Text} {item : Item} {i : Nat} (h : IsGap (a ++ r) (a.length + i))
    (move : Move (a ++ r) item r) : IsGap r i where
  le := le_of_append h.le
  outside := outside_of_append h.outside
  apart hi := h.apart (mem_operandPlaces_of_rest move hi)

theorem IsGap.operand {c : CodePoint} {a s : Text} {i : Nat}
    (h : IsGap (c :: (a ++ s)) (a.length + 1 + i)) (hs : s ∈ operandSources c (a ++ s)) :
    IsGapAt s i where
  le := le_of_append (a := c :: a) h.le
  outside := outside_of_append (a := c :: a) h.outside
  apart hi := h.apart (by
    have := mem_operandPlaces_of_source hs hi
    rwa [List.length_cons, List.length_append, Nat.add_right_comm, Nat.add_sub_cancel] at this)

theorem IsGapAt.inside {t r : Text} {i : Nat} (h : IsGapAt (braced t r) (i + 1))
    (ht : WellNested t) (hi : i ≤ t.length) : IsGap t i where
  le := hi
  outside := Bool.eq_false_iff.mpr fun inside => by
    have := outside_of_cons h.outside
    rw [insideCommand_append_left hi inside] at this
    cases this
  apart hi := h.apart (mem_placesAt_braced ht hi)

/-! ### Reading with one more space -/

/-- What stands behind an item or an operand at the front of `s` when a space is put into `s` at the
place `i`: the same as before, or the same with the space in it. -/
def Behind (s : Text) (i : Nat) (r r' : Text) : Prop :=
  r' = r ∨ ∃ (a : Text) (j : Nat), s = a ++ r ∧ i = a.length + j ∧ r' = insertSpace j r

theorem Behind.append {s r r' : Text} {i : Nat} (h : Behind s i r r') (a : Text) :
    Behind (a ++ s) (a.length + i) r r' := by
  rcases h with h | ⟨b, j, rfl, rfl, h⟩
  · exact Or.inl h
  · exact Or.inr ⟨a ++ b, j, (List.append_assoc _ _ _).symm,
      by rw [List.length_append, Nat.add_assoc], h⟩

theorem Behind.of_append {a r : Text} (j : Nat) :
    Behind (a ++ r) (a.length + j) r (insertSpace j r) :=
  Or.inr ⟨a, j, rfl, rfl, rfl⟩

theorem Behind.of_cons (c : CodePoint) (r : Text) (j : Nat) :
    Behind (c :: r) (j + 1) r (insertSpace j r) :=
  Or.inr ⟨[c], j, rfl, Nat.add_comm j 1, rfl⟩

theorem parse_space : parse [' '] = parse [] := by
  rw [parse, parseOnto_move (Move.skip [] (by decide))]
  rfl

/-- **An operand** is read the same with a space in it or behind it. -/
theorem Cut.insertSpace {s t r : Text} {i : Nat} (h : Cut s t r) (hi : IsGapAt s i)
    (inside : ∀ j, IsGap t j → parse (insertSpace j t) = parse t) :
    ∃ t' r', Cut (insertSpace i s) t' r' ∧ parse t' = parse t ∧ Behind s i r r' := by
  -- in front of the operand there is no gap, unless it is missing
  have first (hs : s ≠ []) : i ≠ 0 := fun h0 => hi.apart (h0 ▸ zero_mem_placesAt hs)
  cases h with
  | missing =>
    obtain rfl : i = 0 := by simpa using hi.le
    exact ⟨[' '], [], Cut.single [] (by decide) (by decide), parse_space, Or.inl rfl⟩
  | group r ht =>
    obtain ⟨i, rfl⟩ := Nat.exists_eq_succ_of_ne_zero (first (List.cons_ne_nil _ _))
    rcases Nat.lt_or_ge t.length i with hlt | hle
    · obtain ⟨j, rfl⟩ := Nat.exists_eq_add_of_lt hlt
      have hs : braced t r = braced t [] ++ r := by rw [braced_append, List.nil_append]
      have hj : (t.length + j + 1).succ = (braced t []).length + j := by
        simp only [braced, List.length_cons, List.length_append, List.length_nil]
        omega
      rw [hs, hj, insertSpace_append, braced_append, List.nil_append]
      exact ⟨t, _, Cut.group _ ht, rfl, Behind.of_append j⟩
    · refine ⟨Math.insertSpace i t, r, ?_, inside i (hi.inside ht hle), Or.inl rfl⟩
      rw [insertSpace_braced hle]
      exact Cut.group r (wellNested_insertSpace ht i)
  | unclosed open' =>
    obtain ⟨i, rfl⟩ := Nat.exists_eq_succ_of_ne_zero (first (List.cons_ne_nil _ _))
    exact ⟨[], Math.insertSpace i r, Cut.unclosed (unclosed_insertSpace open' i), rfl,
      Behind.of_cons '{' r i⟩
  | @command name r hn hr =>
    obtain ⟨i, rfl⟩ := Nat.exists_eq_succ_of_ne_zero (first (List.cons_ne_nil _ _))
    obtain ⟨j, hj⟩ := exists_behind_name hn hi.outside
    rw [Nat.succ_eq_add_one, hj, insertSpace_behind_name]
    exact ⟨_, _, Cut.command hn (endsName_insertSpace hr j), rfl,
      Behind.of_append (a := '\\' :: name) j⟩
  | @single c r ho hb =>
    obtain ⟨i, rfl⟩ := Nat.exists_eq_succ_of_ne_zero (first (List.cons_ne_nil _ _))
    exact ⟨[c], Math.insertSpace i r, Cut.single _ ho hb, rfl, Behind.of_cons c r i⟩

/-- **An item** is the same with a space in one of its operands or behind it. -/
theorem Move.insertSpace {s r : Text} {item : Item} {i : Nat} (h : Move s item r)
    (hi : IsGap s (i + 1))
    (inside : ∀ t ∈ item.operands, ∀ j, IsGap t j → parse (insertSpace j t) = parse t) :
    ∃ item' r', Move (insertSpace (i + 1) s) item' r' ∧
      (∀ acc, item'.onto acc = item.onto acc) ∧ Behind s (i + 1) r r' := by
  cases h with
  | @skip c r h => exact ⟨_, _, Move.skip _ h, fun _ => rfl, Behind.of_cons c r i⟩
  | @character c r hm hb =>
    exact ⟨_, _, Move.character _ hm hb, fun _ => rfl, Behind.of_cons c r i⟩
  | @command name r hn hr hsym =>
    obtain ⟨j, hj⟩ := exists_behind_name hn hi.outside
    rw [hj, insertSpace_behind_name]
    exact ⟨_, _, Move.command hn (endsName_insertSpace hr j) hsym, fun _ => rfl,
      Behind.of_append (a := '\\' :: name) j⟩
  | @fraction s n s' d r hn hd =>
    have hf : Letters fractionName := letters_of_mem_structuralNames (by decide)
    obtain ⟨j, hj⟩ := exists_behind_name hf hi.outside
    rw [hj] at hi ⊢
    have sources := operandSources_fraction hn
    have gap : IsGapAt s j := hi.operand (by simp [sources])
    obtain ⟨n', m, numerator, sameN, behindN⟩ :=
      hn.insertSpace gap (inside n (by simp [Item.operands]))
    rw [insertSpace_behind_name]
    rcases behindN with rfl | ⟨a, k, rfl, rfl, rfl⟩
    · -- the numerator takes the space, what stands behind it is the same
      exact ⟨.fraction n' d, r, Move.fraction numerator hd,
        fun acc => by rw [Item.onto, sameN, Item.onto], Or.inl rfl⟩
    · have gap : IsGapAt s' k := by
        refine IsGap.operand (c := '\\') (a := fractionName ++ a) ?_ ?_
        · have place : (fractionName ++ a).length + 1 + k =
              fractionName.length + 1 + (a.length + k) := by
            rw [List.length_append]
            omega
          rw [place, List.append_assoc]
          exact hi
        · simp [List.append_assoc, sources]
      obtain ⟨d', r', denominator, sameD, behindD⟩ :=
        hd.insertSpace gap (inside d (by simp [Item.operands]))
      exact ⟨.fraction n' d', r', Move.fraction numerator denominator,
        fun acc => by rw [Item.onto, sameN, sameD, Item.onto],
        (behindD.append a).append ('\\' :: fractionName)⟩
  | @root s t r ht =>
    have hf : Letters rootName := letters_of_mem_structuralNames (by decide)
    obtain ⟨j, hj⟩ := exists_behind_name hf hi.outside
    rw [hj] at hi ⊢
    have gap : IsGapAt s j := hi.operand (by simp [operandSources_root])
    obtain ⟨t', r', cut, same, behind⟩ := ht.insertSpace gap (inside t (by simp [Item.operands]))
    rw [insertSpace_behind_name]
    exact ⟨.root t', r', Move.root cut, fun acc => by rw [Item.onto, same, Item.onto],
      behind.append ('\\' :: rootName)⟩
  | @script s t r kind ht =>
    have gap : IsGapAt s i := by
      refine IsGap.operand (c := kind.operator) (a := []) ?_ ?_
      · rwa [List.length_nil, Nat.zero_add, Nat.add_comm]
      · simp [operandSources_operator]
    obtain ⟨t', r', cut, same, behind⟩ := ht.insertSpace gap (inside t (by simp [Item.operands]))
    have behind := behind.append [kind.operator]
    rw [List.length_singleton, Nat.add_comm] at behind
    exact ⟨.script kind t', r', Move.script kind cut,
      fun acc => by rw [Item.onto, same, Item.onto], behind⟩

theorem Behind.gap {s r r' : Text} {item : Item} {i : Nat} (h : Behind s i r r')
    (move : Move s item r) (hi : IsGap s i) : r' = r ∨ ∃ j, IsGap r j ∧ r' = insertSpace j r := by
  rcases h with h | ⟨a, j, rfl, rfl, h⟩
  · exact Or.inl h
  · exact Or.inr ⟨j, hi.behind move, h⟩

/-- In a gap, a space changes nothing of what is read after other nodes. -/
theorem parseOnto_insertSpace {s : Text} {i : Nat} (h : IsGap s i) (acc : List Node) :
    parseOnto acc (insertSpace i s) = parseOnto acc s := by
  induction s using reading_induction generalizing i acc with
  | nil =>
    obtain rfl : i = 0 := by simpa using h.le
    exact parseOnto_move (Move.skip [] (by decide)) acc
  | move s item r move operands rest =>
    rcases i with _ | i
    · exact parseOnto_move (Move.skip s (by decide)) acc
    obtain ⟨item', r', move', onto, behind⟩ := move.insertSpace h
      fun t ht j hj => by rw [parse, operands t ht hj, parse]
    rw [parseOnto_move move', parseOnto_move move, onto]
    rcases behind.gap move h with rfl | ⟨j, hj, rfl⟩
    · rfl
    · exact rest hj _

/-! ### Spaces that change nothing -/

/-- **Spaces in gaps**: a space that is neither inside a command nor in front of an operand changes
nothing of what is read. -/
theorem parse_insertSpace {s : Text} {i : Nat} (le : i ≤ s.length)
    (outside : insideCommand s i = false) (apart : i ∉ operandPlaces s) :
    parse (insertSpace i s) = parse s := by
  rw [parse, parseOnto_insertSpace ⟨le, outside, apart⟩, parse]

/-- A command, and a fraction with a script in its numerator and a script behind it. -/
def scriptInFraction : Text := "\\pi\\frac{a^2}b_{cx}".toText

/-- A space in front of the operator of a script, and one at the end of a group. -/
theorem parse_insertSpace_scriptInFraction :
    parse "\\pi\\frac{a ^2}b_{cx}".toText = parse scriptInFraction ∧
      parse "\\pi\\frac{a^2}b_{cx }".toText = parse scriptInFraction := by
  have command : nextStep '\\' "pi\\frac{a^2}b_{cx}".toText =
      ⟨.run "π".toText, "\\frac{a^2}b_{cx}".toText⟩ := by decide
  have places : operandPlaces scriptInFraction = [8, 11, 13, 15] := by
    change operandPlaces ('\\' :: "pi\\frac{a^2}b_{cx}".toText) = _
    rw [operandPlaces, command]
    cbv
  have operator : insertSpace 10 scriptInFraction = "\\pi\\frac{a ^2}b_{cx}".toText := by decide
  have group : insertSpace 18 scriptInFraction = "\\pi\\frac{a^2}b_{cx }".toText := by decide
  rw [← operator, ← group]
  exact ⟨parse_insertSpace (by decide) (by decide) (by simp [places]),
    parse_insertSpace (by decide) (by decide) (by simp [places])⟩

/-! ### Spaces that are operands -/

/-- **Behind the operator of a script**, a space is the script: it is empty, and what follows is
behind it. -/
theorem parseOnto_operator_space (kind : ScriptKind) (s : Text) (acc : List Node) :
    parseOnto acc (kind.operator :: ' ' :: s) =
      parseOnto (.scripted [acc.headD (.run [])] kind [] :: acc.tail) s := by
  have empty : parse [' '] = [] := by rw [parse_space, parse, parseOnto_nil, List.reverse_nil]
  rw [parseOnto_move (Move.script kind (Cut.single s (by decide) (by decide))), Item.onto, empty]

/-- A space outside all commands that changes what is read: it becomes the exponent. -/
theorem parse_space_exponent :
    insideCommand "x^2".toText 2 = false ∧
      parse (insertSpace 2 "x^2".toText) ≠ parse "x^2".toText := by
  refine ⟨by decide, ?_⟩
  have letter (s : Text) : parseOnto [] ('x' :: s) = parseOnto [.run "x".toText] s :=
    parseOnto_move (Move.character s (by decide) (by decide)) []
  have digit (acc : List Node) : parseOnto acc "2".toText = .run "2".toText :: acc := by
    have move : Move "2".toText (.run "2".toText) [] := Move.character _ (by decide) (by decide)
    rw [parseOnto_move move, parseOnto_nil, Item.onto]
  have script : Move (ScriptKind.superscript.operator :: "2".toText)
      (.script .superscript "2".toText) [] :=
    Move.script _ (Cut.single _ (by decide) (by decide))
  have spaced : parse (insertSpace 2 "x^2".toText) =
      [.scripted [.run "x".toText] .superscript [], .run "2".toText] := by
    change (parseOnto [] ('x' :: ScriptKind.superscript.operator :: ' ' :: "2".toText)).reverse = _
    rw [letter, parseOnto_operator_space, digit]
    rfl
  have plain : parse "x^2".toText =
      [.scripted [.run "x".toText] .superscript [.run "2".toText]] := by
    change (parseOnto [] ('x' :: ScriptKind.superscript.operator :: "2".toText)).reverse = _
    rw [letter, parseOnto_move script, parseOnto_nil, Item.onto, parse, digit]
    rfl
  simp [spaced, plain]

end ExamPress.Math
