import ExamPress.Proofs.Math.Steps

/-! # Cutting the source of a formula

The reader of a source stands at its front, and behind each item that it has read (`stops`). If the
source is cut at such a place, the two parts can be read by themselves: the nodes of the source are
those of the first part and then those of the second. Only the operator of a script that the second
part begins with takes one node of the first part, the last one (`parse_at_stop`). -/

namespace ExamPress.Math

/-! ### Parts of a source -/

/-- `EndsAlike r r'`: a name, a group and a missing operand that end in front of `r` end in front of
`r'` as well. -/
structure EndsAlike (r r' : Text) : Prop where
  name : EndsName r → EndsName r'
  depths : ∀ p', p' <+: r' → ∃ p, p <+: r ∧ depth p ≤ depth p'
  missing : r = [] → r' = []

namespace EndsAlike

theorem of_prefix {r r' : Text} (hp : r' <+: r) : EndsAlike r r' where
  name h := by
    obtain ⟨more, rfl⟩ := hp
    rcases r' with _ | ⟨c, r'⟩
    · exact fun c hc => by cases hc
    · exact h
  depths p' hp' := ⟨p', hp'.trans hp, le_rfl⟩
  missing hr := List.prefix_nil.mp (hr ▸ hp)

theorem append {r r' : Text} (h : EndsAlike r r') (a : Text) : EndsAlike (a ++ r) (a ++ r') where
  name ha := by
    rcases a with _ | ⟨c, a⟩
    · exact h.name ha
    · exact ha
  depths p' hp' := by
    rcases Text.prefix_append_cases hp' with hp | ⟨q', hq', rfl⟩
    · exact ⟨p', hp.trans (List.prefix_append a r), le_rfl⟩
    · obtain ⟨q, hq, hd⟩ := h.depths q' hq'
      refine ⟨a ++ q, (List.prefix_append_right_inj a).mpr hq, ?_⟩
      rw [depth_append, depth_append]
      omega
  missing ha := by
    obtain ⟨rfl, hr⟩ := List.append_eq_nil_iff.mp ha
    exact h.missing hr

/-- No brace closes a group in front of `r'` that is not closed in front of `r`. -/
theorem unclosed {r r' : Text} (h : EndsAlike r r')
    (open' : ∀ t u : Text, WellNested t → r ≠ t ++ ('}' :: u : Text)) :
    ∀ t u : Text, WellNested t → r' ≠ t ++ ('}' :: u : Text) := by
  rw [forall_ne_closing_iff] at open' ⊢
  intro p' hp'
  obtain ⟨p, hp, hd⟩ := h.depths p' hp'
  exact (open' p hp).trans hd

end EndsAlike

/-- **An operand ends by itself**: it is the same if something else stands behind it that ends it
alike. -/
theorem Cut.exists_front {s t r : Text} (h : Cut s t r) :
    ∃ a : Text, s = a ++ r ∧ ∀ r', EndsAlike r r' → Cut (a ++ r') t r' := by
  cases h with
  | missing =>
    refine ⟨[], rfl, fun r' alike => ?_⟩
    rw [alike.missing rfl]
    exact Cut.missing
  | group r ht =>
    refine ⟨braced t [], by rw [braced_append, List.nil_append], fun r' _ => ?_⟩
    rw [braced_append, List.nil_append]
    exact Cut.group r' ht
  | unclosed open' => exact ⟨['{'], rfl, fun r' alike => Cut.unclosed (alike.unclosed open')⟩
  | @command name _ hn hr =>
    exact ⟨'\\' :: name, rfl, fun r' alike => Cut.command hn (alike.name hr)⟩
  | @single c _ ho hb => exact ⟨[c], rfl, fun r' _ => Cut.single r' ho hb⟩

/-- **An item ends by itself**: it is the same if something else stands behind it that ends it
alike. -/
theorem Move.exists_front {s r : Text} {item : Item} (h : Move s item r) :
    ∃ a : Text, s = a ++ r ∧ ∀ r', EndsAlike r r' → Move (a ++ r') item r' := by
  cases h with
  | @skip c _ h => exact ⟨[c], rfl, fun r' _ => Move.skip r' h⟩
  | @character c _ hm hb => exact ⟨[c], rfl, fun r' _ => Move.character r' hm hb⟩
  | @command name _ hn hr hsym =>
    exact ⟨'\\' :: name, rfl, fun r' alike => Move.command hn (alike.name hr) hsym⟩
  | fraction hn hd =>
    obtain ⟨b, rfl, denominator⟩ := hd.exists_front
    obtain ⟨a, rfl, numerator⟩ := hn.exists_front
    refine ⟨'\\' :: (fractionName ++ (a ++ b)), by simp, fun r' alike => ?_⟩
    simpa using Move.fraction (numerator (b ++ r') (alike.append b)) (denominator r' alike)
  | root ht =>
    obtain ⟨a, rfl, radicand⟩ := ht.exists_front
    refine ⟨'\\' :: (rootName ++ a), by simp, fun r' alike => ?_⟩
    simpa using Move.root (radicand r' alike)
  | script kind ht =>
    obtain ⟨a, rfl, script⟩ := ht.exists_front
    exact ⟨kind.operator :: a, rfl, fun r' alike => Move.script kind (script r' alike)⟩

/-! ### Stops -/

/-- The places at which the reader of a source stands, counted from its front. -/
def stops (s : Text) : List Nat :=
  match s with
  | [] => [0]
  | c :: s =>
    let rest := (nextStep c s).rest
    0 :: (stops rest).map (· + ((c :: s).length - rest.length))
termination_by s.length
decreasing_by
  have := length_rest_le c s
  rw [List.length_cons]
  omega

@[simp] theorem stops_nil : stops [] = [0] := by rw [stops]

theorem stops_move {a r : Text} {item : Item} (h : Move (a ++ r) item r) :
    stops (a ++ r) = 0 :: (stops r).map (· + a.length) := by
  have length : (a ++ r).length - r.length = a.length := by
    rw [List.length_append, Nat.add_sub_cancel]
  rcases hs : a ++ r with _ | ⟨c, s⟩
  · rw [hs] at h
    cases h
  · rw [hs] at h length
    rw [stops, h.nextStep_eq]
    simp only [length]

theorem zero_mem_stops (s : Text) : 0 ∈ stops s := by
  rcases s with _ | ⟨c, s⟩ <;> simp [stops]

theorem length_mem_stops (s : Text) : s.length ∈ stops s := by
  induction s using reading_induction with
  | nil => simp
  | move s item r move operands rest =>
    obtain ⟨a, rfl, -⟩ := move.exists_front
    rw [stops_move move, List.length_append, Nat.add_comm]
    exact List.mem_cons_of_mem _ (List.mem_map_of_mem rest)

/-- A stop stays a stop if something else stands behind it that ends alike what is in front. -/
theorem mem_stops_of_endsAlike {a r r' : Text} (h : a.length ∈ stops (a ++ r))
    (alike : EndsAlike r r') : a.length ∈ stops (a ++ r') := by
  generalize hs : a ++ r = s at h
  induction s using reading_induction generalizing a with
  | nil =>
    obtain ⟨rfl, -⟩ := List.append_eq_nil_iff.mp hs
    exact zero_mem_stops _
  | move s item rest move operands ih =>
    obtain ⟨b, rfl, front⟩ := move.exists_front
    rw [stops_move move] at h
    rcases List.mem_cons.mp h with h | h
    · obtain rfl := List.length_eq_zero_iff.mp h
      exact zero_mem_stops _
    obtain ⟨j, hj, hlength⟩ := List.mem_map.mp h
    -- the stop is behind the first item, so the item is a part of `a`
    have hb : b <+: a := List.prefix_of_prefix_length_le (List.prefix_append b rest)
      (hs ▸ List.prefix_append a r) (by omega)
    obtain ⟨a, rfl⟩ := hb
    rw [List.append_assoc, List.append_cancel_left_eq] at hs
    obtain rfl : j = a.length := by
      rw [List.length_append] at hlength
      omega
    have behind : EndsAlike rest (a ++ r') := hs ▸ alike.append a
    rw [List.append_assoc, stops_move (front _ behind), List.length_append, Nat.add_comm]
    exact List.mem_cons_of_mem _ (List.mem_map_of_mem (ih hs hj))

/-- **Reading in two parts**: at a stop the reader has read the nodes of the part in front of it,
and goes on with the part behind it. -/
theorem parseOnto_take_drop {s : Text} {i : Nat} (h : i ∈ stops s) (acc : List Node) :
    parseOnto acc s = parseOnto (parseOnto acc (s.take i)) (s.drop i) := by
  induction s using reading_induction generalizing i acc with
  | nil => simp
  | move s item r move operands rest =>
    obtain ⟨a, rfl, front⟩ := move.exists_front
    rw [stops_move move] at h
    rcases List.mem_cons.mp h with rfl | h
    · simp
    obtain ⟨j, hj, rfl⟩ := List.mem_map.mp h
    have htake : (a ++ r).take (j + a.length) = a ++ r.take j := by
      rw [Nat.add_comm, List.take_length_add_append]
    have hdrop : (a ++ r).drop (j + a.length) = r.drop j := by
      rw [Nat.add_comm, List.drop_length_add_append]
    have part := front (r.take j) (EndsAlike.of_prefix (List.take_prefix j r))
    rw [htake, hdrop, parseOnto_move move, parseOnto_move part, rest hj]

/-! ### Reading after other nodes -/

/-- With a node in front of it, a source takes no other node that was read before. -/
theorem parseOnto_append {nodes : List Node} (h : nodes ≠ []) (s : Text) (acc : List Node) :
    parseOnto (nodes ++ acc) s = parseOnto nodes s ++ acc := by
  induction s using reading_induction generalizing nodes with
  | nil => simp
  | move s item r move operands rest =>
    obtain ⟨last, nodes, rfl⟩ := List.exists_cons_of_ne_nil h
    have onto : item.onto (last :: nodes ++ acc) = item.onto (last :: nodes) ++ acc := by
      cases item <;> rfl
    have some : item.onto (last :: nodes) ≠ [] := by cases item <;> simp [Item.onto]
    rw [parseOnto_move move, parseOnto_move move, onto, rest some]

mutual

/-- A node with another one for the empty run at the end of its bases. -/
def Node.withBase : Node → Node → Node
  | .run text, last => if text.isEmpty then last else .run text
  | .scripted base kind script, last => .scripted (withBase base last) kind script
  | node, _ => node

/-- A sequence of nodes with another node for the empty run at the end of the first bases. -/
def withBase : List Node → Node → List Node
  | [], _ => []
  | node :: nodes, last => node.withBase last :: nodes

end

/-- What is read behind a node takes no part of it: with another base in the first node, the same
nodes are read, the first one with the other base. -/
theorem parseOnto_withBase (first last : Node) (nodes : List Node) (s : Text) :
    (parseOnto (nodes ++ [first.withBase last]) s).reverse =
      withBase (parseOnto (nodes ++ [first]) s).reverse last := by
  induction s using reading_induction generalizing first nodes with
  | nil => simp [withBase]
  | move s item r move operands rest =>
    rw [parseOnto_move move, parseOnto_move move]
    cases item with
    | nothing => exact rest first nodes
    | run text => exact rest first (.run text :: nodes)
    | fraction numerator denominator =>
      exact rest first (.fraction (parse numerator) (parse denominator) :: nodes)
    | root radicand => exact rest first (.root (parse radicand) [] :: nodes)
    | script kind source =>
      rcases nodes with _ | ⟨before, nodes⟩
      · exact rest (.scripted [first] kind (parse source)) []
      · exact rest first (.scripted [before] kind (parse source) :: nodes)

/-! ### Scripts at the front -/

/-- A character that shows nothing and has no operand. -/
def isPassedOver (c : CodePoint) : Bool := c ∈ ([' ', '{', '}'] : List CodePoint)

/-- The operator of a script. -/
def isOperator (c : CodePoint) : Bool := c ∈ ([.char '^', .char '_'] : List CodePoint)

/-- Whether, behind spaces and braces, the operator of a script stands at the front of a source. -/
def beginsWithScript (s : Text) : Bool := (s.dropWhile isPassedOver).head?.any isOperator

theorem beginsWithScript_skip {c : CodePoint} (s : Text) (h : c = ' ' ∨ c = '{' ∨ c = '}') :
    beginsWithScript (c :: s) = beginsWithScript s := by
  have hc : isPassedOver c = true := by simpa [isPassedOver] using h
  rw [beginsWithScript, List.dropWhile_cons_of_pos hc, beginsWithScript]

theorem beginsWithScript_operator (kind : ScriptKind) (s : Text) :
    beginsWithScript (kind.operator :: s) = true := by
  cases kind <;> rfl

theorem beginsWithScript_of_not_mark {c : CodePoint} (s : Text) (h : c ∉ marks) :
    beginsWithScript (c :: s) = false := by
  simp only [marks, List.mem_cons, List.not_mem_nil, or_false, not_or] at h
  have hc : isPassedOver c = false := by simp [isPassedOver, h]
  rw [beginsWithScript, List.dropWhile_cons_of_neg (by simp [hc])]
  simp [isOperator, h]

theorem parseOnto_of_no_script {s : Text} (h : beginsWithScript s = false) (acc : List Node) :
    parseOnto acc s = parseOnto [] s ++ acc := by
  induction s using reading_induction with
  | nil => simp
  | move s item r move operands rest =>
    rw [parseOnto_move move, parseOnto_move move]
    -- every item but a skipped one and a script puts a node of its own in front
    cases move with
    | skip _ hc => exact rest ((beginsWithScript_skip r hc).symm.trans h)
    | character _ _ _ => exact parseOnto_append (List.cons_ne_nil _ []) r acc
    | command _ _ _ => exact parseOnto_append (List.cons_ne_nil _ []) r acc
    | fraction _ _ => exact parseOnto_append (List.cons_ne_nil _ []) r acc
    | root _ => exact parseOnto_append (List.cons_ne_nil _ []) r acc
    | script kind _ =>
      rw [beginsWithScript_operator] at h
      cases h

theorem parseOnto_of_script {s : Text} (h : beginsWithScript s = true) (acc : List Node) :
    (parseOnto acc s).reverse =
      acc.tail.reverse ++ withBase (parse s) (acc.headD (.run [])) := by
  induction s using reading_induction with
  | nil => cases h
  | move s item r move operands rest =>
    have shown {c : CodePoint} {t : Text} (hs : s = c :: t) (hm : c ∉ marks) : False := by
      rw [hs, beginsWithScript_of_not_mark t hm] at h
      cases h
    rw [parseOnto_move move, parse, parseOnto_move move]
    cases move with
    | skip _ hc => exact rest ((beginsWithScript_skip r hc).symm.trans h)
    | character _ hm _ => exact (shown rfl hm).elim
    | command _ _ _ => exact (shown rfl (by decide)).elim
    | fraction _ _ => exact (shown rfl (by decide)).elim
    | root _ => exact (shown rfl (by decide)).elim
    | @script _ source _ kind _ =>
      have base := parseOnto_withBase (.scripted [.run []] kind (parse source))
        (acc.headD (.run [])) [] r
      have keep := parseOnto_append (List.cons_ne_nil
        (Node.scripted [acc.headD (.run [])] kind (parse source)) []) r acc.tail
      calc (parseOnto (.scripted [acc.headD (.run [])] kind (parse source) :: acc.tail) r).reverse
          = acc.tail.reverse ++
              (parseOnto [.scripted [acc.headD (.run [])] kind (parse source)] r).reverse := by
            rw [← List.reverse_append, ← keep]
            rfl
        _ = _ := congrArg (acc.tail.reverse ++ ·) base

/-! ### Cutting at a stop -/

/-- **Cutting at a stop**: a source is read part by part, unless the second part begins with a
script. Then the last node of the first part is the base of the script, and all others stay. -/
theorem parse_at_stop {s : Text} {i : Nat} (h : i ∈ stops s) :
    (beginsWithScript (s.drop i) = false → parse s = parse (s.take i) ++ parse (s.drop i)) ∧
      (beginsWithScript (s.drop i) = true →
        parse s = (parse (s.take i)).dropLast ++
          withBase (parse (s.drop i)) ((parse (s.take i)).getLastD (.run []))) := by
  have parts : parse s = (parseOnto (parseOnto [] (s.take i)) (s.drop i)).reverse := by
    rw [parse, parseOnto_take_drop h]
  constructor
  · intro hs
    rw [parts, parseOnto_of_no_script hs, List.reverse_append, parse, parse]
  · intro hs
    rw [parts, parseOnto_of_script hs]
    simp [parse]

/-- A fraction, and a group that begins with two scripts. -/
def scriptedFraction : Text := "\\frac{a}b{_2^{y}c}".toText

/-- Inside the group the source is cut in two; in front of it the scripts take the fraction. -/
theorem parse_at_stop_scriptedFraction :
    (16 ∈ stops scriptedFraction ∧
      parse scriptedFraction =
        parse (scriptedFraction.take 16) ++ parse (scriptedFraction.drop 16)) ∧
    (9 ∈ stops scriptedFraction ∧
      parse scriptedFraction =
        withBase (parse "{_2^{y}c}".toText) (.fraction [.run "a".toText] [.run "b".toText])) := by
  have hs : stops scriptedFraction = [0, 9, 10, 12, 16, 17, 18] := by cbv
  have h16 : 16 ∈ stops scriptedFraction := by simp [hs]
  have h9 : 9 ∈ stops scriptedFraction := by simp [hs]
  have front : parse (scriptedFraction.take 9) =
      [.fraction [.run "a".toText] [.run "b".toText]] := by cbv
  refine ⟨⟨h16, (parse_at_stop h16).1 (by decide)⟩, h9, ?_⟩
  have cut := (parse_at_stop h9).2 (by decide)
  rw [front] at cut
  exact cut

end ExamPress.Math
