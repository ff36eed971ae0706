import ExamPress.Proofs.Math.Shape

/-! # Printing formulas

The canonical source of well-formed nodes: every operand stands in braces, and a space ends every
command. Reading it gives the nodes back (`parse_printAll`). -/

namespace ExamPress.Math

mutual

/-- The canonical source of a node. -/
def Node.print : Node → Text
  | .run text => if text.head? = some (.char '\\') then text ++ " ".toText else text
  | .fraction numerator denominator =>
    '\\' :: (fractionName ++ braced (printAll numerator) (braced (printAll denominator) []))
  | .root radicand _ => '\\' :: (rootName ++ braced (printAll radicand) [])
  | .scripted base kind script =>
    printAll base ++ (kind.operator :: braced (printAll script) [] : Text)
  | .foreign _ => []

/-- The canonical source of a sequence of nodes. -/
def printAll : List Node → Text
  | [] => []
  | node :: nodes => node.print ++ printAll nodes

end

theorem printAll_singleton (node : Node) : printAll [node] = node.print := by
  simp [printAll]

/-! ### Braces of a canonical source -/

theorem RunText.wellNested_print {text : Text} (h : RunText text) :
    WellNested (Node.run text).print := by
  rcases h.cases with ⟨c, rfl, hm, hb⟩ | ⟨name, rfl, hn, -, -⟩
  · have hp : (Node.run [c]).print = [c] := by simp [Node.print, hb]
    simp only [marks, List.mem_cons, List.not_mem_nil, or_false, not_or] at hm
    rw [hp]
    exact WellNested.of_plain (by simp [hm])
  · have hp : (Node.run ('\\' :: name)).print = ('\\' :: (name ++ " ".toText) : Text) := by
      simp [Node.print]
    rw [hp]
    exact wellNested_command hn (WellNested.of_plain (by decide))

mutual

theorem wellNested_print : ∀ (node : Node) {place : Place}, node.WellFormed place →
    WellNested node.print
  | .run text, _, h => by
    rcases h with h | ⟨rfl, -⟩
    · exact h.wellNested_print
    · exact WellNested.nil
  | .fraction numerator denominator, _, h =>
    wellNested_command (letters_of_mem_structuralNames (by decide))
      ((wellNested_printAll numerator h.1).braced
        ((wellNested_printAll denominator h.2).braced WellNested.nil))
  | .root radicand _, _, h =>
    wellNested_command (letters_of_mem_structuralNames (by decide))
      ((wellNested_printAll radicand h.1).braced WellNested.nil)
  | .scripted [base] kind script, _, h => by
    have hk : WellNested [(kind.operator : CodePoint)] := by
      refine WellNested.of_plain ?_
      cases kind <;> decide
    have := (wellNested_printAll script h.2).braced WellNested.nil
    rw [Node.print, printAll_singleton]
    exact (wellNested_print base h.1).append (hk.append this)

theorem wellNested_printAll : ∀ (nodes : List Node) {place : Place},
    SequenceWellFormed place nodes → WellNested (printAll nodes)
  | [], _, _ => WellNested.nil
  | node :: nodes, _, h => (wellNested_print node h.1).append (wellNested_printAll nodes h.2)

end

/-! ### Reading a canonical source -/

theorem RunText.parseOnto_print {text : Text} (h : RunText text) (acc : List Node) (rest : Text) :
    parseOnto acc ((Node.run text).print ++ rest) = parseOnto (.run text :: acc) rest := by
  rcases h.cases with ⟨c, rfl, hm, hb⟩ | ⟨name, rfl, hn, hs, hsym⟩
  · have hp : (Node.run [c]).print ++ rest = c :: rest := by simp [Node.print, hb]
    rw [hp, parseOnto_move (Move.character rest hm hb)]
    rfl
  · have hp : (Node.run ('\\' :: name)).print ++ rest =
        ('\\' :: (name ++ (' ' :: rest : Text)) : Text) := by
      simp [Node.print, String.toText]
    have hr : EndsName (' ' :: rest) := fun c hc => by cases hc; decide
    have ht : commandText name = ('\\' :: name : Text) := by simp [commandText, hs]
    rw [hp, parseOnto_move (Move.command hn hr hsym), parseOnto_move (Move.skip rest (by decide)),
      ht]
    rfl

theorem parse_of_parseOnto {s : Text} {nodes : List Node}
    (h : parseOnto [] (s ++ []) = parseOnto (nodes.reverse ++ []) []) : parse s = nodes := by
  rw [List.append_nil, List.append_nil, parseOnto_nil] at h
  rw [parse, h, List.reverse_reverse]

mutual

/-- The canonical source of a node that is no empty run gives the node. What stands first in a
sequence, or is a base there, has nothing in front of it. -/
theorem parseOnto_print : ∀ (node : Node) {place : Place} {acc : List Node} (rest : Text),
    node.WellFormed place → (place = .other ∨ acc = []) → (∀ text, node = .run text → text ≠ []) →
    parseOnto acc (node.print ++ rest) = parseOnto (node :: acc) rest
  | .run text, _, acc, rest, h, _, hne => by
    rcases h with h | ⟨rfl, -⟩
    · exact h.parseOnto_print acc rest
    · exact absurd rfl (hne _ rfl)
  | .fraction numerator denominator, _, acc, rest, h, _, _ => by
    have hp : (Node.fraction numerator denominator).print ++ rest = ('\\' :: (fractionName ++
        braced (printAll numerator) (braced (printAll denominator) rest)) : Text) := by
      simp [Node.print, braced_append]
    have hn : parse (printAll numerator) = numerator :=
      parse_of_parseOnto (parseOnto_printAll numerator [] h.1 (by decide) (Or.inr rfl))
    have hd : parse (printAll denominator) = denominator :=
      parse_of_parseOnto (parseOnto_printAll denominator [] h.2 (by decide) (Or.inr rfl))
    have move := Move.fraction (Cut.group _ (wellNested_printAll numerator h.1))
      (Cut.group rest (wellNested_printAll denominator h.2))
    rw [hp, parseOnto_move move, Item.onto, hn, hd]
  | .root radicand degree, _, acc, rest, h, _, _ => by
    obtain ⟨h, hd⟩ := h
    obtain rfl := List.isEmpty_iff.mp hd
    have hp : (Node.root radicand []).print ++ rest =
        ('\\' :: (rootName ++ braced (printAll radicand) rest) : Text) := by
      simp [Node.print, braced_append]
    have hr : parse (printAll radicand) = radicand :=
      parse_of_parseOnto (parseOnto_printAll radicand [] h (by decide) (Or.inr rfl))
    have move := Move.root (Cut.group rest (wellNested_printAll radicand h))
    rw [hp, parseOnto_move move, Item.onto, hr]
  | .scripted [base] kind script, place, acc, rest, h, hacc, _ => by
    obtain ⟨hb, hs⟩ := h
    have hp : (Node.scripted [base] kind script).print ++ rest =
        base.print ++ (kind.operator :: braced (printAll script) rest : Text) := by
      simp [Node.print, printAll_singleton, braced_append]
    have hs' : parse (printAll script) = script :=
      parse_of_parseOnto (parseOnto_printAll script [] hs (by decide) (Or.inr rfl))
    have move := Move.script kind (Cut.group rest (wellNested_printAll script hs))
    by_cases he : base = .run []
    · -- the empty base leaves no trace, and nothing else stands in front of the operator
      subst he
      have hacc : acc = [] := hacc.resolve_left fun ho => by
        subst ho
        rcases hb with hb | ⟨-, hb⟩
        · exact hb.ne_nil rfl
        · cases hb
      have hpe : (Node.run []).print = [] := rfl
      rw [hp, hpe, List.nil_append, parseOnto_move move, Item.onto, hacc, hs']
      rfl
    · have hacc : place.base = .other ∨ acc = [] := hacc.imp_left fun ho => by rw [ho]; rfl
      have hne (text : Text) (ht : base = .run text) : text ≠ [] := fun hn => he (by rw [ht, hn])
      rw [hp, parseOnto_print base _ hb hacc hne, parseOnto_move move, Item.onto, hs']
      rfl

theorem parseOnto_printAll : ∀ (nodes : List Node) {place : Place} {acc : List Node} (rest : Text),
    SequenceWellFormed place nodes → place ≠ .firstBase → (place = .other ∨ acc = []) →
    parseOnto acc (printAll nodes ++ rest) = parseOnto (nodes.reverse ++ acc) rest
  | [], _, _, _, _, _, _ => rfl
  | node :: nodes, _, acc, rest, ⟨h, hs⟩, hp, hacc => by
    have hne (text : Text) (ht : node = .run text) : text ≠ [] := by
      subst ht
      rcases h with h | ⟨-, h⟩
      · exact h.ne_nil
      · exact absurd h hp
    rw [printAll, List.append_assoc, parseOnto_print node _ h hacc hne,
      parseOnto_printAll nodes rest hs (by decide) (Or.inl rfl), List.reverse_cons,
      List.append_assoc, List.singleton_append]

end

/-- **Reading a canonical source**: printing well-formed nodes and reading them again gives them
back. -/
theorem parse_printAll {nodes : List Node} (h : WellFormed nodes) :
    parse (printAll nodes) = nodes :=
  parse_of_parseOnto (parseOnto_printAll nodes [] h (by decide) (Or.inr rfl))

/-- The nodes of `^{a}_{\frac{\foo b}{\sqrt{\ }}}α`: a script with nothing in front of it, below
another one, and a command and a lone backslash inside. -/
def nestedScripts : List Node :=
  [.scripted [.scripted [.run []] .superscript [.run "a".toText]] .subscript
    [.fraction [.run "\\foo".toText, .run "b".toText] [.root [.run "\\".toText] []]],
    .run "α".toText]

theorem parse_printAll_nestedScripts :
    WellFormed nestedScripts ∧ parse (printAll nestedScripts) = nestedScripts :=
  ⟨by decide, parse_printAll (by decide)⟩

end ExamPress.Math
