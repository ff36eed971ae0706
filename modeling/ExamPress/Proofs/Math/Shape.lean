import ExamPress.Proofs.Math.Steps

/-! # The shape of the nodes of a formula

The nodes that are read from a source, at every depth: a run shows one character that is no mark, or
a command that has no meaning; a root has no degree; a base is one node. Only a script in front of
which nothing stands has an empty run for a base (`wellFormed_parse`). -/

namespace ExamPress.Math

/-! ### Well-formed sequences -/

/-- The text of a run that is not empty: one character that is no mark, or a command that is neither
a symbol nor begins with the name of a construct. -/
def RunText : Text → Prop
  | [] => False
  | [c] => c ∉ marks
  | c :: name =>
    c = '\\' ∧ Letters name ∧ symbol? name = none ∧ ∀ start ∈ structuralNames, ¬ start <+: name

instance (text : Text) : Decidable (RunText text) :=
  match text with
  | [] => inferInstanceAs (Decidable False)
  | [c] => inferInstanceAs (Decidable (c ∉ marks))
  | c :: d :: name =>
    inferInstanceAs (Decidable (c = '\\' ∧ Letters (d :: name) ∧ symbol? (d :: name) = none ∧
      ∀ start ∈ structuralNames, ¬ start <+: d :: name))

/-- Where a node stands: first in a sequence that is no base, as a base below such a node through
bases only, or anywhere else. -/
inductive Place where
  | first
  | firstBase
  | other
deriving DecidableEq, Repr

/-- The place of the base of a node. -/
def Place.base : Place → Place
  | first => firstBase
  | firstBase => firstBase
  | other => other

mutual

/-- The shape of a node at a place. -/
def Node.WellFormed (place : Place) : Node → Prop
  | .run text => RunText text ∨ (text = [] ∧ place = .firstBase)
  | .fraction numerator denominator =>
    SequenceWellFormed .first numerator ∧ SequenceWellFormed .first denominator
  | .root radicand degree => SequenceWellFormed .first radicand ∧ degree.isEmpty
  | .scripted base _ script => BaseWellFormed place.base base ∧ SequenceWellFormed .first script
  | .foreign _ => False

/-- The shape of a base: it is one node. -/
def BaseWellFormed (place : Place) : List Node → Prop
  | [node] => node.WellFormed place
  | _ => False

/-- The shape of a sequence whose first node has a place. -/
def SequenceWellFormed (place : Place) : List Node → Prop
  | [] => True
  | node :: nodes => node.WellFormed place ∧ SequenceWellFormed .other nodes

end

/-- **Well-formed sequences of nodes**: formulas and operands. -/
def WellFormed (nodes : List Node) : Prop := SequenceWellFormed .first nodes

mutual

/-- The shape of a node can be decided. -/
def Node.decideWellFormed (place : Place) : (node : Node) → Decidable (node.WellFormed place)
  | .run text => inferInstanceAs (Decidable (RunText text ∨ (text = [] ∧ place = .firstBase)))
  | .fraction numerator denominator =>
    have := decideSequenceWellFormed .first numerator
    have := decideSequenceWellFormed .first denominator
    inferInstanceAs (Decidable (_ ∧ _))
  | .root radicand degree =>
    have := decideSequenceWellFormed .first radicand
    inferInstanceAs (Decidable (_ ∧ degree.isEmpty))
  | .scripted base _ script =>
    have := decideBaseWellFormed place.base base
    have := decideSequenceWellFormed .first script
    inferInstanceAs (Decidable (_ ∧ _))
  | .foreign _ => inferInstanceAs (Decidable False)

/-- The shape of a base can be decided. -/
def decideBaseWellFormed (place : Place) :
    (base : List Node) → Decidable (BaseWellFormed place base)
  | [] => inferInstanceAs (Decidable False)
  | [node] => node.decideWellFormed place
  | _ :: _ :: _ => inferInstanceAs (Decidable False)

/-- The shape of a sequence can be decided. -/
def decideSequenceWellFormed (place : Place) :
    (nodes : List Node) → Decidable (SequenceWellFormed place nodes)
  | [] => inferInstanceAs (Decidable True)
  | node :: nodes =>
    have := node.decideWellFormed place
    have := decideSequenceWellFormed .other nodes
    inferInstanceAs (Decidable (_ ∧ _))

end

instance (nodes : List Node) : Decidable (WellFormed nodes) := decideSequenceWellFormed .first nodes

/-! ### The texts of runs -/

theorem RunText.ne_nil {text : Text} (h : RunText text) : text ≠ [] := by
  rintro rfl
  exact h

theorem RunText.cases {text : Text} (h : RunText text) :
    (∃ c, text = [c] ∧ c ∉ marks ∧ c ≠ '\\') ∨
      ∃ name : Text, text = ('\\' :: name : Text) ∧ Letters name ∧ symbol? name = none ∧
        ∀ start ∈ structuralNames, ¬ start <+: name := by
  rcases text with _ | ⟨c, _ | ⟨d, name⟩⟩
  · cases h
  · by_cases hb : c = '\\'
    · exact Or.inr ⟨[], by rw [hb], by decide⟩
    · exact Or.inl ⟨c, rfl, h, hb⟩
  · obtain ⟨rfl, h⟩ := h
    exact Or.inr ⟨d :: name, rfl, h⟩

theorem runText_commandText {name : Text} (hn : Letters name)
    (hsym : ∀ start ∈ structuralNames, ¬ start <+: name) : RunText (commandText name) := by
  rcases commandText_cases name with ⟨entry, he, hc⟩ | ⟨hs, hc⟩
  · rw [hc]
    exact symbolTable_marks entry he
  rw [hc]
  rcases name with _ | ⟨c, name⟩
  · decide
  · exact ⟨rfl, hn, hs, hsym⟩

theorem Move.runText {s r text : Text} (h : Move s (.run text) r) : RunText text := by
  cases h with
  | character _ hm _ => exact hm
  | command hn _ hsym => exact runText_commandText hn hsym

/-! ### Reading -/

/-- A node that may stand first may also be the base of the first node. -/
theorem Node.WellFormed.base {node : Node} {place : Place} (h : node.WellFormed place) :
    node.WellFormed place.base := by
  cases node with
  | run text =>
    rcases h with h | ⟨h, rfl⟩
    · exact Or.inl h
    · exact Or.inr ⟨h, rfl⟩
  | fraction _ _ => exact h
  | root _ _ => exact h
  | scripted _ _ _ =>
    have : place.base.base = place.base := by cases place <;> rfl
    rw [Node.WellFormed, this]
    exact h
  | foreign _ => exact h

/-- The place of a node that is read after others. -/
def placeAfter (acc : List Node) : Place := if acc.isEmpty then .first else .other

theorem sequenceWellFormed_append (place : Place) (a b : List Node) :
    SequenceWellFormed place (a ++ b) ↔
      SequenceWellFormed place a ∧ SequenceWellFormed (if a.isEmpty then place else .other) b := by
  induction a generalizing place with
  | nil => simp [SequenceWellFormed]
  | cons node a ih =>
    simp only [List.cons_append, SequenceWellFormed, ih, ite_self, List.isEmpty_cons,
      Bool.false_eq_true, if_false, and_assoc]

theorem wellFormed_reverse_cons (node : Node) (acc : List Node) :
    WellFormed (node :: acc).reverse ↔
      WellFormed acc.reverse ∧ node.WellFormed (placeAfter acc) := by
  rw [List.reverse_cons, WellFormed, sequenceWellFormed_append]
  simp [WellFormed, SequenceWellFormed, placeAfter]

/-- **A move** keeps the shape, if the operands have it. -/
theorem Move.wellFormed_onto {s r : Text} {item : Item} (h : Move s item r) {acc : List Node}
    (operands : ∀ t ∈ item.operands, WellFormed (parse t)) (hacc : WellFormed acc.reverse) :
    WellFormed (item.onto acc).reverse := by
  cases item with
  | nothing => exact hacc
  | run text => exact (wellFormed_reverse_cons _ _).mpr ⟨hacc, Or.inl h.runText⟩
  | fraction numerator denominator =>
    have hn := operands numerator (by simp [Item.operands])
    have hd := operands denominator (by simp [Item.operands])
    exact (wellFormed_reverse_cons _ _).mpr ⟨hacc, hn, hd⟩
  | root radicand =>
    have hr := operands radicand (by simp [Item.operands])
    exact (wellFormed_reverse_cons _ _).mpr ⟨hacc, hr, rfl⟩
  | script kind source =>
    have hs := operands source (by simp [Item.operands])
    rcases acc with _ | ⟨last, acc⟩
    · -- nothing stands in front of the script: its base is empty, and it stands first itself
      exact (wellFormed_reverse_cons _ []).mpr ⟨hacc, Or.inr ⟨rfl, rfl⟩, hs⟩
    · obtain ⟨hacc, hlast⟩ := (wellFormed_reverse_cons _ _).mp hacc
      exact (wellFormed_reverse_cons _ acc).mpr ⟨hacc, hlast.base, hs⟩

theorem wellFormed_parseOnto (s : Text) {acc : List Node} (hacc : WellFormed acc.reverse) :
    WellFormed (parseOnto acc s).reverse := by
  induction s using reading_induction generalizing acc with
  | nil => rwa [parseOnto_nil]
  | move s item r h operands rest =>
    rw [parseOnto_move h]
    exact rest (h.wellFormed_onto (fun t ht => operands t ht (by trivial)) hacc)

/-- **The shape of formulas**: what is read from a source is well formed at every depth. -/
theorem wellFormed_parse (s : Text) : WellFormed (parse s) := wellFormed_parseOnto s (by trivial)

end ExamPress.Math
