import ExamPress.Proofs.Math.Texts
import ExamPress.Proofs.Text.Numbers
import ExamPress.Xml

/-! # Formulas of legal characters

XML lacks some characters. Reading a source gives nodes with legal characters exactly if all
characters of the source are legal: the nodes show all characters of the source but signs of the
notation, and these are legal (`allLegal_parse`). -/

namespace ExamPress

/-- The characters of XML. Surrogates are none. -/
def Xml.isLegal (c : CodePoint) : Bool := isXmlChar c && !c.isSurrogate

/-- The numbers of the characters that XML lacks: controls, and the last two of the first plane. -/
def Xml.lackingRanges : List (Nat × Nat) :=
  [(0x00, 0x08), (0x0b, 0x0c), (0x0e, 0x1f), (0xfffe, 0xffff)]

/-- A character that XML lacks. -/
def Xml.Lacks (c : CodePoint) : Prop :=
  ∃ range ∈ lackingRanges, range.1 ≤ c.toNat ∧ c.toNat ≤ range.2

instance : DecidablePred Xml.Lacks := fun _ => inferInstanceAs (Decidable (∃ _ ∈ _, _))

theorem Xml.lacks_iff {c : CodePoint} :
    Lacks c ↔ c.toNat ≤ 0x08 ∨ (0x0b ≤ c.toNat ∧ c.toNat ≤ 0x0c) ∨
      (0x0e ≤ c.toNat ∧ c.toNat ≤ 0x1f) ∨ (0xfffe ≤ c.toNat ∧ c.toNat ≤ 0xffff) := by
  simp [Lacks, lackingRanges]

theorem Xml.isLegal_iff {c : CodePoint} :
    isLegal c = true ↔ ¬ Lacks c ∧ c.isSurrogate = false := by
  have hl : isXmlChar c = true ↔ ¬ Lacks c := by
    rw [lacks_iff]
    simp only [isXmlChar, Bool.not_eq_true', Bool.or_eq_false_iff, Bool.and_eq_false_iff,
      decide_eq_false_iff_not, beq_eq_false_iff_ne]
    omega
  rw [isLegal, Bool.and_eq_true, hl, Bool.not_eq_true']

/-- Whether all characters of a text are characters of XML. -/
def Text.IsLegal (s : Text) : Prop := ∀ c ∈ s, Xml.isLegal c = true

instance : DecidablePred Text.IsLegal := fun _ => inferInstanceAs (Decidable (∀ _ ∈ _, _))

namespace Math

mutual

/-- No foreign value and no illegal character is in a node. -/
def Node.IsLegal : Node → Prop
  | .run text => text.IsLegal
  | .fraction numerator denominator => AllLegal numerator ∧ AllLegal denominator
  | .root radicand degree => AllLegal radicand ∧ AllLegal degree
  | .scripted base _ script => AllLegal base ∧ AllLegal script
  | .foreign _ => False

/-- No foreign value and no illegal character is in a sequence of nodes. -/
def AllLegal : List Node → Prop
  | [] => True
  | node :: nodes => node.IsLegal ∧ AllLegal nodes

end

theorem isLegal_append {a b : Text} : Text.IsLegal (a ++ b) ↔ a.IsLegal ∧ b.IsLegal :=
  List.forall_mem_append

mutual

theorem isLegal_iff : ∀ (node : Node) {place : Place}, node.WellFormed place →
    (node.IsLegal ↔ Text.IsLegal node.texts.flatten)
  | .run text, _, _ => by
    rw [Node.IsLegal, Node.texts, List.flatten_singleton]
  | .fraction numerator denominator, _, h => by
    rw [Node.IsLegal, allLegal_iff numerator h.1, allLegal_iff denominator h.2, Node.texts,
      List.flatten_append, isLegal_append, shown, shown]
  | .root radicand degree, _, h => by
    obtain rfl := List.isEmpty_iff.mp h.2
    have hr := allLegal_iff radicand h.1
    rw [Node.IsLegal, hr, Node.texts, textsOf, List.nil_append, shown]
    exact and_iff_left trivial
  | .scripted [base] kind script, _, h => by
    have hb := isLegal_iff base h.1
    rw [Node.IsLegal, AllLegal, hb, allLegal_iff script h.2, Node.texts, textsOf, textsOf,
      List.append_nil, List.flatten_append, isLegal_append, shown]
    exact and_congr_left' (and_iff_left trivial)

theorem allLegal_iff : ∀ (nodes : List Node) {place : Place}, SequenceWellFormed place nodes →
    (AllLegal nodes ↔ (shown nodes).IsLegal)
  | [], _, _ => by simp [AllLegal, Text.IsLegal]
  | node :: nodes, _, h => by
    rw [AllLegal, isLegal_iff node h.1, allLegal_iff nodes h.2, shown, shown, textsOf,
      List.flatten_append, isLegal_append]

end

theorem isLegal_of_isAlpha {c : CodePoint} (h : c.isAlpha = true) : Xml.isLegal c = true := by
  obtain ⟨lower, upper, hs⟩ := CodePoint.bounds_of_isAlpha h
  refine Xml.isLegal_iff.mpr ⟨fun hl => ?_, hs⟩
  have := Xml.lacks_iff.mp hl
  omega

theorem hasSigns_isLegal : HasSigns fun c => Xml.isLegal c = true where
  marks := by decide
  letters _ := isLegal_of_isAlpha
  symbols := by decide
  backslash := by decide

/-- **Reading** gives legal nodes exactly if the characters of the source are legal. -/
theorem allLegal_parse {s : Text} : AllLegal (parse s) ↔ s.IsLegal := by
  have h : WellFormed (parse s) := wellFormed_parseOnto s (by trivial)
  exact (allLegal_iff _ h).trans (forall_shown_parse hasSigns_isLegal s)

end Math

end ExamPress
