import ExamPress.Proofs.Math.Shape

/-! # The texts of a formula

The runs of a formula show texts, in the order in which they stand in a document (`textsOf`). What
is read from a source shows no characters but those of the source, backslashes and symbols, and it
shows all characters of the source but spaces, braces, operators and the letters of commands. So a
class of characters that has all of these holds what is shown exactly if it holds the source
(`forall_shown_parse`). -/

namespace ExamPress.Math

mutual

/-- The texts of the runs of a node in reading order. A degree stands before the radicand. -/
def Node.texts : Node → List Text
  | .run text => [text]
  | .fraction numerator denominator => textsOf numerator ++ textsOf denominator
  | .root radicand degree => textsOf degree ++ textsOf radicand
  | .scripted base _ script => textsOf base ++ textsOf script
  | .foreign _ => []

/-- The texts of the runs of a sequence of nodes in reading order. -/
def textsOf : List Node → List Text
  | [] => []
  | node :: nodes => node.texts ++ textsOf nodes

end

/-- The characters that a sequence of nodes shows. -/
def shown (nodes : List Node) : Text := (textsOf nodes).flatten

theorem textsOf_append (a b : List Node) : textsOf (a ++ b) = textsOf a ++ textsOf b := by
  induction a with
  | nil => rfl
  | cons node a ih => rw [List.cons_append, textsOf, textsOf, ih, List.append_assoc]

@[simp] theorem shown_nil : shown [] = [] := rfl

theorem shown_reverse_cons (node : Node) (acc : List Node) :
    shown (node :: acc).reverse = shown acc.reverse ++ node.texts.flatten := by
  rw [List.reverse_cons, shown, textsOf_append, List.flatten_append, shown, textsOf, textsOf,
    List.append_nil]

/-! ### Characters of a source -/

/-- A class of characters that has all marks, letters, symbols, and the backslash. -/
structure HasSigns (p : CodePoint → Prop) : Prop where
  marks : ∀ c ∈ marks, p c
  letters : ∀ c, CodePoint.isAlpha c = true → p c
  symbols : ∀ entry ∈ symbolTable, p (.char entry.2)
  backslash : p '\\'

namespace HasSigns

variable {p : CodePoint → Prop} (hp : HasSigns p)
include hp

theorem commandText {name : Text} (hn : Letters name) : ∀ c ∈ commandText name, p c := by
  rcases commandText_cases name with ⟨entry, he, hc⟩ | ⟨-, hc⟩
  · rw [hc]
    exact fun c hc => List.mem_singleton.mp hc ▸ hp.symbols entry he
  · rw [hc]
    exact List.forall_mem_cons.mpr ⟨hp.backslash, fun c hc => hp.letters c (hn c hc)⟩

theorem behind_name {name : Text} (hn : Letters name) (s : Text) :
    (∀ c ∈ ('\\' :: (name ++ s) : Text), p c) ↔ ∀ c ∈ s, p c := by
  rw [List.forall_mem_cons, List.forall_mem_append]
  exact ⟨fun h => h.2.2, fun h => ⟨hp.backslash, fun c hc => hp.letters c (hn c hc), h⟩⟩

theorem cut {s t r : Text} (h : Cut s t r) :
    (∀ c ∈ s, p c) ↔ (∀ c ∈ t, p c) ∧ ∀ c ∈ r, p c := by
  have opening : p '{' := hp.marks _ (by decide)
  have closing : p '}' := hp.marks _ (by decide)
  cases h with
  | missing => simp
  | group r _ => simp [braced, or_imp, forall_and, opening, closing]
  | unclosed _ => simp [opening]
  | command _ _ => simp [or_imp, forall_and, hp.backslash]
  | single r _ _ => simp

end HasSigns

/-! ### Reading -/

/-- The characters that an item shows. -/
def Item.shown : Item → Text
  | .nothing => []
  | .run text => text
  | .fraction numerator denominator =>
    Math.shown (parse numerator) ++ Math.shown (parse denominator)
  | .root radicand => Math.shown (parse radicand)
  | .script _ source => Math.shown (parse source)

theorem shown_onto (item : Item) (acc : List Node) :
    shown (item.onto acc).reverse = shown acc.reverse ++ item.shown := by
  cases item with
  | nothing => exact (List.append_nil _).symm
  | run text =>
    rw [Item.onto, shown_reverse_cons, Node.texts, List.flatten_singleton]
    rfl
  | fraction numerator denominator =>
    rw [Item.onto, shown_reverse_cons, Node.texts, List.flatten_append]
    rfl
  | root radicand =>
    rw [Item.onto, shown_reverse_cons, Node.texts, textsOf, List.nil_append]
    rfl
  | script kind source =>
    rw [Item.onto, shown_reverse_cons, Node.texts, List.flatten_append]
    -- the script takes the last node away and puts it back as its base
    rcases acc with _ | ⟨last, acc⟩
    · rfl
    · rw [shown_reverse_cons, List.append_assoc, List.headD_cons, List.tail_cons, textsOf, textsOf,
        List.append_nil]
      rfl

variable {p : CodePoint → Prop} (hp : HasSigns p)
include hp

/-- An item shows the characters of the source, apart from signs, if its operands do. -/
theorem HasSigns.move {s r : Text} {item : Item} (h : Move s item r)
    (operands : ∀ t ∈ item.operands, (∀ c ∈ shown (parse t), p c) ↔ ∀ c ∈ t, p c) :
    (∀ c ∈ s, p c) ↔ (∀ c ∈ item.shown, p c) ∧ ∀ c ∈ r, p c := by
  cases h with
  | @skip c _ hc =>
    have hc : p c := hp.marks c (by rcases hc with rfl | rfl | rfl <;> decide)
    simp [Item.shown, hc]
  | character _ _ _ => simp [Item.shown]
  | command hn _ _ =>
    rw [hp.behind_name hn]
    exact (and_iff_right (hp.commandText hn)).symm
  | @fraction _ n _ d _ hn hd =>
    have numerator := operands n (by simp [Item.operands])
    have denominator := operands d (by simp [Item.operands])
    rw [hp.behind_name (letters_of_mem_structuralNames (by decide)), hp.cut hn, hp.cut hd,
      Item.shown, List.forall_mem_append, numerator, denominator, and_assoc]
  | @root _ t _ ht =>
    have radicand := operands t (by simp [Item.operands])
    rw [hp.behind_name (letters_of_mem_structuralNames (by decide)), hp.cut ht, Item.shown,
      radicand]
  | @script _ t _ kind ht =>
    have script := operands t (by simp [Item.operands])
    have hk : p kind.operator := hp.marks _ (by cases kind <;> decide)
    rw [List.forall_mem_cons, hp.cut ht, Item.shown, script, and_iff_right hk]

theorem forall_shown_parseOnto (s : Text) (acc : List Node) :
    (∀ c ∈ shown (parseOnto acc s).reverse, p c) ↔
      (∀ c ∈ shown acc.reverse, p c) ∧ ∀ c ∈ s, p c := by
  induction s using reading_induction generalizing acc with
  | nil => simp
  | move s item r h operands rest =>
    have operands (t : Text) (ht : t ∈ item.operands) :
        (∀ c ∈ shown (parse t), p c) ↔ ∀ c ∈ t, p c := by
      simpa [parse] using operands t ht []
    rw [parseOnto_move h, rest, shown_onto, List.forall_mem_append, hp.move h operands, and_assoc]

/-- **Reading neither adds nor hides a character**, apart from signs: a class that has all signs
holds what a formula shows exactly if it holds the source. -/
theorem forall_shown_parse (s : Text) : (∀ c ∈ shown (parse s), p c) ↔ ∀ c ∈ s, p c := by
  simpa [parse] using forall_shown_parseOnto hp s []

end ExamPress.Math
