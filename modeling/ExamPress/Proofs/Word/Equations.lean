import ExamPress.Proofs.Word.Rendering
import ExamPress.Proofs.Xml.RoundTrip

/-! # Reading equations

The nodes of a math zone are read from its elements; attributes and the properties of a root are
passed over. Whatever is rendered is read back (`reads_renderNodes`). -/

namespace ExamPress.Word

open Math Xml

mutual

/-- The node of an element. -/
def readNode : Xml → Option Node
  | .element "m:r" _ [.element "m:t" _ content] => (readEach readPlain content).map .run
  | .element "m:f" _ [.element "m:num" _ numerator, .element "m:den" _ denominator] => do
    let numerator ← readNodes numerator
    let denominator ← readNodes denominator
    return .fraction numerator denominator
  | .element "m:rad" _ [.element "m:radPr" _ _, .element "m:deg" _ degree,
      .element "m:e" _ radicand] => do
    let degree ← readNodes degree
    let radicand ← readNodes radicand
    return .root radicand degree
  | .element "m:rad" _ [.element "m:deg" _ degree, .element "m:e" _ radicand] => do
    let degree ← readNodes degree
    let radicand ← readNodes radicand
    return .root radicand degree
  | .element "m:sSup" _ [.element "m:e" _ base, .element "m:sup" _ script] => do
    let base ← readNodes base
    let script ← readNodes script
    return .scripted base .superscript script
  | .element "m:sSub" _ [.element "m:e" _ base, .element "m:sub" _ script] => do
    let base ← readNodes base
    let script ← readNodes script
    return .scripted base .subscript script
  | _ => none

/-- The nodes of elements one after the other. -/
def readNodes : List Xml → Option (List Node)
  | [] => some []
  | x :: xs => do
    let node ← readNode x
    let nodes ← readNodes xs
    return node :: nodes

end

/-- The node of an element, as a sequence. -/
def readOne (x : Xml) : Option (List Node) := (readNode x).map fun node => [node]

theorem readNodes_eq (xs : List Xml) : readNodes xs = readEach readOne xs := by
  induction xs with
  | nil => rfl
  | cons x xs ih =>
    rw [readNodes, readEach, ih, readOne]
    cases readNode x <;> rfl

/-- The elements of a sequence of nodes, which can be read. -/
abbrev Shows : List Xml → List Node → Prop := Reads readOne

theorem Shows.read {xs : List Xml} {nodes : List Node} (h : Shows xs nodes) :
    readNodes (splitAll xs) = some nodes :=
  (readNodes_eq _).trans h.content

/-! ### The elements of nodes -/

theorem shows_runElement (s : Text) : Shows [runElement s] [.run s] := by
  have hs := reads_text s
  refine reads_element (wellNamed_element (by decide) ⟨⟨by decide, ?_, hs.named⟩, trivial⟩) ?_
  · split_ifs <;> decide
  · simpa [readOne, splitAll, split, readNode] using hs.content

theorem shows_fractionElement {n d : List Xml} {numerator denominator : List Node}
    (hn : Shows n numerator) (hd : Shows d denominator) :
    Shows [fractionElement n d] [.fraction numerator denominator] := by
  refine reads_element (wellNamed_element (by decide) ⟨wellNamed_element (by decide) hn.named,
    wellNamed_element (by decide) hd.named, trivial⟩) ?_
  simp [readOne, splitAll, split, readNode, hn.read, hd.read]

theorem shows_rootElement {r d : List Xml} {radicand degree : List Node} (hr : Shows r radicand)
    (hd : Shows d degree) : Shows [rootElement r d] [.root radicand degree] := by
  have hparts : AllWellNamed [element "m:deg" [] d, element "m:e" [] r] :=
    ⟨wellNamed_element (by decide) hd.named, wellNamed_element (by decide) hr.named, trivial⟩
  have hidden : (element "m:degHide" [("m:val", "1".toText)] []).WellNamed :=
    ⟨by decide, by decide, trivial⟩
  unfold rootElement
  -- the degree is said to be hidden exactly if it is empty
  split_ifs
  · refine reads_element (wellNamed_element (by decide)
      ⟨wellNamed_element (by decide) ⟨hidden, trivial⟩, hparts⟩) ?_
    simp [readOne, splitAll, split, readNode, hr.read, hd.read]
  · refine reads_element (wellNamed_element (by decide) hparts) ?_
    simp [readOne, splitAll, split, readNode, hr.read, hd.read]

theorem shows_scriptElement {b s : List Xml} {base script : List Node} (kind : ScriptKind)
    (hb : Shows b base) (hs : Shows s script) :
    Shows [scriptElement b kind s] [.scripted base kind script] := by
  cases kind with
  | superscript =>
    refine reads_element (wellNamed_element (by decide) ⟨wellNamed_element (by decide) hb.named,
      wellNamed_element (by decide) hs.named, trivial⟩) ?_
    simp [readOne, splitAll, split, readNode, hb.read, hs.read]
  | subscript =>
    refine reads_element (wellNamed_element (by decide) ⟨wellNamed_element (by decide) hb.named,
      wellNamed_element (by decide) hs.named, trivial⟩) ?_
    simp [readOne, splitAll, split, readNode, hb.read, hs.read]

/-! ### Rendering -/

mutual

theorem reads_renderNode : ∀ (node : Node) {x : Xml}, renderNode node = .ok x → Shows [x] [node]
  | .run s, x, h => by
    obtain ⟨t, ht, hx⟩ := bind_eq_ok.mp h
    obtain ⟨rfl, -⟩ := checkText_eq_ok.mp ht
    rw [← pure_eq_ok.mp hx]
    exact shows_runElement s
  | .fraction numerator denominator, x, h => by
    obtain ⟨n, hn, h⟩ := bind_eq_ok.mp h
    obtain ⟨d, hd, hx⟩ := bind_eq_ok.mp h
    rw [← pure_eq_ok.mp hx]
    exact shows_fractionElement (reads_renderNodes numerator hn) (reads_renderNodes denominator hd)
  | .root radicand degree, x, h => by
    obtain ⟨r, hr, h⟩ := bind_eq_ok.mp h
    obtain ⟨d, hd, hx⟩ := bind_eq_ok.mp h
    rw [← pure_eq_ok.mp hx]
    exact shows_rootElement (reads_renderNodes radicand hr) (reads_renderNodes degree hd)
  | .scripted base kind script, x, h => by
    obtain ⟨b, hb, h⟩ := bind_eq_ok.mp h
    obtain ⟨s, hs, hx⟩ := bind_eq_ok.mp h
    rw [← pure_eq_ok.mp hx]
    exact shows_scriptElement kind (reads_renderNodes base hb) (reads_renderNodes script hs)
  | .foreign _, _, h => by cases h

/-- **What is rendered is read back**: the elements of nodes show these nodes. -/
theorem reads_renderNodes : ∀ (nodes : List Node) {xs : List Xml},
    renderNodes nodes = .ok xs → Shows xs nodes
  | [], xs, h => by
    cases h
    exact Reads.nil
  | node :: nodes, xs, h => by
    obtain ⟨x, hx, h⟩ := bind_eq_ok.mp h
    obtain ⟨xs', hxs, h⟩ := bind_eq_ok.mp h
    rw [← pure_eq_ok.mp h]
    exact (reads_renderNode node hx).append (reads_renderNodes nodes hxs)

end

end ExamPress.Word
