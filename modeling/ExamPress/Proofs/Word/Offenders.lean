import ExamPress.Proofs.Text.Front
import ExamPress.Proofs.Word.Failure

/-! # The first offender of a formula

The leaves of a formula are the texts of its runs and the values in it that are no nodes, in the
order in which they are rendered: a radicand before its degree. Rendering a formula comes to
checking its leaves one after the other (`checkNodes_eq`). So it fails exactly if a leaf offends,
and then with the fault of the first one that does; and a document that holds the formula is not
made (`renderNodes_outcome`). -/

namespace ExamPress

/-! ### Texts that have no UTF-8 form -/

/-- The first stretch of a text without a form in a coding. -/
theorem Text.Repertoire.check_eq_error {r : Repertoire} {before stretch after : Text}
    (hb : ∀ c ∈ before, r.contains c = true) (some : stretch ≠ [])
    (hs : ∀ c ∈ stretch, r.contains c = false) (ha : ∀ c ∈ after.head?, r.contains c = true) :
    r.check (before ++ (stretch ++ after)) = .error ⟨r, before.length, stretch⟩ := by
  obtain ⟨c, rest, rfl⟩ := List.exists_cons_of_ne_nil some
  have front : (before ++ (c :: rest ++ after)).dropWhile r.contains = c :: (rest ++ after) := by
    refine Text.dropWhile_append hb ?_
    rintro _ ⟨⟩
    exact hs c List.mem_cons_self
  have taken : (c :: (rest ++ after)).takeWhile (fun c => !r.contains c) = c :: rest := by
    refine Text.takeWhile_append (a := c :: rest) (fun d hd => ?_) (fun d hd => ?_)
    · rw [hs d hd]
      rfl
    · rw [ha d hd]
      rfl
  have position : (before ++ (c :: rest ++ after)).length - (c :: (rest ++ after)).length =
      before.length := by
    simp only [List.length_append, List.length_cons]
    omega
  simp only [Repertoire.check, front, taken, position]

namespace Word

open Math

/-! ### Leaves -/

/-- What stands at the end of a branch of a formula: the text of a run, or a value that is no
node. -/
inductive Leaf where
  | text (s : Text)
  | foreign (value : Json)
deriving Repr

mutual

/-- The leaves of a node in the order of rendering. A radicand comes before its degree. -/
def leavesOfNode : Node → List Leaf
  | .run text => [.text text]
  | .fraction numerator denominator => leavesOf numerator ++ leavesOf denominator
  | .root radicand degree => leavesOf radicand ++ leavesOf degree
  | .scripted base _ script => leavesOf base ++ leavesOf script
  | .foreign value => [.foreign value]

/-- The leaves of a sequence of nodes in the order of rendering. -/
def leavesOf : List Node → List Leaf
  | [] => []
  | node :: nodes => leavesOfNode node ++ leavesOf nodes

end

/-- A leaf that can stand in a document: a text of characters that XML has. -/
def Leaf.IsLegal : Leaf → Prop
  | .text s => ∀ c ∈ s, ¬ Xml.Lacks c ∧ c.isSurrogate = false
  | .foreign _ => False

/-- **Why a leaf offends**: the class and the wording of the error. Surrogates in a text are told
before characters that XML lacks, and of several stretches of surrogates the first one is named. -/
inductive Offends : Leaf → String → Text → Prop
  | foreign (value : Json) :
      Offends (.foreign value) "TypeError" ("Unsupported math node: " ++ value.kindName).toText
  | lacking {s : Text} (characters : ∀ c ∈ s, c.isSurrogate = false)
      (lacks : ∃ c ∈ s, Xml.Lacks c) :
      Offends (.text s) "ValueError" Xml.illegalTextMessage.toText
  | surrogates {before stretch after : Text} (hb : ∀ c ∈ before, c.isSurrogate = false)
      (some : stretch ≠ []) (hs : ∀ c ∈ stretch, c.isSurrogate = true)
      (ha : ∀ c ∈ after.head?, c.isSurrogate = false) :
      Offends (.text (before ++ (stretch ++ after))) "UnicodeEncodeError"
        (Text.Unencodable.message ⟨.characters, before.length, stretch⟩)

/-- The check of a leaf. -/
def Leaf.check : Leaf → Except Fault Unit
  | .text s => (checkText s).map fun _ => ()
  | .foreign value => .error (.foreignNode value.kindName)

theorem Leaf.check_eq_ok {leaf : Leaf} : leaf.check = .ok () ↔ leaf.IsLegal := by
  cases leaf with
  | text s =>
    have legal : (Leaf.text s).IsLegal ↔ s.IsLegal :=
      forall₂_congr fun c _ => Xml.isLegal_iff.symm
    rw [legal, ← exists_checkText, check, map_eq_ok]
    exact exists_congr fun t => and_iff_left rfl
  | foreign value => exact ⟨nofun, False.elim⟩

theorem checkText_surrogates {before stretch after : Text}
    (hb : ∀ c ∈ before, c.isSurrogate = false) (some : stretch ≠ [])
    (hs : ∀ c ∈ stretch, c.isSurrogate = true) (ha : ∀ c ∈ after.head?, c.isSurrogate = false) :
    checkText (before ++ (stretch ++ after)) =
      .error (.unencodable ⟨.characters, before.length, stretch⟩) := by
  have encoded : Text.Utf8.check (before ++ (stretch ++ after)) =
      .error ⟨.characters, before.length, stretch⟩ := by
    refine Text.Repertoire.check_eq_error (fun c hc => ?_) some (fun c hc => ?_) fun c hc => ?_
    · simp [Text.Repertoire.contains, hb c hc]
    · simp [Text.Repertoire.contains, hs c hc]
    · simp [Text.Repertoire.contains, ha c hc]
  rw [checkText, encoded]
  rfl

theorem Leaf.check_eq_error {leaf : Leaf} (h : ¬ leaf.IsLegal) :
    ∃ fault, leaf.check = .error fault ∧ Offends leaf fault.className fault.message := by
  cases leaf with
  | foreign value => exact ⟨.foreignNode value.kindName, rfl, .foreign value⟩
  | text s =>
    by_cases characters : ∀ c ∈ s, c.isSurrogate = false
    · have lacks : ∃ c ∈ s, Xml.Lacks c := by
        by_contra none
        push Not at none
        exact h fun c hc => ⟨none c hc, characters c hc⟩
      cases hc : checkText s with
      | ok t =>
        refine (h (check_eq_ok.mp ?_)).elim
        rw [check, hc]
        rfl
      | error fault =>
        obtain rfl := failsOnly_checkText characters fault hc
        exact ⟨.illegalText, by rw [check, hc]; rfl, .lacking characters lacks⟩
    · -- the first stretch of surrogates is named
      obtain ⟨before, r, rfl, hb, hr⟩ := Text.exists_stretch (fun c => !c.isSurrogate) s
      obtain ⟨stretch, after, rfl, hs, ha⟩ := Text.exists_stretch CodePoint.isSurrogate r
      replace hb : ∀ c ∈ before, c.isSurrogate = false := fun c hc => by simpa using hb c hc
      have some : stretch ≠ [] := by
        rintro rfl
        rcases after with _ | ⟨c, after⟩
        · rw [List.append_nil, List.append_nil] at characters
          exact characters hb
        · have surrogate := hr c rfl
          rw [ha c rfl] at surrogate
          cases surrogate
      exact ⟨.unencodable ⟨.characters, before.length, stretch⟩,
        by rw [check, checkText_surrogates hb some hs ha]; rfl, .surrogates hb some hs ha⟩

/-! ### Nodes -/

mutual

theorem checkNode_eq : ∀ node : Node,
    (renderNode node).map (fun _ => ()) = forM (leavesOfNode node) Leaf.check
  | .run text => by
    rw [renderNode, leavesOfNode, List.forM_cons, Leaf.check]
    cases checkText text <;> rfl
  | .fraction numerator denominator => by
    rw [renderNode, leavesOfNode, List.forM_append, ← checkNodes_eq numerator,
      ← checkNodes_eq denominator, map_unit_bind_pair]
  | .root radicand degree => by
    rw [renderNode, leavesOfNode, List.forM_append, ← checkNodes_eq radicand,
      ← checkNodes_eq degree, map_unit_bind_pair]
  | .scripted base kind script => by
    rw [renderNode, leavesOfNode, List.forM_append, ← checkNodes_eq base,
      ← checkNodes_eq script, map_unit_bind_pair]
  | .foreign value => rfl

/-- **Rendering nodes** fails as the check of their leaves does. -/
theorem checkNodes_eq : ∀ nodes : List Node,
    (renderNodes nodes).map (fun _ => ()) = forM (leavesOf nodes) Leaf.check
  | [] => rfl
  | node :: nodes => by
    rw [renderNodes, leavesOf, List.forM_append, ← checkNode_eq node, ← checkNodes_eq nodes,
      map_unit_bind_pair]

end

/-! ### Documents -/

theorem exists_renderNodes_iff {nodes : List Node} :
    (∃ xs, renderNodes nodes = .ok xs) ↔ ∀ leaf ∈ leavesOf nodes, leaf.IsLegal := by
  have checked : (∃ xs, renderNodes nodes = .ok xs) ↔
      forM (leavesOf nodes) Leaf.check = .ok () := by
    rw [← checkNodes_eq, map_eq_ok]
    exact exists_congr fun xs => (and_iff_left rfl).symm
  rw [checked, forM_eq_ok]
  exact forall₂_congr fun _ _ => Leaf.check_eq_ok

theorem renderNodes_of_first {nodes : List Node} {before after : List Leaf} {leaf : Leaf}
    {fault : Fault} (leaves : leavesOf nodes = before ++ leaf :: after)
    (legal : ∀ l ∈ before, l.IsLegal) (failed : leaf.check = .error fault) :
    renderNodes nodes = .error fault := by
  have check : forM (leavesOf nodes) Leaf.check = .error fault := by
    rw [leaves]
    exact forM_eq_error_of_first (fun l hl => Leaf.check_eq_ok.mpr (legal l hl)) failed
  rw [← checkNodes_eq] at check
  cases hr : renderNodes nodes with
  | ok xs =>
    rw [hr] at check
    cases check
  | error e =>
    rw [hr] at check
    cases check
    rfl

theorem renderNodes_of_renderParagraphs {ps : List Paragraph} {xs : List Xml}
    (h : renderParagraphs ps = .ok xs) {p : Paragraph} (hp : p ∈ ps) {source : Text}
    {nodes : List Node} (hr : .formula source nodes ∈ p.content) :
    ∃ xs, renderNodes nodes = .ok xs := by
  induction ps generalizing xs with
  | nil => cases hp
  | cons q ps ih =>
    obtain ⟨x, hx, h⟩ := bind_eq_ok.mp h
    obtain ⟨rest, hrest, -⟩ := bind_eq_ok.mp h
    rcases List.mem_cons.mp hp with rfl | hp
    · obtain ⟨runs, hruns, -⟩ := renderParagraph_eq_ok.mp hx
      exact (exists_renderNodes nodes).mpr (exists_renderRuns.mp ⟨runs, hruns⟩ _ hr)
    · exact ih hrest hp

/-- **When and how rendering fails.** Nodes are rendered exactly if none of their leaves offends.
Otherwise they fail with the error of the first one that does, in the order of rendering; and no
document with these nodes in a formula is made: the log ends with a fault, which is the outcome. -/
theorem renderNodes_outcome (nodes : List Node) :
    ((∃ xs, renderNodes nodes = .ok xs) ↔ ∀ leaf ∈ leavesOf nodes, leaf.IsLegal) ∧
      (∀ before leaf after, leavesOf nodes = before ++ leaf :: after →
        (∀ l ∈ before, l.IsLegal) → ¬ leaf.IsLegal →
          ∃ fault, renderNodes nodes = .error fault ∧
            Offends leaf fault.className fault.message) ∧
      ∀ (d : Document) (p : Paragraph) (source : Text), p ∈ d.paragraphs →
        .formula source nodes ∈ p.content → ¬ (∀ leaf ∈ leavesOf nodes, leaf.IsLegal) →
          ∃ fault, render d = ⟨[.started d.paragraphs.length, .failed fault], .error fault⟩ := by
  refine ⟨exists_renderNodes_iff, fun before leaf after leaves legal offends => ?_,
    fun d p source hp hr offends => ?_⟩
  · obtain ⟨fault, failed, told⟩ := Leaf.check_eq_error offends
    exact ⟨fault, renderNodes_of_first leaves legal failed, told⟩
  · cases h : renderParagraphs d.paragraphs with
    | ok xs => exact (offends (exists_renderNodes_iff.mp
        (renderNodes_of_renderParagraphs h hp hr))).elim
    | error fault => exact ⟨fault, by rw [render, h]⟩

/-- A line that is a formula of one sign. -/
def signFormula (c : CodePoint) : Text := ['$', c, '$']

/-- A surrogate has another error than the characters that XML lacks. -/
theorem render_surrogateFormula :
    splitLine (signFormula (.surrogate 0)) = [.formula [.surrogate 0] [.run [.surrogate 0]]] ∧
      ∃ fault, renderNodes [.run [.surrogate 0]] = .error fault ∧
        (render (Document.ofText (signFormula (.surrogate 0)))).result = .error fault ∧
        fault.className = "UnicodeEncodeError" ∧
        fault.message ≠ Xml.illegalTextMessage.toText := by
  have nodes : parse [.surrogate 0] = [.run [.surrogate 0]] := by
    simp [parse, parseOnto, nextStep]
  have runs : splitLine (signFormula (.surrogate 0)) =
      [.formula [.surrogate 0] [.run [.surrogate 0]]] := by
    simp [signFormula, splitLine, splitFrom, Run.consText, Run.ofSource, nodes]
  have paragraphs : (Document.ofText (signFormula (.surrogate 0))).paragraphs =
      [.ofBody (signFormula (.surrogate 0))] := by
    have lines : linesOf (signFormula (.surrogate 0)) = [signFormula (.surrogate 0)] := by decide
    rw [Document.ofText, lines]
    rfl
  refine ⟨runs, .unencodable ⟨.characters, 0, [.surrogate 0]⟩, rfl, ?_, rfl, by decide⟩
  rw [result_eq_error, paragraphs, renderParagraphs, renderParagraph, Paragraph.ofBody, runs]
  rfl

end Word

end ExamPress
