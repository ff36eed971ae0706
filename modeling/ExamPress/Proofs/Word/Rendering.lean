import ExamPress.Proofs.Math.Legal
import ExamPress.Proofs.Outcome
import ExamPress.Word.Paragraph

/-! # What can be rendered

A formula is rendered exactly if it holds no foreign value and no illegal character
(`exists_renderNodes`), a text exactly if it holds no illegal character. If the lengths in the
properties of a paragraph can be written, it is rendered exactly if its runs are legal
(`exists_renderParagraph`). -/

namespace ExamPress

/-- No foreign value and no illegal character is in a run. The source of a formula is not shown. -/
def Run.IsLegal : Run → Prop
  | .text content => content.IsLegal
  | .formula _ nodes => Math.AllLegal nodes

namespace Word

open Math

/-! ### Texts -/

/-- **A text passes the check** exactly if all its characters are legal, and it stays as it is. -/
theorem checkText_eq_ok {s t : Text} : checkText s = .ok t ↔ s = t ∧ s.IsLegal := by
  have hall : s.IsLegal ↔
      s.all Text.Repertoire.characters.contains = true ∧ Xml.isXmlText s = true := by
    simp only [Text.IsLegal, Xml.isXmlText, List.all_eq_true, Xml.isLegal,
      Text.Repertoire.contains, Bool.and_eq_true]
    exact ⟨fun h => ⟨fun c hc => (h c hc).2, fun c hc => (h c hc).1⟩,
      fun h c hc => ⟨h.2 c hc, h.1 c hc⟩⟩
  rw [checkText, bind_eq_ok, hall]
  constructor
  · rintro ⟨s', hs, ht⟩
    cases hc : Text.Utf8.check s with
    | error e => rw [hc] at hs; cases hs
    | ok s'' =>
      rw [hc] at hs
      cases hs
      obtain ⟨rfl, ha⟩ := Text.Repertoire.check_eq_ok_iff.mp hc
      split at ht
      · rename_i hx
        cases ht
        exact ⟨rfl, ha, hx⟩
      · cases ht
  · rintro ⟨rfl, ha, hx⟩
    have hc : Text.Utf8.check s = .ok s := Text.Repertoire.check_eq_ok_iff.mpr ⟨rfl, ha⟩
    exact ⟨s, by rw [hc]; rfl, by rw [if_pos hx]; rfl⟩

theorem exists_checkText {s : Text} : (∃ t, checkText s = .ok t) ↔ s.IsLegal :=
  ⟨fun ⟨_, h⟩ => (checkText_eq_ok.mp h).2, fun h => ⟨s, checkText_eq_ok.mpr ⟨rfl, h⟩⟩⟩

/-! ### Nodes -/

mutual

theorem exists_renderNode : ∀ node : Node, (∃ x, renderNode node = .ok x) ↔ node.IsLegal
  | .run text => by
    rw [renderNode, exists_bind_pure, exists_checkText, Node.IsLegal]
  | .fraction numerator denominator => by
    rw [renderNode, exists_bind_pair, exists_renderNodes numerator, exists_renderNodes denominator,
      Node.IsLegal]
  | .root radicand degree => by
    rw [renderNode, exists_bind_pair, exists_renderNodes radicand, exists_renderNodes degree,
      Node.IsLegal]
  | .scripted base kind script => by
    rw [renderNode, exists_bind_pair, exists_renderNodes base, exists_renderNodes script,
      Node.IsLegal]
  | .foreign value => by simp [renderNode, Node.IsLegal]

/-- **Nodes are rendered** exactly if they are legal. -/
theorem exists_renderNodes : ∀ nodes : List Node,
    (∃ xs, renderNodes nodes = .ok xs) ↔ AllLegal nodes
  | [] => ⟨fun _ => trivial, fun _ => ⟨[], rfl⟩⟩
  | node :: nodes => by
    rw [renderNodes, exists_bind_pair, exists_renderNode node, exists_renderNodes nodes, AllLegal]

end

/-! ### Runs -/

theorem exists_textElement {s : Text} : (∃ xs, textElement s = .ok xs) ↔ s.IsLegal := by
  unfold textElement
  split_ifs with hs
  · rw [List.isEmpty_iff.mp hs]
    exact ⟨fun _ => by simp [Text.IsLegal], fun _ => ⟨[], rfl⟩⟩
  · rw [exists_bind_pure, exists_checkText]

theorem exists_textElementsFrom {acc s : Text} :
    (∃ xs, textElementsFrom acc s = .ok xs) ↔ Text.IsLegal (acc.reverse ++ s) := by
  induction s generalizing acc with
  | nil =>
    rw [List.append_nil]
    exact exists_textElement
  | cons c s ih =>
    rw [textElementsFrom]
    by_cases hc : c = '\t' ∨ c = '\n' ∨ c = '\r'
    · have hl : Xml.isLegal c = true := by rcases hc with rfl | rfl | rfl <;> decide
      rw [if_pos hc, exists_bind_pair, exists_textElement, ih]
      simp [Text.IsLegal, or_imp, forall_and, hl]
    · rw [if_neg hc, ih, List.reverse_cons, List.append_assoc, List.singleton_append]

theorem exists_mathZone {nodes : List Node} :
    (∃ x, mathZone nodes = .ok x) ↔ AllLegal nodes := by
  rw [mathZone, exists_bind_pure, exists_renderNodes]

theorem exists_renderRun {run : Run} : (∃ r, renderRun run = .ok r) ↔ run.IsLegal := by
  cases run with
  | text content => exact exists_map.trans exists_textElementsFrom
  | formula source nodes => exact exists_map.trans exists_mathZone

theorem exists_renderRuns {runs : List Run} :
    (∃ rs, renderRuns runs = .ok rs) ↔ ∀ run ∈ runs, run.IsLegal := by
  induction runs with
  | nil => exact ⟨fun _ => by simp, fun _ => ⟨[], rfl⟩⟩
  | cons run runs ih =>
    rw [renderRuns, exists_bind_pair, exists_renderRun, ih, List.forall_mem_cons]

/-! ### Paragraphs -/

/-- The steps of rendering a paragraph: its runs, its lengths, and the size of its font if a run is
a text. -/
theorem renderParagraph_eq_ok {p : Paragraph} {x : Xml} :
    renderParagraph p = .ok x ↔
      ∃ runs, renderRuns p.content = .ok runs ∧
        ∃ before, optionally twentieths p.properties.spaceBefore = .ok before ∧
          ∃ after, optionally twentieths p.properties.spaceAfter = .ok after ∧
            ∃ size, (if runs.any RenderedRun.isText then optionally halves p.properties.fontSize
                else .ok none) = .ok size ∧
              .element "w:p" [] (formatElement before after p.properties.alignment ++
                runs.map (RenderedRun.element (fontElement p.properties.bold size))) = x := by
  rw [renderParagraph, bind_eq_ok]
  refine exists_congr fun runs => and_congr_right fun _ => ?_
  rw [bind_eq_ok]
  refine exists_congr fun before => and_congr_right fun _ => ?_
  rw [bind_eq_ok]
  refine exists_congr fun after => and_congr_right fun _ => ?_
  split_ifs <;> rw [bind_eq_ok] <;>
    exact exists_congr fun size => and_congr_right fun _ => pure_eq_ok

/-- All lengths in the properties of a paragraph can be written. -/
structure Fits (p : Properties) : Prop where
  before : ∃ s, optionally twentieths p.spaceBefore = .ok s
  after : ∃ s, optionally twentieths p.spaceAfter = .ok s
  size : ∃ s, optionally halves p.fontSize = .ok s

/-- **A paragraph is rendered** exactly if its runs are legal, if the lengths fit. -/
theorem exists_renderParagraph {p : Paragraph} (h : Fits p.properties) :
    (∃ x, renderParagraph p = .ok x) ↔ ∀ run ∈ p.content, run.IsLegal := by
  rw [← exists_renderRuns]
  constructor
  · rintro ⟨x, hx⟩
    obtain ⟨runs, hr, -⟩ := renderParagraph_eq_ok.mp hx
    exact ⟨runs, hr⟩
  · rintro ⟨runs, hr⟩
    obtain ⟨⟨before, hb⟩, ⟨after, ha⟩, ⟨size, hs⟩⟩ := h
    have hsize : ∃ size, (if runs.any RenderedRun.isText then
        optionally halves p.properties.fontSize else .ok none) = .ok size := by
      split_ifs
      · exact ⟨size, hs⟩
      · exact ⟨none, rfl⟩
    obtain ⟨size, hs⟩ := hsize
    exact ⟨_, renderParagraph_eq_ok.mpr ⟨runs, hr, before, hb, after, ha, size, hs, rfl⟩⟩

theorem exists_renderParagraphs {ps : List Paragraph} (h : ∀ p ∈ ps, Fits p.properties) :
    (∃ xs, renderParagraphs ps = .ok xs) ↔ ∀ p ∈ ps, ∀ run ∈ p.content, run.IsLegal := by
  induction ps with
  | nil => exact ⟨fun _ => by simp, fun _ => ⟨[], rfl⟩⟩
  | cons p ps ih =>
    obtain ⟨hp, hps⟩ := List.forall_mem_cons.mp h
    rw [renderParagraphs, exists_bind_pair, exists_renderParagraph hp, ih hps, List.forall_mem_cons]

end Word

end ExamPress
