import ExamPress.Proofs.Word.Equations

/-! # Reading paragraphs

A paragraph is read from its text form: each run of text with its tabs and line ends, each math zone
with its nodes. The formats of paragraphs and fonts are passed over. Whatever the properties of a
paragraph are, its runs are read back in their order (`readParagraph_renderParagraph`). -/

namespace ExamPress.Word

open Math Xml

/-- A child of a paragraph: a run of text, or a formula with its nodes. -/
inductive Inline where
  | text (content : Text)
  | formula (nodes : List Node)
deriving Repr

/-- The text of an element in a run. -/
def readPart : Xml → Option Text
  | .element "w:t" _ content => readEach readPlain content
  | .element "w:tab" _ _ => some ['\t']
  | .element "w:br" _ _ => some ['\n']
  | .element "w:rPr" _ _ => some []
  | _ => none

/-- The child of a paragraph that an element is, if it is no format. -/
def readInline : Xml → Option (List Inline)
  | .element "w:r" _ content => (readEach readPart content).map fun s => [.text s]
  | .element "m:oMath" _ content => (readNodes content).map fun nodes => [.formula nodes]
  | .element "w:pPr" _ _ => some []
  | _ => none

/-- The children of a paragraph in its text form. -/
def readParagraph (s : Text) : Option (List Inline) :=
  match Xml.read s with
  | some [.element "w:p" _ content] => readEach readInline content
  | _ => none

/-- A line end of any kind is read as LF. -/
def lineEnd (c : CodePoint) : CodePoint := if c = '\r' then '\n' else c

/-- What is read of a run. -/
def Inline.ofRun : Run → Inline
  | .text content => .text (content.map lineEnd)
  | .formula _ nodes => .formula nodes

/-! ### Texts -/

theorem reads_textElement {s : Text} {xs : List Xml} (h : textElement s = .ok xs) :
    Reads readPart xs s := by
  unfold textElement at h
  split_ifs at h with hs
  · cases h
    rw [List.isEmpty_iff.mp hs]
    exact Reads.nil
  · obtain ⟨t, ht, hx⟩ := bind_eq_ok.mp h
    obtain ⟨rfl, -⟩ := checkText_eq_ok.mp ht
    rw [← pure_eq_ok.mp hx]
    have hr := reads_text s
    refine reads_element ⟨by decide, ?_, hr.named⟩ hr.content
    split_ifs <;> decide

/-- A character that is no part of a stretch of text has an element of its own. -/
theorem reads_break {c : CodePoint} (h : c = '\t' ∨ c = '\n' ∨ c = '\r') :
    Reads readPart [.element (if c = '\t' then "w:tab" else "w:br") [] []] [lineEnd c] := by
  rcases h with rfl | rfl | rfl <;>
    exact reads_element (wellNamed_element (by decide) trivial) rfl

theorem reads_textElementsFrom {acc s : Text} {xs : List Xml}
    (h : textElementsFrom acc s = .ok xs) : Reads readPart xs (acc.reverse ++ s.map lineEnd) := by
  induction s generalizing acc xs with
  | nil =>
    rw [List.map_nil, List.append_nil]
    exact reads_textElement h
  | cons c s ih =>
    rw [textElementsFrom] at h
    by_cases hc : c = '\t' ∨ c = '\n' ∨ c = '\r'
    · rw [if_pos hc] at h
      obtain ⟨before, hb, h⟩ := bind_eq_ok.mp h
      obtain ⟨after, ha, hx⟩ := bind_eq_ok.mp h
      rw [← pure_eq_ok.mp hx]
      exact (reads_textElement hb).append ((reads_break hc).append (ih ha))
    · rw [if_neg hc] at h
      have hl : lineEnd c = c := if_neg fun h => hc (Or.inr (Or.inr h))
      simpa [hl] using ih h

theorem reads_textElements {s : Text} {xs : List Xml} (h : textElements s = .ok xs) :
    Reads readPart xs (s.map lineEnd) :=
  reads_textElementsFrom h

/-! ### Formats -/

theorem reads_groupElement {α : Type} {one : Xml → Option (List α)} {name : String}
    {content : List Xml} (hn : IsName name) (hc : AllWellNamed content)
    (h : ∀ content, one (.element name [] content) = some []) :
    Reads one (groupElement name content) [] := by
  unfold groupElement
  split_ifs
  · exact Reads.nil
  · exact reads_element (wellNamed_element hn hc) (h _)

theorem wellNamed_value {name key : String} (value : Text) (hn : IsName name)
    (ha : IsName key) : (element name [(key, value)] []).WellNamed :=
  ⟨hn, List.forall_mem_singleton.mpr ha, trivial⟩

theorem reads_fontElement (bold : Option Bool) (size : Option Text) :
    Reads readPart (fontElement bold size) [] := by
  refine reads_groupElement (by decide) ((allWellNamed_append _ _).mpr ⟨?_, ?_⟩) fun _ => rfl
  · rcases bold with _ | _ | _
    · trivial
    · exact ⟨wellNamed_value _ (by decide) (by decide), trivial⟩
    · exact ⟨wellNamed_element (by decide) trivial, trivial⟩
  · rcases size with _ | size
    · trivial
    · exact ⟨wellNamed_value _ (by decide) (by decide), trivial⟩

theorem reads_formatElement (before after : Option Text) (alignment : Option Alignment) :
    Reads readInline (formatElement before after alignment) [] := by
  refine reads_groupElement (by decide) ((allWellNamed_append _ _).mpr ⟨?_, ?_⟩) fun _ => rfl
  · have hb : IsName "w:before" := by decide
    have ha : IsName "w:after" := by decide
    split_ifs
    · trivial
    · refine ⟨⟨by decide, fun entry he => ?_, trivial⟩, trivial⟩
      rcases List.mem_append.mp he with he | he
      · obtain ⟨n, -, rfl⟩ := Option.map_eq_some_iff.mp (Option.mem_toList.mp he)
        exact hb
      · obtain ⟨n, -, rfl⟩ := Option.map_eq_some_iff.mp (Option.mem_toList.mp he)
        exact ha
  · rcases alignment with _ | alignment
    · trivial
    · exact ⟨wellNamed_value _ (by decide) (by decide), trivial⟩

/-! ### Paragraphs -/

theorem reads_renderRun {run : Run} {r : RenderedRun} (h : renderRun run = .ok r)
    {font : List Xml} (hf : Reads readPart font []) :
    Reads readInline [r.element font] [.ofRun run] := by
  cases run with
  | text content =>
    obtain ⟨xs, hx, rfl⟩ := map_eq_ok.mp h
    have hr := hf.append (reads_textElements hx)
    refine reads_element (wellNamed_element (by decide) hr.named) ?_
    rw [readInline, hr.content]
    rfl
  | formula source nodes =>
    obtain ⟨zone, hz, rfl⟩ := map_eq_ok.mp h
    obtain ⟨xs, hx, hz⟩ := bind_eq_ok.mp hz
    rw [← pure_eq_ok.mp hz]
    have hr := reads_renderNodes nodes hx
    refine reads_element (wellNamed_element (by decide) hr.named) ?_
    rw [readInline, hr.read]
    rfl

theorem reads_renderRuns {runs : List Run} {rs : List RenderedRun} (h : renderRuns runs = .ok rs)
    {font : List Xml} (hf : Reads readPart font []) :
    Reads readInline (rs.map (RenderedRun.element font)) (runs.map .ofRun) := by
  induction runs generalizing rs with
  | nil =>
    cases h
    exact Reads.nil
  | cons run runs ih =>
    obtain ⟨first, hr, h⟩ := bind_eq_ok.mp h
    obtain ⟨more, hm, h⟩ := bind_eq_ok.mp h
    rw [← pure_eq_ok.mp h]
    exact (reads_renderRun hr hf).append (ih hm)

/-- **A paragraph is read back**: its runs in their order, whatever its properties are. -/
theorem readParagraph_renderParagraph {p : Paragraph} {x : Xml} (h : renderParagraph p = .ok x) :
    readParagraph (x.write .unicode) = some (p.content.map .ofRun) := by
  obtain ⟨runs, hr, before, -, after, -, size, -, rfl⟩ := renderParagraph_eq_ok.mp h
  have hc := (reads_formatElement before after p.properties.alignment).append
    (reads_renderRuns hr (reads_fontElement p.properties.bold size))
  rw [readParagraph, read_write .unicode (wellNamed_element (by decide) hc.named)]
  exact hc.content

end ExamPress.Word
