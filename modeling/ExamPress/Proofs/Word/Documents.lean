import ExamPress.Proofs.Document.Source
import ExamPress.Proofs.Word.Paragraphs
import ExamPress.Word.File

/-! # From text to Word and back

A text of legal characters is always rendered. Its paragraphs are read back as its lines in order: a
heading as one run of text, any other line as its texts and formulas (`read_render_ofText`). -/

namespace ExamPress

open Word

/-! ### Lines -/

/-- **The lines** of a text are legal exactly if the text is. -/
theorem isLegal_linesOf (t : Text) : (∀ line ∈ linesOf t, line.IsLegal) ↔ t.IsLegal :=
  forall_mem_linesOf (by decide) (by decide) t

/-! ### Runs -/

theorem mem_consText {content : Text} {runs : List Run} {run : Run}
    (h : run ∈ Run.consText content runs) : run = .text content ∨ run ∈ runs := by
  unfold Run.consText at h
  split_ifs at h
  · exact Or.inr h
  · exact List.mem_cons.mp h

theorem mem_splitFrom {acc line : Text} {run : Run} (h : run ∈ splitFrom acc line) :
    ∃ s : Text, run = .text s ∨ run = .ofSource s := by
  fun_induction splitFrom acc line with
  | case1 acc =>
    rcases mem_consText h with rfl | h
    · exact ⟨acc.reverse, Or.inl rfl⟩
    · cases h
  | case2 acc c rest hc ih => exact ih h
  | case3 acc c rest hc body hb ih => exact ih h
  | case4 acc c rest hc body hb ih =>
    rcases mem_consText h with rfl | h
    · exact ⟨acc.reverse, Or.inl rfl⟩
    rcases List.mem_cons.mp h with rfl | h
    · exact ⟨body, Or.inr rfl⟩
    · exact ih h

/-- What is read of a line: a heading is one text, any other line its texts and formulas. -/
def lineContent (line : Text) : List Inline :=
  if line.startsWith headingMark then [.text ((line.drop headingMark.length).map lineEnd)]
  else (splitLine line).map fun run => match run with
    | .text content => .text (content.map lineEnd)
    | .formula source _ => .formula (Math.parse source)

theorem content_ofLine (line : Text) :
    (Paragraph.ofLine line).content.map Inline.ofRun = lineContent line := by
  unfold Paragraph.ofLine lineContent
  split_ifs
  · rfl
  · refine List.map_congr_left fun run hr => ?_
    obtain ⟨s, rfl | rfl⟩ := mem_splitFrom hr <;> rfl

theorem mem_content_ofLine {line : Text} {run : Run}
    (h : run ∈ (Paragraph.ofLine line).content) :
    ∃ s : Text, run = .text s ∨ run = .ofSource s := by
  unfold Paragraph.ofLine at h
  split_ifs at h
  · exact ⟨_, Or.inl (List.mem_singleton.mp h)⟩
  · exact mem_splitFrom h

/-- The runs of the paragraph of a line have its characters, apart from the mark of headings. -/
theorem forall_source_ofLine {p : CodePoint → Prop} (hm : ∀ c ∈ headingMark, p c) (line : Text) :
    (∀ run ∈ (Paragraph.ofLine line).content, ∀ c ∈ run.source, p c) ↔ ∀ c ∈ line, p c := by
  unfold Paragraph.ofLine
  split_ifs with h
  · obtain ⟨rest, rfl⟩ := List.isPrefixOf_iff_prefix.mp h
    rw [List.drop_left, List.forall_mem_append, and_iff_right hm]
    exact List.forall_mem_singleton
  · have hs : (splitLine line).flatMap Run.source = line := source_splitFrom [] line
    rw [← hs, List.forall_mem_flatMap, hs]
    rfl

/-- A run with the nodes of its source is legal exactly if the source is: no character of a formula
is hidden. -/
theorem isLegal_source {line : Text} {run : Run} (h : run ∈ (Paragraph.ofLine line).content) :
    run.IsLegal ↔ run.source.IsLegal := by
  obtain ⟨s, rfl | rfl⟩ := mem_content_ofLine h
  · exact Iff.rfl
  · have dollar : Xml.isLegal '$' = true := by decide
    rw [Run.ofSource, Run.IsLegal, Math.allLegal_parse]
    simp [Run.source, Text.IsLegal, String.toText, or_imp, forall_and, dollar]

/-- **The paragraph of a line** is legal exactly if the line is. -/
theorem forall_isLegal_ofLine (line : Text) :
    (∀ run ∈ (Paragraph.ofLine line).content, run.IsLegal) ↔ line.IsLegal := by
  have mark : ∀ c ∈ headingMark, Xml.isLegal c = true := by decide
  calc (∀ run ∈ (Paragraph.ofLine line).content, run.IsLegal)
      ↔ ∀ run ∈ (Paragraph.ofLine line).content, run.source.IsLegal :=
        forall₂_congr fun _ hr => isLegal_source hr
    _ ↔ line.IsLegal := forall_source_ofLine mark line

theorem isLegal_ofLine {line : Text} (h : line.IsLegal) :
    ∀ run ∈ (Paragraph.ofLine line).content, run.IsLegal :=
  (forall_isLegal_ofLine line).mpr h

/-! ### Documents -/

theorem fits_ofLine (line : Text) : Fits (Paragraph.ofLine line).properties := by
  unfold Paragraph.ofLine
  split_ifs
  · exact ⟨⟨some "200".toText, rfl⟩, ⟨some "100".toText, rfl⟩, ⟨some "32".toText, rfl⟩⟩
  · exact ⟨⟨some "120".toText, rfl⟩, ⟨some "120".toText, rfl⟩, ⟨some "24".toText, rfl⟩⟩

theorem fits_ofText (t : Text) : ∀ p ∈ (Document.ofText t).paragraphs, Fits p.properties :=
  List.forall_mem_map.mpr fun line _ => fits_ofLine line

theorem result_eq_ok {d : Document} {xs : List Xml} (h : renderParagraphs d.paragraphs = .ok xs) :
    (render d).result = .ok ⟨xs⟩ := by
  rw [render, h]

/-- **A document is read back**, paragraph by paragraph. -/
theorem readParagraph_renderParagraphs {ps : List Paragraph} {xs : List Xml}
    (h : renderParagraphs ps = .ok xs) :
    (File.paragraphTexts ⟨xs⟩).map readParagraph =
      ps.map fun p => some (p.content.map Inline.ofRun) := by
  induction ps generalizing xs with
  | nil =>
    cases h
    rfl
  | cons p ps ih =>
    obtain ⟨x, hx, h⟩ := bind_eq_ok.mp h
    obtain ⟨more, hm, h⟩ := bind_eq_ok.mp h
    rw [← pure_eq_ok.mp h]
    exact congrArg₂ List.cons (readParagraph_renderParagraph hx) (ih hm)

/-- **From text to Word and back**: a text of legal characters gives a paragraph for each of its
lines in order, and of the paragraph is read what the line consists of. -/
theorem read_render_ofText {t : Text} (h : t.IsLegal) :
    ∃ file, (render (Document.ofText t)).result = .ok file ∧
      file.paragraphTexts.map readParagraph =
        (Text.splitOn '\n' t).map fun line =>
          some (lineContent (Text.dropRightWhile (· == '\r') line)) := by
  have hfits : ∀ p ∈ (Document.ofText t).paragraphs, Fits p.properties :=
    List.forall_mem_map.mpr fun line _ => fits_ofLine line
  have hlegal : ∀ p ∈ (Document.ofText t).paragraphs, ∀ run ∈ p.content, run.IsLegal :=
    List.forall_mem_map.mpr fun line hl => isLegal_ofLine ((isLegal_linesOf t).mpr h line hl)
  obtain ⟨xs, hx⟩ := (exists_renderParagraphs hfits).mpr hlegal
  refine ⟨⟨xs⟩, result_eq_ok hx, ?_⟩
  rw [readParagraph_renderParagraphs hx, Document.ofText, linesOf, List.map_map, List.map_map]
  exact List.map_congr_left fun line _ => congrArg some (content_ofLine _)

/-- A heading with line ends and markup in it, and a line with a formula. -/
def headingAndFormula : Text := "## a\r<b>\r\r\n\tx & $\\frac1y$".toText

theorem read_render_headingAndFormula :
    headingAndFormula.IsLegal ∧
      ∃ file, (render (Document.ofText headingAndFormula)).result = .ok file ∧
        file.paragraphTexts.map readParagraph =
          [some [.text "a\n<b>".toText],
            some [.text "\tx & ".toText,
              .formula [.fraction [.run "1".toText] [.run "y".toText]]]] := by
  have h : headingAndFormula.IsLegal := by decide
  obtain ⟨file, hf, hr⟩ := read_render_ofText h
  refine ⟨h, file, hf, hr.trans ?_⟩
  cbv

end ExamPress
