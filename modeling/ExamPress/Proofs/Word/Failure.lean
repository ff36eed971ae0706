import ExamPress.Proofs.Word.Documents

/-! # When a text can not be rendered

The document of a text can be rendered, however its formulas are written, unless a character of the
text is none of XML. Such a character is shown wherever it stands, and it is the only reason for a
document of a text to fail (`render_ofText_fails_iff`). -/

namespace ExamPress.Word

open Math

/-! ### Steps with one fault -/

/-- A step that fails with one fault, if it fails. -/
def FailsOnly {α : Type} (fault : Fault) (x : Except Fault α) : Prop :=
  ∀ f, x = .error f → f = fault

section

variable {α β : Type} {fault : Fault}

theorem FailsOnly.of_ok {x : Except Fault α} (h : ∃ a, x = .ok a) : FailsOnly fault x := by
  obtain ⟨a, rfl⟩ := h
  intro f hf
  cases hf

theorem FailsOnly.pure (a : α) : FailsOnly fault (pure a : Except Fault α) := .of_ok ⟨a, rfl⟩

theorem FailsOnly.throw : FailsOnly fault (throw fault : Except Fault α) := by
  intro f hf
  cases hf
  rfl

theorem FailsOnly.bind {x : Except Fault α} {f : α → Except Fault β} (hx : FailsOnly fault x)
    (hf : ∀ a, FailsOnly fault (f a)) : FailsOnly fault (x >>= f) := by
  intro e h
  cases x with
  | error e' =>
    cases h
    exact hx e rfl
  | ok a => exact hf a e h

theorem FailsOnly.map {x : Except Fault α} {f : α → β} (hx : FailsOnly fault x) :
    FailsOnly fault (x.map f) := by
  intro e h
  cases x with
  | error e' =>
    cases h
    exact hx e rfl
  | ok a => cases h

end

/-! ### Texts and nodes -/

theorem failsOnly_checkText {s : Text} (h : ∀ c ∈ s, c.isSurrogate = false) :
    FailsOnly .illegalText (checkText s) := by
  have hs : Text.Utf8.check s = .ok s := by
    refine Text.Repertoire.check_eq_ok_iff.mpr ⟨rfl, List.all_eq_true.mpr fun c hc => ?_⟩
    simp [Text.Repertoire.contains, h c hc]
  unfold checkText
  refine FailsOnly.bind (.of_ok ⟨s, by rw [hs]; rfl⟩) fun a => ?_
  split_ifs
  · exact .pure a
  · exact .throw

mutual

theorem failsOnly_renderNode : ∀ (node : Node) {place : Place}, node.WellFormed place →
    (∀ c ∈ node.texts.flatten, c.isSurrogate = false) → FailsOnly .illegalText (renderNode node)
  | .run text, _, _, hs => by
    rw [Node.texts, List.flatten_singleton] at hs
    exact (failsOnly_checkText hs).bind fun _ => .pure _
  | .fraction numerator denominator, _, h, hs => by
    rw [Node.texts, List.flatten_append, List.forall_mem_append] at hs
    exact (failsOnly_renderNodes numerator h.1 hs.1).bind fun _ =>
      (failsOnly_renderNodes denominator h.2 hs.2).bind fun _ => .pure _
  | .root radicand degree, _, h, hs => by
    rw [Node.texts, List.flatten_append, List.forall_mem_append] at hs
    obtain rfl := List.isEmpty_iff.mp h.2
    exact (failsOnly_renderNodes radicand h.1 hs.2).bind fun _ =>
      (FailsOnly.of_ok ⟨[], rfl⟩).bind fun _ => .pure _
  | .scripted [base] kind script, _, h, hs => by
    rw [Node.texts, List.flatten_append, List.forall_mem_append, textsOf, textsOf,
      List.append_nil] at hs
    have hb : FailsOnly .illegalText (renderNodes [base]) :=
      (failsOnly_renderNode base h.1 hs.1).bind fun _ =>
        (FailsOnly.of_ok ⟨[], rfl⟩).bind fun _ => .pure _
    exact hb.bind fun _ => (failsOnly_renderNodes script h.2 hs.2).bind fun _ => .pure _

theorem failsOnly_renderNodes : ∀ (nodes : List Node) {place : Place},
    SequenceWellFormed place nodes → (∀ c ∈ shown nodes, c.isSurrogate = false) →
    FailsOnly .illegalText (renderNodes nodes)
  | [], _, _, _ => .of_ok ⟨[], rfl⟩
  | node :: nodes, _, h, hs => by
    rw [shown, textsOf, List.flatten_append, List.forall_mem_append] at hs
    exact (failsOnly_renderNode node h.1 hs.1).bind fun _ =>
      (failsOnly_renderNodes nodes h.2 hs.2).bind fun _ => .pure _

end

theorem failsOnly_textElement {s : Text} (h : ∀ c ∈ s, c.isSurrogate = false) :
    FailsOnly .illegalText (textElement s) := by
  unfold textElement
  split_ifs
  · exact .of_ok ⟨[], rfl⟩
  · exact (failsOnly_checkText h).bind fun _ => .pure _

theorem failsOnly_textElementsFrom {acc s : Text} (hacc : ∀ c ∈ acc, c.isSurrogate = false)
    (hs : ∀ c ∈ s, c.isSurrogate = false) : FailsOnly .illegalText (textElementsFrom acc s) := by
  have before : FailsOnly .illegalText (textElement acc.reverse) :=
    failsOnly_textElement fun c hc => hacc c (List.mem_reverse.mp hc)
  induction s generalizing acc with
  | nil => exact before
  | cons c s ih =>
    obtain ⟨hc, hs⟩ := List.forall_mem_cons.mp hs
    rw [textElementsFrom]
    by_cases hb : c = '\t' ∨ c = '\n' ∨ c = '\r'
    · rw [if_pos hb]
      have rest : FailsOnly .illegalText (textElementsFrom [] s) :=
        ih (by simp) hs (.of_ok ⟨[], rfl⟩)
      exact before.bind fun _ => rest.bind fun _ => .pure _
    · rw [if_neg hb]
      have hacc : ∀ d ∈ c :: acc, d.isSurrogate = false := List.forall_mem_cons.mpr ⟨hc, hacc⟩
      exact ih hacc hs (failsOnly_textElement fun d hd => hacc d (List.mem_reverse.mp hd))

/-! ### Runs and paragraphs -/

theorem hasSigns_not_isSurrogate : HasSigns fun c => c.isSurrogate = false where
  marks := by decide
  letters _ h := (CodePoint.bounds_of_isAlpha h).2.2
  symbols _ _ := rfl
  backslash := rfl

theorem failsOnly_renderRun {run : Run} (h : ∃ s : Text, run = .text s ∨ run = .ofSource s)
    (hs : ∀ c ∈ run.source, c.isSurrogate = false) : FailsOnly .illegalText (renderRun run) := by
  obtain ⟨s, rfl | rfl⟩ := h
  · exact (failsOnly_textElementsFrom (by simp) hs).map
  · have hs : ∀ c ∈ s, c.isSurrogate = false := fun c hc =>
      hs c (by simp [Run.ofSource, Run.source, hc])
    have shape : WellFormed (parse s) := wellFormed_parseOnto s (by trivial)
    have nodes : FailsOnly .illegalText (renderNodes (parse s)) :=
      failsOnly_renderNodes _ shape ((forall_shown_parse hasSigns_not_isSurrogate s).mpr hs)
    exact (nodes.bind fun _ => .pure _).map

section

variable {fault : Fault}

theorem failsOnly_renderRuns {runs : List Run} (h : ∀ run ∈ runs, FailsOnly fault (renderRun run)) :
    FailsOnly fault (renderRuns runs) := by
  induction runs with
  | nil => exact .of_ok ⟨[], rfl⟩
  | cons run runs ih =>
    obtain ⟨hr, hrs⟩ := List.forall_mem_cons.mp h
    exact hr.bind fun _ => (ih hrs).bind fun _ => .pure _

theorem failsOnly_renderParagraph {p : Paragraph} (hfits : Fits p.properties)
    (h : ∀ run ∈ p.content, FailsOnly fault (renderRun run)) :
    FailsOnly fault (renderParagraph p) := by
  unfold renderParagraph
  refine (failsOnly_renderRuns h).bind fun runs => (FailsOnly.of_ok hfits.before).bind fun before =>
    (FailsOnly.of_ok hfits.after).bind fun after => ?_
  split_ifs
  · exact (FailsOnly.of_ok hfits.size).bind fun _ => .pure _
  · exact (FailsOnly.of_ok ⟨none, rfl⟩).bind fun _ => .pure _

theorem failsOnly_renderParagraphs {ps : List Paragraph} (hfits : ∀ p ∈ ps, Fits p.properties)
    (h : ∀ p ∈ ps, ∀ run ∈ p.content, FailsOnly fault (renderRun run)) :
    FailsOnly fault (renderParagraphs ps) := by
  induction ps with
  | nil => exact .of_ok ⟨[], rfl⟩
  | cons p ps ih =>
    obtain ⟨hf, hfs⟩ := List.forall_mem_cons.mp hfits
    obtain ⟨hp, hps⟩ := List.forall_mem_cons.mp h
    exact (failsOnly_renderParagraph hf hp).bind fun _ => (ih hfs hps).bind fun _ => .pure _

end

/-! ### Documents -/

theorem result_eq_error {d : Document} {fault : Fault} :
    (render d).result = .error fault ↔ renderParagraphs d.paragraphs = .error fault := by
  unfold render
  cases renderParagraphs d.paragraphs <;> simp

theorem exists_result_error {d : Document} : (∃ fault, (render d).result = .error fault) ↔
    ¬ ∃ xs, renderParagraphs d.paragraphs = .ok xs := by
  simp only [result_eq_error]
  cases renderParagraphs d.paragraphs <;> simp

/-- The document of a text has a text form exactly if all characters of the text are legal. -/
theorem exists_renderParagraphs_ofText {t : Text} :
    (∃ xs, renderParagraphs (Document.ofText t).paragraphs = .ok xs) ↔ t.IsLegal := by
  rw [exists_renderParagraphs (fits_ofText t), ← isLegal_linesOf, Document.ofText,
    List.forall_mem_map]
  exact forall₂_congr fun line _ => forall_isLegal_ofLine line

/-- Only an illegal character stops the document of a text of characters. -/
theorem failsOnly_renderParagraphs_ofText {t : Text} (h : ∀ c ∈ t, c.isSurrogate = false) :
    FailsOnly .illegalText (renderParagraphs (Document.ofText t).paragraphs) := by
  have mark : ∀ c ∈ headingMark, c.isSurrogate = false := by decide
  have lines : ∀ line ∈ linesOf t, ∀ c ∈ line, c.isSurrogate = false :=
    (@forall_mem_linesOf (fun c => c.isSurrogate = false) rfl rfl t).mpr h
  refine failsOnly_renderParagraphs (fits_ofText t) ?_
  refine List.forall_mem_map.mpr fun line hl run hr => ?_
  exact failsOnly_renderRun (mem_content_ofLine hr)
    ((forall_source_ofLine mark line).mpr (lines line hl) run hr)

/-- **When a text can not be rendered**: exactly if it has a character that XML lacks, and this is
then the fault. -/
theorem render_ofText_fails_iff {t : Text} (h : ∀ c ∈ t, c.isSurrogate = false) :
    ((∃ fault, (render (Document.ofText t)).result = .error fault) ↔ ∃ c ∈ t, Xml.Lacks c) ∧
      ∀ fault, (render (Document.ofText t)).result = .error fault → fault = .illegalText := by
  constructor
  · have lacks : ¬ t.IsLegal ↔ ∃ c ∈ t, Xml.Lacks c := by
      have legal : t.IsLegal ↔ ∀ c ∈ t, ¬ Xml.Lacks c :=
        forall₂_congr fun c hc => Xml.isLegal_iff.trans (and_iff_left (h c hc))
      rw [legal]
      push Not
      rfl
    rw [exists_result_error, exists_renderParagraphs_ofText, lacks]
  · intro fault hfault
    exact failsOnly_renderParagraphs_ofText h fault (result_eq_error.mp hfault)

/-- A control stands for the denominator of a broken formula, before an empty heading. -/
def strayControl : Text := "$^_\\frac1\x0b$\r\n## ".toText

theorem render_strayControl : (∀ c ∈ strayControl, c.isSurrogate = false) ∧
    (render (Document.ofText strayControl)).result = .error .illegalText := by
  have h : ∀ c ∈ strayControl, c.isSurrogate = false := by decide
  have lacking : ∃ c ∈ strayControl, Xml.Lacks c := ⟨'\x0b', by decide, by decide⟩
  obtain ⟨fault, hf⟩ := (render_ofText_fails_iff h).1.mpr lacking
  have fault_eq : fault = .illegalText := (render_ofText_fails_iff h).2 fault hf
  exact ⟨h, fault_eq ▸ hf⟩

end ExamPress.Word
