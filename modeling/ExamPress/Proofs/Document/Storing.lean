import ExamPress.Document.Stored
import ExamPress.Proofs.Outcome
import Mathlib.Data.List.Forall2
import Mathlib.Tactic.Common

/-! # Documents read back from their stored form

The stored form of a document leaves out the nodes of its formulas. A document whose formulas have
the nodes of their sources is read back from it (`ofJson_toJson`), and these are the documents that
are put together from texts, and those that are read from any stored form in which no formula comes
with nodes of its own (`reload_stored`). -/

namespace ExamPress

open Schema

/-! ### Checks -/

namespace Schema

variable {α β : Type}

theorem both_eq_ok {first : Checked α} {second : Checked β} {a : α} {b : β} :
    first.both second = .ok (a, b) ↔ first = .ok a ∧ second = .ok b := by
  cases first <;> cases second <;> simp [Checked.both]

theorem inside_eq_ok {step : PathStep} {part : Checked α} {a : α} :
    part.inside step = .ok a ↔ part = .ok a := mapError_eq_ok

theorem itemsFrom_eq_ok {check : Json → Checked α} {position : Nat} {items : List Json}
    {as : List α} : itemsFrom check position items = .ok as ↔
      List.Forall₂ (fun item a => check item = .ok a) items as := by
  induction items generalizing position as with
  | nil =>
    rw [itemsFrom, List.forall₂_nil_left_iff]
    exact ⟨fun h => (Except.ok.inj h).symm, fun h => congrArg Except.ok h.symm⟩
  | cons item items ih =>
    rw [itemsFrom, map_eq_ok, List.forall₂_cons_left_iff]
    constructor
    · rintro ⟨⟨a, as⟩, both, rfl⟩
      obtain ⟨ha, has⟩ := both_eq_ok.mp both
      exact ⟨a, as, inside_eq_ok.mp ha, ih.mp has, rfl⟩
    · rintro ⟨a, as, ha, has, rfl⟩
      exact ⟨(a, as), both_eq_ok.mpr ⟨inside_eq_ok.mpr ha, ih.mpr has⟩, rfl⟩

theorem list_eq_ok {check : Json → Checked α} {v : Json} {as : List α} :
    list check v = .ok as ↔
      ∃ items, v = .arr items ∧ List.Forall₂ (fun item a => check item = .ok a) items as := by
  cases v with
  | arr items => simp [list, itemsFrom_eq_ok]
  | _ => simp [list, Checked.fail]

theorem list_map {check : Json → Checked α} {write : α → Json} {as : List α}
    (h : ∀ a ∈ as, check (write a) = .ok a) : list check (.arr (as.map write)) = .ok as := by
  refine list_eq_ok.mpr ⟨_, rfl, List.forall₂_map_left_iff.mpr ?_⟩
  exact List.forall₂_same.mpr h

theorem fields_eq_ok {record : String} {check : List (Text × Json) → Checked α} {v : Json}
    {a : α} :
    fields record check v = .ok a ↔ ∃ entries, v = .obj entries ∧ check entries = .ok a := by
  cases v with
  | obj entries => simp [fields]
  | _ => simp [fields, Checked.fail]

/-- The items of a field that is an array. -/
def itemsOf (v : Json) (name : String) : List Json :=
  match v.get? name with
  | some (.arr items) => items
  | _ => []

/-- What is in a list of a field is read from one of its items. -/
theorem exists_of_mem_field {check : Json → Checked α} {entries : List (Text × Json)}
    {name : String} {as : List α} (h : field entries name [] (list check) = .ok as) :
    ∀ a ∈ as, ∃ item ∈ itemsOf (.obj entries) name, check item = .ok a := by
  intro a ha
  unfold field at h
  split at h
  · rename_i v hv
    obtain ⟨items, rfl, all⟩ := list_eq_ok.mp (inside_eq_ok.mp h)
    have there : itemsOf (.obj entries) name = items := by
      rw [itemsOf, Json.get?, hv]
    rw [there]
    obtain ⟨i, hi, rfl⟩ := List.getElem_of_mem ha
    have length := all.length_eq
    exact ⟨items[i], List.getElem_mem _, (List.forall₂_iff_get.mp all).2 i (by omega) hi⟩
  · cases h
    cases ha

end Schema

/-! ### Stored runs, paragraphs and documents -/

/-- Whether a formula has the nodes of its source. -/
def Run.IsParsed : Run → Prop
  | .text _ => True
  | .formula source nodes => nodes = Math.parse source

/-- Whether a paragraph can be read back from its stored form: its formulas have the nodes of their
sources, and its other properties have other names. -/
structure Paragraph.IsStorable (p : Paragraph) : Prop where
  parsed : ∀ run ∈ p.content, run.IsParsed
  named : ∀ entry ∈ p.properties.extra, entry.1.isAnyOf Properties.names = false

/-- Whether a document can be read back from its stored form. -/
def Document.IsStorable (d : Document) : Prop := ∀ p ∈ d.paragraphs, p.IsStorable

theorem Run.ofJson_toJson {run : Run} (h : run.IsParsed) : Run.ofJson run.toJson = .ok run := by
  cases run with
  | text content => rfl
  | formula source nodes =>
    rw [Run.IsParsed] at h
    rw [h]
    rfl

theorem optional_getD {α : Type} {check : Json → Checked α} {write : α → Json}
    (h : ∀ a, optional check (write a) = .ok (some a)) (a : Option α) :
    optional check ((a.map write).getD .null) = .ok a := by
  cases a with
  | none => rfl
  | some a => exact h a

theorem Alignment.ofJson_word (a : Alignment) : Alignment.ofJson (.str a.word.toText) = .ok a := by
  cases a <;> rfl

theorem Properties.ofJson_toJson {p : Properties}
    (h : ∀ entry ∈ p.extra, entry.1.isAnyOf names = false) :
    Properties.ofJson (.obj p.toJson) = .ok p := by
  have bold : optional boolean ((p.bold.map Json.bool).getD .null) = .ok p.bold :=
    optional_getD (fun _ => rfl) _
  have size (d : Option Double) : optional number ((d.map Json.float).getD .null) = .ok d :=
    optional_getD (fun _ => rfl) _
  have word (a : Alignment) : optional Alignment.ofJson (.str a.word.toText) = .ok (some a) :=
    congrArg (Except.map some) (Alignment.ofJson_word a)
  have alignment := optional_getD word p.alignment
  have others : p.toJson.filter (fun entry => !entry.1.isAnyOf names) = p.extra := by
    refine (List.filter_append ..).trans ?_
    have declared (a b c d e : Json) : ([("bold".toText, a), ("font_size".toText, b),
        ("alignment".toText, c), ("spacing_before".toText, d), ("spacing_after".toText, e)] :
          List (Text × Json)).filter (fun entry => !entry.1.isAnyOf names) = [] := rfl
    rw [declared, List.nil_append, List.filter_eq_self]
    exact fun entry he => by rw [h entry he]; rfl
  refine fields_eq_ok.mpr ⟨p.toJson, rfl, map_eq_ok.mpr ⟨(p.bold, p.fontSize, p.alignment,
    p.spaceBefore, p.spaceAfter), ?_, by rw [others]⟩⟩
  simp only [both_eq_ok]
  refine ⟨inside_eq_ok.mpr bold, inside_eq_ok.mpr (size _), inside_eq_ok.mpr alignment,
    inside_eq_ok.mpr (size _), inside_eq_ok.mpr (size _)⟩

theorem Paragraph.ofJson_toJson {p : Paragraph} (h : p.IsStorable) :
    Paragraph.ofJson p.toJson = .ok p := by
  refine fields_eq_ok.mpr ⟨_, rfl, map_eq_ok.mpr ⟨((), p.heading, p.content, p.properties), ?_,
    rfl⟩⟩
  simp only [both_eq_ok]
  refine ⟨rfl, rfl, inside_eq_ok.mpr (list_map fun run hr => Run.ofJson_toJson (h.parsed run hr)),
    inside_eq_ok.mpr (Properties.ofJson_toJson h.named)⟩

/-- **A document is read back** from its stored form if its formulas have the nodes of their
sources. -/
theorem Document.ofJson_toJson {d : Document} (h : d.IsStorable) :
    Document.ofJson d.toJson = .ok d := by
  refine fields_eq_ok.mpr ⟨_, rfl, map_eq_ok.mpr ⟨d.paragraphs, inside_eq_ok.mpr ?_, rfl⟩⟩
  exact list_map fun p hp => Paragraph.ofJson_toJson (h p hp)

/-! ### Stored forms without nodes -/

/-- The runs of the paragraphs in the stored form of a document. -/
def storedRuns (v : Json) : List Json := (itemsOf v "elements").flatMap (itemsOf · "content")

/-- Whether no formula of a stored form comes with nodes. -/
def ComesWithoutNodes (v : Json) : Prop :=
  ∀ run ∈ storedRuns v, run.get? "type" = some (.str "formula".toText) →
    run.get? "nodes" = none ∨ run.get? "nodes" = some (.arr [])

theorem Run.isParsed_of_fields {entries : List (Text × Json)} {run : Run}
    (without : Json.field? entries "nodes" = none ∨ Json.field? entries "nodes" = some (.arr []))
    (h : formulaOfFields entries = .ok run) : run.IsParsed := by
  obtain ⟨⟨source, nodes⟩, both, rfl⟩ := map_eq_ok.mp h
  have nodes_eq := (both_eq_ok.mp both).2
  have none : nodes = [] := by
    unfold field at nodes_eq
    rcases without with absent | empty
    · rw [absent] at nodes_eq
      exact (Except.ok.inj nodes_eq).symm
    · rw [empty] at nodes_eq
      exact (Except.ok.inj nodes_eq).symm
  rw [none]
  exact (rfl : Math.parse source = Math.parse source)

theorem Run.isParsed_of_ofJson {v : Json} {run : Run}
    (without : v.get? "type" = some (.str "formula".toText) →
      v.get? "nodes" = none ∨ v.get? "nodes" = some (.arr []))
    (h : Run.ofJson v = .ok run) : run.IsParsed := by
  unfold Run.ofJson at h
  split at h
  · rename_i entries
    split at h
    · cases h
    · rename_i tag htag
      unfold ofTag at h
      dsimp only at h
      split_ifs at h with text formula
      · obtain ⟨content, -, rfl⟩ := map_eq_ok.mp (inside_eq_ok.mp h)
        trivial
      · refine Run.isParsed_of_fields (without ?_) (inside_eq_ok.mp h)
        rw [Json.get?, htag]
        cases tag with
        | str word => exact congrArg (fun word => some (Json.str word)) formula
        | _ => cases formula
      · cases h
  · cases h

theorem Properties.named_of_ofJson {v : Json} {p : Properties} (h : Properties.ofJson v = .ok p) :
    ∀ entry ∈ p.extra, entry.1.isAnyOf names = false := by
  obtain ⟨entries, rfl, h⟩ := fields_eq_ok.mp h
  obtain ⟨parts, -, rfl⟩ := map_eq_ok.mp h
  intro entry he
  simpa using (List.mem_filter.mp he).2

theorem Paragraph.isStorable_of_ofJson {v : Json} {p : Paragraph}
    (without : ∀ run ∈ itemsOf v "content", run.get? "type" = some (.str "formula".toText) →
      run.get? "nodes" = none ∨ run.get? "nodes" = some (.arr []))
    (h : Paragraph.ofJson v = .ok p) : p.IsStorable := by
  obtain ⟨entries, rfl, h⟩ := fields_eq_ok.mp h
  obtain ⟨⟨_, heading, content, properties⟩, parts, rfl⟩ := map_eq_ok.mp h
  simp only [both_eq_ok] at parts
  obtain ⟨-, -, hc, hp⟩ := parts
  refine ⟨fun run hr => ?_, ?_⟩
  · obtain ⟨item, there, read⟩ := exists_of_mem_field hc run hr
    exact Run.isParsed_of_ofJson (without item there) read
  · unfold field at hp
    split at hp
    · exact Properties.named_of_ofJson (inside_eq_ok.mp hp)
    · obtain rfl := Except.ok.inj hp
      exact nofun

/-- **A document that is read** from a stored form without nodes can be stored again. -/
theorem Document.isStorable_of_ofJson {v : Json} {d : Document} (without : ComesWithoutNodes v)
    (h : Document.ofJson v = .ok d) : d.IsStorable := by
  obtain ⟨entries, rfl, h⟩ := fields_eq_ok.mp h
  obtain ⟨paragraphs, hp, rfl⟩ := map_eq_ok.mp h
  intro p mem
  obtain ⟨item, there, read⟩ := exists_of_mem_field hp p mem
  exact Paragraph.isStorable_of_ofJson
    (fun run hr => without run (List.mem_flatMap.mpr ⟨item, there, hr⟩)) read

theorem Document.comesWithoutNodes_toJson (d : Document) : ComesWithoutNodes d.toJson := by
  have elements : itemsOf d.toJson "elements" = d.paragraphs.map Paragraph.toJson := rfl
  have content (p : Paragraph) : itemsOf p.toJson "content" = p.content.map Run.toJson := rfl
  intro run hr _
  obtain ⟨item, hi, hr⟩ := List.mem_flatMap.mp hr
  rw [elements] at hi
  obtain ⟨p, -, rfl⟩ := List.mem_map.mp hi
  rw [content] at hr
  obtain ⟨run, -, rfl⟩ := List.mem_map.mp hr
  cases run <;> exact Or.inl rfl

/-! ### Documents that are put together -/

theorem Run.isParsed_of_mem_consText {content : Text} {runs : List Run}
    (h : ∀ run ∈ runs, run.IsParsed) : ∀ run ∈ Run.consText content runs, run.IsParsed := by
  unfold Run.consText
  split
  · exact h
  · exact List.forall_mem_cons.mpr ⟨trivial, h⟩

theorem isParsed_splitFrom (acc line : Text) : ∀ run ∈ splitFrom acc line, run.IsParsed := by
  fun_induction splitFrom acc line with
  | case1 acc => exact Run.isParsed_of_mem_consText nofun
  | case2 acc c rest _ ih => exact ih
  | case3 acc c rest _ body _ ih => exact ih
  | case4 acc c rest _ body _ ih =>
    refine Run.isParsed_of_mem_consText (List.forall_mem_cons.mpr ⟨?_, ih⟩)
    exact (rfl : Math.parse body = Math.parse body)

theorem Paragraph.isStorable_ofLine (line : Text) : (Paragraph.ofLine line).IsStorable := by
  unfold Paragraph.ofLine
  split
  · exact ⟨List.forall_mem_singleton.mpr trivial, nofun⟩
  · exact ⟨isParsed_splitFrom [] line, nofun⟩

theorem Addition.isStorable_of_mem (addition : Addition) :
    ∀ p ∈ addition.paragraphs, p.IsStorable := by
  cases addition with
  | heading text =>
    exact List.forall_mem_singleton.mpr ⟨List.forall_mem_singleton.mpr trivial, nofun⟩
  | body line => exact List.forall_mem_singleton.mpr ⟨isParsed_splitFrom [] line, nofun⟩
  | line line => exact List.forall_mem_singleton.mpr (Paragraph.isStorable_ofLine line)
  | text text =>
    intro p hp
    obtain ⟨line, -, rfl⟩ := List.mem_map.mp hp
    exact Paragraph.isStorable_ofLine line

/-- **Documents that are put together** step by step can be stored. -/
theorem Document.isStorable_foldl_add {d : Document} (h : d.IsStorable) (steps : List Addition) :
    (steps.foldl Document.add d).IsStorable := by
  induction steps generalizing d with
  | nil => exact h
  | cons step steps ih =>
    refine ih (List.forall_mem_append.mpr ⟨h, step.isStorable_of_mem⟩)

/-! ### Reloading -/

/-- **Stored documents reload to themselves.** If no formula of a stored form comes with nodes, each
formula of the document that is read has the nodes of its source, and the document is read again
from the form in which it is stored: the same paragraphs, runs, nodes and properties, with the other
properties in their order. Documents that are put together step by step are stored in such a form,
and are read from it. -/
theorem reload_stored :
    (∀ v d, Document.ofJson v = .ok d → ComesWithoutNodes v →
      (∀ p ∈ d.paragraphs, ∀ source nodes, Run.formula source nodes ∈ p.content →
        nodes = Math.parse source) ∧
      ComesWithoutNodes d.toJson ∧ Document.ofJson d.toJson = .ok d) ∧
    ∀ steps : List Addition, ComesWithoutNodes (steps.foldl Document.add {}).toJson ∧
      Document.ofJson (steps.foldl Document.add {}).toJson = .ok (steps.foldl Document.add {}) := by
  refine ⟨fun v d read without => ?_, fun steps => ?_⟩
  · have storable := Document.isStorable_of_ofJson without read
    exact ⟨fun p hp source nodes formula => (storable p hp).parsed _ formula,
      d.comesWithoutNodes_toJson, Document.ofJson_toJson storable⟩
  · have empty : Document.IsStorable {} := fun p hp => (List.not_mem_nil hp).elim
    have storable := Document.isStorable_foldl_add empty steps
    exact ⟨Document.comesWithoutNodes_toJson _, Document.ofJson_toJson storable⟩

/-- A stored paragraph with a formula, and with numerals and words for its properties. -/
def lenientForm : Json :=
  .obj [("elements".toText, .arr [.obj [
    ("content".toText, .arr [.obj [("type".toText, .str "formula".toText),
      ("text".toText, .str "x^2".toText), ("nodes".toText, .arr [])]]),
    ("heading".toText, .str "Yes".toText),
    ("properties".toText, .obj [("colour".toText, .arr [.null]), ("bold".toText, .int 1),
      ("font_size".toText, .str " 1_2 ".toText), ("spacing_after".toText, .str "nan".toText),
      ("alignment".toText, .str "center".toText), ("level".toText, .float .nan)])]])]

/-- The properties that are read of it. -/
def lenientProperties : Properties :=
  { bold := some true, fontSize := some (points 12), alignment := some .center,
    spaceAfter := some .nan,
    extra := [("colour".toText, .arr [.null]), ("level".toText, .float .nan)] }

/-- The document that is read of it. -/
def lenientDocument : Document := ⟨[⟨true, [.ofSource "x^2".toText], lenientProperties⟩]⟩

theorem reload_stored_lenient :
    Document.ofJson lenientForm = .ok lenientDocument ∧
      Document.ofJson lenientDocument.toJson = .ok lenientDocument := by
  have read : Document.ofJson lenientForm = .ok lenientDocument := by
    rfl
  have without : ComesWithoutNodes lenientForm := by
    intro run hr _
    obtain rfl := List.mem_singleton.mp hr
    exact Or.inr rfl
  exact ⟨read, (reload_stored.1 _ _ read without).2.2⟩

end ExamPress
