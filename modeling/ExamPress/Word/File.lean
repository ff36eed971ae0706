import ExamPress.Package.Manifest
import ExamPress.Word.Paragraph

/-! # Word files

A document is rendered as a whole and then packed once. The progress is told in a log of events. -/

namespace ExamPress.Word

/-- A rendered document. -/
structure File where
  paragraphs : List Xml

namespace File

/-- The text forms of the paragraphs, in order. -/
def paragraphTexts (f : File) : List Text := f.paragraphs.map (Xml.write .unicode)

/-- The root of the main part. -/
def root (f : File) : Xml :=
  .element "w:document" namespaces [.element "w:body" [] f.paragraphs]

/-- The type of the main part. -/
def mainType : String :=
  "application/vnd.openxmlformats-officedocument.wordprocessingml.document.main+xml"

/-- The bytes of the file. -/
def bytes (f : File) : List Nat :=
  Package.archive [
    Package.typesPart [("/word/document.xml", mainType)],
    Package.relationsPart "_rels/.rels" [("officeDocument", "word/document.xml")],
    .ofXml "word/document.xml" f.root]

/-- The end of the name of a Word file. -/
def extension : Text := ".docx".toText

/-- The media type of a Word file. -/
def mediaType : String :=
  "application/vnd.openxmlformats-officedocument.wordprocessingml.document"

end File

/-- An event while a document is rendered. -/
inductive Event where
  | started (paragraphs : Nat)
  | rendered (headings zones : Nat)
  | failed (fault : Fault)
  | packed (bytes : Nat)
deriving DecidableEq, Repr

/-- The line of the log for an event. -/
def Event.message : Event → Text
  | started paragraphs => s!"[DOCX] Rendering {paragraphs} paragraphs...".toText
  | rendered headings zones => s!"[DOCX] {headings} headings, {zones} math zones.".toText
  | failed fault => s!"[DOCX] [ERROR] {fault.className}: ".toText ++ fault.message
  | packed bytes => s!"[DOCX] Done ({bytes} bytes).".toText

/-- The outcome of rendering a document, with the events on the way. -/
structure Rendering where
  log : List Event
  result : Except Fault File

/-- The number of headings of a document. -/
def headingCount (d : Document) : Nat := d.paragraphs.countP fun p => p.heading

/-- Whether a run is a formula. -/
def isFormula : Run → Bool
  | .text _ => false
  | .formula _ _ => true

/-- The number of formulas of a document. -/
def zoneCount (d : Document) : Nat :=
  (d.paragraphs.flatMap Paragraph.content).countP isFormula

/-- The Word file of a document. -/
def render (d : Document) : Rendering :=
  let started := Event.started d.paragraphs.length
  match renderParagraphs d.paragraphs with
  | .error fault => ⟨[started, .failed fault], .error fault⟩
  | .ok paragraphs =>
    let file : File := ⟨paragraphs⟩
    ⟨[started, .rendered (headingCount d) (zoneCount d), .packed file.bytes.length], .ok file⟩

/-- The wording of the error for a document that can not be rendered. -/
def Fault.summary (fault : Fault) : Text :=
  "Failed to pack the Word document: ".toText ++ fault.message

end ExamPress.Word
