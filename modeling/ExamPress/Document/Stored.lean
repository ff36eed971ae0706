import ExamPress.Document.Assembly
import ExamPress.Schema.Check

/-! # Stored documents

The JSON form of documents. `Document.ofJson` checks a value and names everything that is wrong
with it. `Document.toJson` writes the form; the nodes of formulas are left out, because they are
read again from the source when a formula comes without nodes. Nodes that a formula comes with are
kept as the values they are: none of them is read as a node. -/

namespace ExamPress

open Schema

/-- The alignment of a word. -/
def Alignment.ofJson (v : Json) : Checked Alignment :=
  match v with
  | .str s =>
    match [left, center, right].find? fun a => a.word.toText = s with
    | some a => .ok a
    | none => .fail (.notChoice "'left', 'center' or 'right'")
  | _ => .fail (.notChoice "'left', 'center' or 'right'")

namespace Properties

/-- The names of the properties that have an effect. -/
def names : List String := ["bold", "font_size", "alignment", "spacing_before", "spacing_after"]

/-- Properties from their JSON form. Fields of other names are kept. -/
def ofJson : Json → Checked Properties :=
  fields "ParagraphProperties" fun entries =>
    (field entries "bold" none (optional boolean)).both
      ((field entries "font_size" none (optional number)).both
        ((field entries "alignment" none (optional Alignment.ofJson)).both
          ((field entries "spacing_before" none (optional number)).both
            (field entries "spacing_after" none (optional number)))))
    |>.map fun (bold, fontSize, alignment, spaceBefore, spaceAfter) =>
      { bold, fontSize, alignment, spaceBefore, spaceAfter,
        extra := entries.filter fun entry => !entry.1.isAnyOf names }

/-- The JSON form of properties, in the order of their names and then of the other fields. -/
def toJson (p : Properties) : List (Text × Json) :=
  [("bold".toText, (p.bold.map Json.bool).getD .null),
    ("font_size".toText, (p.fontSize.map Json.float).getD .null),
    ("alignment".toText, (p.alignment.map fun a => Json.str a.word.toText).getD .null),
    ("spacing_before".toText, (p.spaceBefore.map Json.float).getD .null),
    ("spacing_after".toText, (p.spaceAfter.map Json.float).getD .null)] ++ p.extra

end Properties

namespace Run

/-- A run of text from its fields. -/
def textOfFields (entries : List (Text × Json)) : Checked Run :=
  (required entries "text" Schema.text).map Run.text

/-- A formula from its fields. Without nodes it has those of its source. -/
def formulaOfFields (entries : List (Text × Json)) : Checked Run :=
  (required entries "text" Schema.text).both
    (field entries "nodes" [] (list fun v => .ok (Math.Node.foreign v)))
  |>.map fun (source, nodes) =>
    if nodes.isEmpty then Run.ofSource source else .formula source nodes

/-- A run from its fields and the tag that tells a text from a formula. -/
def ofTag (tag : Json) (entries : List (Text × Json)) : Checked Run :=
  let word := match tag with
    | .str word => word
    | _ => []
  if word = "text".toText then (textOfFields entries).inside (.name word)
  else if word = "formula".toText then (formulaOfFields entries).inside (.name word)
  else .fail (.unknownTag tag.display)

/-- A run from its JSON form, whose type tells a text from a formula. -/
def ofJson : Json → Checked Run
  | .obj entries =>
    match Json.field? entries "type" with
    | none => .fail .noTag
    | some tag => ofTag tag entries
  | _ => .fail .noFields

/-- The JSON form of a run. -/
def toJson : Run → Json
  | .text content =>
    .obj [("type".toText, .str "text".toText), ("text".toText, .str content)]
  | .formula source _ =>
    .obj [("type".toText, .str "formula".toText), ("text".toText, .str source)]

end Run

namespace Paragraph

/-- The type that a paragraph may give. -/
def typeOfJson (v : Json) : Checked Unit :=
  match v with
  | .str word =>
    if word = "paragraph".toText then .ok () else .fail (.notChoice "'paragraph'")
  | _ => .fail (.notChoice "'paragraph'")

/-- A paragraph from its JSON form. -/
def ofJson : Json → Checked Paragraph :=
  fields "ParagraphElement" fun entries =>
    (field entries "type" () typeOfJson).both
      ((field entries "heading" false boolean).both
        ((field entries "content" [] (list Run.ofJson)).both
          (field entries "properties" {} Properties.ofJson)))
    |>.map fun (_, heading, content, properties) => { heading, content, properties }

/-- The JSON form of a paragraph. -/
def toJson (p : Paragraph) : Json :=
  .obj [("type".toText, .str "paragraph".toText), ("heading".toText, .bool p.heading),
    ("content".toText, .arr (p.content.map Run.toJson)),
    ("properties".toText, .obj p.properties.toJson)]

end Paragraph

namespace Document

/-- A document from its JSON form. -/
def ofJson : Json → Checked Document :=
  fields "DocumentModel" fun entries =>
    (field entries "elements" [] (list Paragraph.ofJson)).map Document.mk

/-- The JSON form of a document. -/
def toJson (d : Document) : Json :=
  .obj [("elements".toText, .arr (d.paragraphs.map Paragraph.toJson))]

end Document

end ExamPress
