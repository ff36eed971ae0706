import ExamPress.Document.Basic
import ExamPress.Text.Blank
import ExamPress.Word.Equation
import ExamPress.Word.Measure

/-! # Paragraphs of a Word document

A paragraph is a `w:p` with its format first and then its runs and math zones in reading order.
Inside a run of text a tab is a `w:tab`, a line end a `w:br`, and each stretch between them a
`w:t`. Fonts are set for runs of text only. The content is rendered before the format, and the
first fault stops. -/

namespace ExamPress.Word

/-- Whether a text has a blank character at one of its ends. -/
def hasBlankEdge (s : Text) : Bool := s.head?.any Text.isBlank || s.getLast?.any Text.isBlank

/-- The element of a stretch of text, if it is not empty. -/
def textElement (s : Text) : Except Fault (List Xml) :=
  if s.isEmpty then .ok []
  else do
    let s ← checkText s
    return [.element "w:t" (if hasBlankEdge s then [preserveSpace] else []) [.text s]]

/-- The elements of a text after a stretch that was read before, last character first. -/
def textElementsFrom (acc : Text) : Text → Except Fault (List Xml)
  | [] => textElement acc.reverse
  | c :: rest =>
    if c = '\t' ∨ c = '\n' ∨ c = '\r' then do
      let before ← textElement acc.reverse
      let after ← textElementsFrom [] rest
      return before ++ .element (if c = '\t' then "w:tab" else "w:br") [] [] :: after
    else textElementsFrom (c :: acc) rest

/-- The elements of a text. -/
def textElements (s : Text) : Except Fault (List Xml) := textElementsFrom [] s

/-- A rendered run: the elements of a text, or a math zone. -/
inductive RenderedRun where
  | text (content : List Xml)
  | zone (element : Xml)

/-- A run rendered without its font. -/
def renderRun : Run → Except Fault RenderedRun
  | .text content => (textElements content).map .text
  | .formula _ nodes => (mathZone nodes).map .zone

/-- Runs rendered one after the other without their fonts. -/
def renderRuns : List Run → Except Fault (List RenderedRun)
  | [] => .ok []
  | run :: runs => do
    let first ← renderRun run
    let rest ← renderRuns runs
    return first :: rest

/-- Whether a run is a text. -/
def RenderedRun.isText : RenderedRun → Bool
  | text _ => true
  | zone _ => false

/-- The rendering of something that may be absent. -/
def optionally {α β : Type} (render : α → Except Fault β) : Option α → Except Fault (Option β)
  | none => .ok none
  | some a => (render a).map some

/-- An element around others, unless there are none. -/
def groupElement (name : String) (content : List Xml) : List Xml :=
  if content.isEmpty then [] else [.element name [] content]

/-- The font of runs of text: bold or not, and a size in half points. -/
def fontElement (bold : Option Bool) (size : Option Text) : List Xml :=
  groupElement "w:rPr"
    ((match bold with
      | none => []
      | some true => [.element "w:b" [] []]
      | some false => [.element "w:b" [("w:val", "0".toText)] []]) ++
    (match size with
      | none => []
      | some size => [.element "w:sz" [("w:val", size)] []]))

/-- The element of a run with the font for texts. -/
def RenderedRun.element (font : List Xml) : RenderedRun → Xml
  | text content => .element "w:r" [] (font ++ content)
  | zone element => element

/-- The format of a paragraph: distances in twentieths of a point, and an alignment. -/
def formatElement (before after : Option Text) (alignment : Option Alignment) : List Xml :=
  let distances :=
    (before.map fun n => ("w:before", n)).toList ++ (after.map fun n => ("w:after", n)).toList
  groupElement "w:pPr"
    ((if distances.isEmpty then [] else [.element "w:spacing" distances []]) ++
      (alignment.map fun a => Xml.element "w:jc" [("w:val", a.word.toText)] []).toList)

/-- The element of a paragraph. -/
def renderParagraph (p : Paragraph) : Except Fault Xml := do
  let runs ← renderRuns p.content
  let before ← optionally twentieths p.properties.spaceBefore
  let after ← optionally twentieths p.properties.spaceAfter
  let size ←
    if runs.any RenderedRun.isText then optionally halves p.properties.fontSize else .ok none
  let font := fontElement p.properties.bold size
  return .element "w:p" []
    (formatElement before after p.properties.alignment ++ runs.map (RenderedRun.element font))

/-- The elements of paragraphs one after the other. -/
def renderParagraphs : List Paragraph → Except Fault (List Xml)
  | [] => .ok []
  | p :: ps => do
    let first ← renderParagraph p
    let rest ← renderParagraphs ps
    return first :: rest

end ExamPress.Word
