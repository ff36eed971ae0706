import ExamPress.Math.Parser
import ExamPress.Word.Fault
import ExamPress.Xml

/-! # Equations

The form that a formula has in a Word document. A run is an `m:r`, a fraction an `m:f`, a root an
`m:rad`, a base with a script an `m:sSup` or `m:sSub`, and a formula an `m:oMath` zone. The parts
of a node are rendered one after the other and the first fault stops: the numerator before the
denominator, the radicand before the degree, the base before the script. -/

namespace ExamPress.Word

open Math

/-- The namespace declarations of an equation that stands alone. -/
def namespaces : List (String × Text) := [
  ("xmlns:m", "http://schemas.openxmlformats.org/officeDocument/2006/math".toText),
  ("xmlns:w", "http://schemas.openxmlformats.org/wordprocessingml/2006/main".toText)]

/-- The attribute that keeps the spaces at the ends of a text. -/
def preserveSpace : String × Text := ("xml:space", "preserve".toText)

/-- Whether a run has a space at one of its ends. -/
def hasEdgeSpace (s : Text) : Bool := s.head? == some ' ' || s.getLast? == some ' '

/-- A text that can stand in an XML document. -/
def checkText (s : Text) : Except Fault Text := do
  let s ← (Text.Utf8.check s).mapError .unencodable
  if Xml.isXmlText s then return s else throw .illegalText

/-- The element of a run. -/
def runElement (s : Text) : Xml :=
  .element "m:r" []
    [.element "m:t" (if hasEdgeSpace s then [preserveSpace] else []) [.text s]]

/-- The element of a fraction. -/
def fractionElement (numerator denominator : List Xml) : Xml :=
  .element "m:f" [] [.element "m:num" [] numerator, .element "m:den" [] denominator]

/-- The element of a root. Without a degree it says that the degree is hidden. -/
def rootElement (radicand degree : List Xml) : Xml :=
  let hidden : List Xml :=
    if degree.isEmpty then [.element "m:radPr" [] [.element "m:degHide" [("m:val", "1".toText)] []]]
    else []
  .element "m:rad" [] (hidden ++ [.element "m:deg" [] degree, .element "m:e" [] radicand])

/-- The element of a base with a script. -/
def scriptElement (base : List Xml) (kind : ScriptKind) (script : List Xml) : Xml :=
  match kind with
  | .superscript => .element "m:sSup" [] [.element "m:e" [] base, .element "m:sup" [] script]
  | .subscript => .element "m:sSub" [] [.element "m:e" [] base, .element "m:sub" [] script]

mutual

/-- The element of a node. -/
def renderNode : Node → Except Fault Xml
  | .run s => do
    let s ← checkText s
    return runElement s
  | .fraction numerator denominator => do
    let numerator ← renderNodes numerator
    let denominator ← renderNodes denominator
    return fractionElement numerator denominator
  | .root radicand degree => do
    let radicand ← renderNodes radicand
    let degree ← renderNodes degree
    return rootElement radicand degree
  | .scripted base kind script => do
    let base ← renderNodes base
    let script ← renderNodes script
    return scriptElement base kind script
  | .foreign value => .error (.foreignNode value.kindName)

/-- The elements of a sequence of nodes. -/
def renderNodes : List Node → Except Fault (List Xml)
  | [] => .ok []
  | node :: nodes => do
    let first ← renderNode node
    let rest ← renderNodes nodes
    return first :: rest

end

/-- The math zone of a sequence of nodes. -/
def mathZone (nodes : List Node) : Except Fault Xml := do
  let content ← renderNodes nodes
  return .element "m:oMath" [] content

/-- The math zone of the source of a formula. -/
def formulaZone (source : Text) : Except Fault Xml := mathZone (parse source)

/-- The source of a formula as a paragraph of its own, with an alignment. -/
def formulaParagraph (source alignment : Text) : Except Fault Xml := do
  let alignment ← checkText alignment
  let zone ← formulaZone source
  return .element "m:oMathPara" []
    [.element "m:oMathParaPr" [] [.element "m:jc" [("m:val", alignment)] []], zone]

/-- The texts of the runs of an equation, in the order of the document. -/
def equationText (equation : Xml) : Text := equation.textOf "m:t"

/-- The text form of an equation that stands alone. -/
def standalone (equation : Xml) : Text := (equation.withAttributes namespaces).write .unicode

end ExamPress.Word
