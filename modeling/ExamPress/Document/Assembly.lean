import ExamPress.Document.Basic
import ExamPress.Math.Parser

/-! # Documents from text

Each line of a text is a paragraph. A line that starts with two number signs and a space is a
heading. Any other line is cut into runs: between two dollar signs with something other than dollar
signs between them stands a formula, the rest is text. -/

namespace ExamPress

/-- A run of text in front of other runs, unless it is empty. -/
def Run.consText (content : Text) (runs : List Run) : List Run :=
  if content.isEmpty then runs else .text content :: runs

/-- A formula with the nodes of its source. -/
def Run.ofSource (source : Text) : Run := .formula source (Math.parse source)

/-- The runs of a line after a text that was read before, last character first. -/
def splitFrom (acc : Text) (line : Text) : List Run :=
  match line with
  | [] => Run.consText acc.reverse []
  | c :: rest =>
    if c ≠ '$' then splitFrom (c :: acc) rest
    else
      let body := rest.takeWhile fun (c : CodePoint) => c != '$'
      if body.isEmpty ∨ (rest.drop body.length).isEmpty then splitFrom (c :: acc) rest
      else
        Run.consText acc.reverse
          (Run.ofSource body :: splitFrom [] (rest.drop (body.length + 1)))
termination_by line.length
decreasing_by
  all_goals
    simp only [List.length_drop, List.length_cons]
    omega

/-- The runs of a line. -/
def splitLine (line : Text) : List Run := splitFrom [] line

/-- What a heading starts with. -/
def headingMark : Text := "## ".toText

/-- A whole number of points. -/
def points (n : Nat) : Double := .ofRatio false n 1

/-- The look of a heading. -/
def headingProperties : Properties :=
  { bold := some true, fontSize := some (points 16), spaceBefore := some (points 10),
    spaceAfter := some (points 5) }

/-- The look of a line that is no heading. -/
def bodyProperties : Properties :=
  { fontSize := some (points 12), spaceBefore := some (points 6), spaceAfter := some (points 6) }

namespace Paragraph

/-- A heading with a text. Formulas in it are not looked for. -/
def ofHeading (text : Text) : Paragraph :=
  { heading := true, content := [.text text], properties := headingProperties }

/-- A paragraph with the runs of a line. -/
def ofBody (line : Text) : Paragraph :=
  { content := splitLine line, properties := bodyProperties }

/-- The paragraph of a line. -/
def ofLine (line : Text) : Paragraph :=
  if line.startsWith headingMark then ofHeading (line.drop headingMark.length) else ofBody line

end Paragraph

/-- The lines of a text, each without the carriage returns at its end. -/
def linesOf (text : Text) : List Text :=
  (Text.splitOn '\n' text).map (Text.dropRightWhile (· == '\r'))

/-- The document of a text. -/
def Document.ofText (text : Text) : Document := ⟨(linesOf text).map Paragraph.ofLine⟩

/-- A step of putting a document together by hand. -/
inductive Addition where
  | heading (text : Text)
  | body (line : Text)
  | line (line : Text)
  | text (text : Text)
deriving DecidableEq, Repr

/-- The paragraphs that a step adds. -/
def Addition.paragraphs : Addition → List Paragraph
  | .heading content => [.ofHeading content]
  | .body content => [.ofBody content]
  | .line content => [.ofLine content]
  | .text content => (Document.ofText content).paragraphs

/-- A document with one more addition. -/
def Document.add (d : Document) (addition : Addition) : Document :=
  ⟨d.paragraphs ++ addition.paragraphs⟩

end ExamPress
