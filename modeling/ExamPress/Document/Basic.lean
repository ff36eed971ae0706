import ExamPress.Math.Node

/-! # Documents

A document is a sequence of paragraphs. A paragraph is a heading or not, and is made of runs of
text and formulas in reading order. -/

namespace ExamPress

/-- The alignment of a paragraph. -/
inductive Alignment where
  | left
  | center
  | right
deriving DecidableEq, Repr

/-- The word for an alignment. -/
def Alignment.word : Alignment → String
  | left => "left"
  | center => "center"
  | right => "right"

/-- How a paragraph looks. Sizes and distances are in points; what is not given is left to the
template. Properties of other names are kept and have no effect. -/
structure Properties where
  bold : Option Bool := none
  fontSize : Option Double := none
  alignment : Option Alignment := none
  spaceBefore : Option Double := none
  spaceAfter : Option Double := none
  extra : List (Text × Json) := []
deriving Repr

/-- A stretch of a paragraph: a text, or a formula with its source and its nodes. -/
inductive Run where
  | text (content : Text)
  | formula (source : Text) (nodes : List Math.Node)
deriving Repr

/-- A paragraph. -/
structure Paragraph where
  heading : Bool := false
  content : List Run := []
  properties : Properties := {}
deriving Repr

/-- The text of a paragraph without its formulas. -/
def Paragraph.plainText (p : Paragraph) : Text :=
  p.content.flatMap fun run => match run with
    | .text content => content
    | .formula _ _ => []

/-- A document. -/
structure Document where
  paragraphs : List Paragraph := []
deriving Repr

end ExamPress
