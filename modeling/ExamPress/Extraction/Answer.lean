import ExamPress.Json.Basic
import ExamPress.Text.Blank

/-! # Answers of a model

A model answers with candidates. The content of the first one has parts, and the text of the answer
is the texts of its parts one after the other; a part without a text adds nothing. Content and
parts may be missing, and then are empty. What has another shape is refused, and so is a text that
is all blank. -/

namespace ExamPress.Extraction

/-- A part of a candidate that has not the shape it should have. Where its kind is at fault it is
named. -/
inductive Malformation where
  | noFields (kind : String)
  | noItems (kind : String)
  | noFirst
  | noSequence (kind : String)
  | noText (position : Nat) (kind : String)
deriving DecidableEq, Repr

/-- The wording of a malformation. -/
def Malformation.message : Malformation → String
  | noFields kind => s!"'{kind}' object has no attribute 'get'"
  | noItems kind => s!"'{kind}' object is not subscriptable"
  | noFirst => "0"
  | noSequence kind => s!"'{kind}' object is not iterable"
  | noText position kind => s!"sequence item {position}: expected str instance, {kind} found"

/-- Why an answer has no text. -/
inductive AnswerFault where
  | unexpected (kind : String)
  | noCandidates
  | malformed (fault : Malformation)
  | blank
deriving DecidableEq, Repr

/-- The wording of a fault. -/
def AnswerFault.message : AnswerFault → String
  | unexpected kind => "Unexpected Gemini response: " ++ kind
  | noCandidates => "Gemini returned no candidates."
  | malformed fault => "Malformed Gemini candidate: " ++ fault.message
  | blank => "Gemini returned an empty content string."

/-- The value of a field of something that should be an object, with a default for a missing one. -/
def fieldOf (name : String) (default : Json) : Json → Except Malformation Json
  | .obj fields => .ok ((Json.field? fields name).getD default)
  | v => .error (.noFields v.kindName)

/-- The first item of something that should be an array. It is not empty. -/
def firstOf : Json → Except Malformation Json
  | .arr (first :: _) => .ok first
  | .str (c :: _) => .ok (.str [c])
  | .obj _ => .error .noFirst
  | v => .error (.noItems v.kindName)

/-- The items of something that should be an array. A text has its characters, an object its names.
-/
def itemsOf : Json → Except Malformation (List Json)
  | .arr items => .ok items
  | .str s => .ok (s.map fun c => .str [c])
  | .obj fields => .ok (fields.map fun entry => .str entry.1)
  | v => .error (.noSequence v.kindName)

/-- The values that the parts give as their texts. -/
def partTexts : List Json → Except Malformation (List Json)
  | [] => .ok []
  | part :: parts => do
    let first ← fieldOf "text" (.str []) part
    let rest ← partTexts parts
    return first :: rest

/-- The texts from a position on, one after the other. -/
def joinTexts (position : Nat) : List Json → Except Malformation Text
  | [] => .ok []
  | .str s :: rest => (joinTexts (position + 1) rest).map (s ++ ·)
  | v :: _ => .error (.noText position v.kindName)

/-- The text of the first of some candidates. -/
def candidateText (candidates : Json) : Except Malformation Text := do
  let candidate ← firstOf candidates
  let content ← fieldOf "content" (.obj []) candidate
  let parts ← fieldOf "parts" (.arr []) content
  let items ← itemsOf parts
  let texts ← partTexts items
  joinTexts 0 texts

/-- The text of an answer. -/
def answerText : Json → Except AnswerFault Text
  | .obj fields =>
    let candidates := (Json.field? fields "candidates").getD (.arr [])
    if candidates.isEmpty then .error .noCandidates
    else
      match candidateText candidates with
      | .error fault => .error (.malformed fault)
      | .ok text => if Text.isAllBlank text then .error .blank else .ok text
  | v => .error (.unexpected v.kindName)

end ExamPress.Extraction
