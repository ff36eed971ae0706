import ExamPress.Json.Reader
import ExamPress.Table.Fence
import ExamPress.Text.Blank

/-! # Rows from text

A table comes as a JSON array, with or without code fences around it. Its items are kept as they
are; which of them are rows is decided when the sheet is written. -/

namespace ExamPress.Table

/-- Why a text is no table. -/
inductive Refusal where
  | unreadable (error : Json.ReadError)
  | notAnArray
deriving DecidableEq, Repr

namespace Refusal

/-- Whether the text has the wrong form, rather than a number beyond the limit. -/
def isFormatError : Refusal → Bool
  | unreadable (.tooManyDigits _) => false
  | _ => true

/-- The wording of a refusal. -/
def message : Refusal → String
  | unreadable (.tooManyDigits count) => (Json.ReadError.tooManyDigits count).message
  | unreadable error => "Invalid JSON format from AI: " ++ error.message
  | notAnArray => "Data is not in the expected array format"

end Refusal

/-- The text of the table inside a text: what is left without fences and blanks around. -/
def payload (s : Text) : Text := (removeFences s).strip

/-- The rows of a table. -/
def rows (s : Text) : Except Refusal (List Json) :=
  match Json.read (payload s) with
  | .error e => .error (.unreadable e)
  | .ok (.arr items) => .ok items
  | .ok _ => .error .notAnArray

end ExamPress.Table
