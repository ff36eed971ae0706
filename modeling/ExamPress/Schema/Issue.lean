import ExamPress.Json.Writer

/-! # Issues

What a checked value may lack, and where. An issue has a place, which is a path of names and
positions from the outermost value, and a kind, which has a code and a wording. -/

namespace ExamPress.Schema

/-- A step from a value to a part of it. -/
inductive PathStep where
  | name (name : Text)
  | index (index : Nat)
deriving DecidableEq, Repr

/-- What is wrong with a value. -/
inductive IssueKind where
  | missing
  | notText
  | notNumber
  | notNumeral
  | notBoolean
  | notBooleanWord
  | notList
  | notObject (record : String)
  | noFields
  | notChoice (choices : String)
  | noTag
  | unknownTag (tag : Text)
  | invalidJson
  | notUpload
deriving DecidableEq, Repr

/-- The code of an issue. -/
def IssueKind.code : IssueKind → String
  | missing => "missing"
  | notText => "string_type"
  | notNumber => "float_type"
  | notNumeral => "float_parsing"
  | notBoolean => "bool_type"
  | notBooleanWord => "bool_parsing"
  | notList => "list_type"
  | notObject _ => "model_type"
  | noFields => "model_attributes_type"
  | notChoice _ => "literal_error"
  | noTag => "union_tag_not_found"
  | unknownTag _ => "union_tag_invalid"
  | invalidJson => "json_invalid"
  | notUpload => "value_error"

/-- The wording of an issue. -/
def IssueKind.message : IssueKind → Text
  | missing => "Field required".toText
  | notText => "Input should be a valid string".toText
  | notNumber => "Input should be a valid number".toText
  | notNumeral => "Input should be a valid number, unable to parse string as a number".toText
  | notBoolean => "Input should be a valid boolean".toText
  | notBooleanWord => "Input should be a valid boolean, unable to interpret input".toText
  | notList => "Input should be a valid list".toText
  | notObject record => ("Input should be a valid dictionary or instance of " ++ record).toText
  | noFields => "Input should be a valid dictionary or object to extract fields from".toText
  | notChoice choices => ("Input should be " ++ choices).toText
  | noTag => "Unable to extract tag using discriminator 'type'".toText
  | unknownTag tag =>
    "Input tag '".toText ++ tag ++
      "' found using 'type' does not match any of the expected tags: 'text', 'formula'".toText
  | invalidJson => "JSON decode error".toText
  | notUpload => "Value error, Expected UploadFile, received: <class 'str'>".toText

/-- An issue at a place. -/
structure Issue where
  path : List PathStep
  kind : IssueKind
deriving DecidableEq, Repr

/-- The issue seen from the value around. -/
def Issue.inside (step : PathStep) (issue : Issue) : Issue := ⟨step :: issue.path, issue.kind⟩

/-- The value at the end of a path. -/
def valueAt? (v : Json) : List PathStep → Option Json
  | [] => some v
  | .name name :: path =>
    match v with
    | .obj fields =>
      ((fields.find? fun entry => entry.1 = name).map Prod.snd).bind (valueAt? · path)
    | _ => none
  | .index index :: path =>
    match v with
    | .arr items => items[index]?.bind (valueAt? · path)
    | _ => none

/-- What an issue with a value is about: the part at its place, or the part that lacks a field. -/
def Issue.subject (source : Json) (issue : Issue) : Json :=
  let place := if issue.kind = .missing then issue.path.dropLast else issue.path
  (valueAt? source place).getD .null

/-- A checked value, or all that is wrong with it. -/
abbrev Checked (α : Type) := Except (List Issue) α

namespace Checked

/-- A single issue with the value itself. -/
def fail {α : Type} (kind : IssueKind) : Checked α := .error [⟨[], kind⟩]

/-- A checked part, seen from the value around. -/
def inside {α : Type} (step : PathStep) (part : Checked α) : Checked α :=
  part.mapError (List.map (Issue.inside step))

/-- Two checked parts together: the issues of both, in order. -/
def both {α β : Type} (first : Checked α) (second : Checked β) : Checked (α × β) :=
  match first, second with
  | .ok a, .ok b => .ok (a, b)
  | .error issues, .ok _ => .error issues
  | .ok _, .error issues => .error issues
  | .error issues, .error more => .error (issues ++ more)

end Checked

end ExamPress.Schema
