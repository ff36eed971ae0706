import ExamPress.Json.Bytes
import ExamPress.Schema.Check
import ExamPress.Service.Message

/-! # Requests to make a product

A request to make a product of a text has a JSON object as its body, with the text and possibly a
name. The body is read as JSON only if its media type says so; a body of another type is a text, and
no object. -/

namespace ExamPress.Service

open Schema

/-- What a product is made of: a text, and the name that is asked for. -/
structure Generation where
  text : Text
  fileName : Option Text
deriving DecidableEq, Repr

/-- A generation from its JSON form. -/
def Generation.ofJson : Json → Checked Generation
  | .obj entries =>
    (required entries "text" Schema.text).both
      (field entries "file_name" none (optional Schema.text))
    |>.map fun (text, fileName) => { text, fileName }
  | _ => .fail .noFields

/-- Whether a media type is JSON. Parameters after a semicolon do not matter. -/
def isJsonType (type : Text) : Bool :=
  let essence := Text.lowerAscii (Text.strip (type.takeWhile (· != ';')))
  match Text.splitOn '/' essence with
  | [main, kind] =>
    main = "application".toText ∧ (kind = "json".toText ∨ Text.endsWith kind "+json".toText)
  | _ => false

/-- Why a request asks for no generation: its body is told what is wrong with it, or it is neither
JSON nor a text. -/
inductive GenerationProblem where
  | refused (response : Response)
  | undecodable (stretch : Text.Malformed)

/-- The JSON in the body of a request. A body of another media type is a text. -/
def Request.json (r : Request) : Except GenerationProblem Json :=
  if r.body.isEmpty then .error (.refused (.ofIssues .null [⟨[], .missing⟩]))
  else if (r.header? "content-type").any isJsonType then
    match Json.readBytes r.body with
    | .ok value => .ok value
    | .error (.unreadable (.malformed _ _ _ position)) =>
      .error (.refused (.ofIssues .null [⟨[.index position], .invalidJson⟩]))
    | .error _ => .error (.refused (.refusal 400 "There was an error parsing the body".toText))
  else
    match Text.Utf8.decode r.body with
    | .ok text => .ok (.str text)
    | .error stretch => .error (.undecodable stretch)

/-- The generation that a request asks for. -/
def Request.generation (r : Request) : Except GenerationProblem Generation := do
  let value ← r.json
  (Generation.ofJson value).mapError fun issues => .refused (.ofIssues value issues)

end ExamPress.Service
