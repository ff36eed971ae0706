import ExamPress.Conversion.Product
import ExamPress.Exchange.Reply
import ExamPress.Form.Body
import ExamPress.Schema.Issue

/-! # Messages of the service

What the service is asked, and what it answers. Names of headers are in lower case. -/

namespace ExamPress.Service

/-- A request. The target is the address that is asked for, or its path. -/
structure Request where
  method : Text
  target : Text
  headers : List (Text × Text) := []
  body : List Nat := []
deriving Repr

/-- The value of a header. -/
def Request.header? (r : Request) (name : String) : Option Text :=
  (r.headers.find? fun header => Text.lowerAscii header.1 = name.toText).map Prod.snd

/-- The body of a response. -/
inductive ResponseBody where
  | empty
  | plain (text : String)
  | json (value : Json)
  | download (content : Content)

/-- A response. -/
structure Response where
  status : Nat
  headers : List (String × Text) := []
  body : ResponseBody

/-- The media type of a body. -/
def ResponseBody.mediaType? : ResponseBody → Option String
  | empty => none
  | plain _ => some "text/plain; charset=utf-8"
  | json _ => some "application/json"
  | download content => some content.mediaType

namespace Response

/-- The value of a header. -/
def header? (r : Response) (name : String) : Option Text :=
  (r.headers.find? fun header => header.1 = name).map Prod.snd

/-- A response with further headers. -/
def withHeaders (headers : List (String × Text)) (r : Response) : Response :=
  { r with headers := r.headers ++ headers }

/-- A response with an object. -/
def ofFields (status : Nat) (fields : List (String × Json)) : Response :=
  ⟨status, [], .json (.obj (fields.map fun (name, value) => (name.toText, value)))⟩

/-- A response that says what is wrong. -/
def refusal (status : Nat) (detail : Text) : Response :=
  ofFields status [("detail", .str detail)]

/-- The JSON form of a step of a path. -/
def stepJson : Schema.PathStep → Json
  | .name name => .str name
  | .index index => .int index

/-- The JSON form of an issue with the body of a request, and of what it is about. -/
def issueJson (source : Json) (issue : Schema.Issue) : Json :=
  .obj [("type".toText, .str issue.kind.code.toText),
    ("loc".toText, .arr ((.name "body".toText :: issue.path).map stepJson)),
    ("msg".toText, .str issue.kind.message),
    ("input".toText, issue.subject source)]

/-- A response that lists the issues with the body of a request. -/
def ofIssues (source : Json) (issues : List Schema.Issue) : Response :=
  ofFields 422 [("detail", .arr (issues.map (issueJson source)))]

end Response

/-- Why a request is left without a response. -/
inductive Breakdown where
  | unusableAddress (message : Text)
  | unknownScheme (scheme : Text)
  | illegalNumber (fault : Whole.Fault)
  | unreadableTable (error : Json.ReadError)
  | tallTable (row : Nat)
  | undecodable (stretch : Text.Malformed)
  | unencodable (fault : Text.Unencodable)
  | unserializable (fault : Text.Unencodable)
  | notFinite
deriving DecidableEq, Repr

/-- The wording of a breakdown. -/
def Breakdown.message : Breakdown → Text
  | unusableAddress message => message
  | unknownScheme scheme => Text.Quoted.quote scheme
  | illegalNumber fault => fault.message
  | unreadableTable error => error.message.toText
  | tallTable row => (Table.Fault.tooTall row).message
  | undecodable stretch => stretch.message.toText
  | unencodable fault => fault.message
  | unserializable fault =>
    "Error serializing to JSON: UnicodeEncodeError: ".toText ++ fault.message
  | notFinite => "Out of range float values are not JSON compliant".toText

/-- How the service deals with a request: what is sent to the model server, and the response. -/
structure Handling where
  requests : List Exchange.Request
  result : Except Breakdown Response

/-- A response for which nothing is sent. -/
def Handling.respond (response : Response) : Handling := ⟨[], .ok response⟩

/-- A request that is left without a response before anything is sent. -/
def Handling.breakDown (breakdown : Breakdown) : Handling := ⟨[], .error breakdown⟩

end ExamPress.Service
