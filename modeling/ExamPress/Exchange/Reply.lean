import ExamPress.Exchange.Address
import ExamPress.Exchange.Content
import ExamPress.Exchange.Status
import ExamPress.Json.Bytes

/-! # Replies

What becomes of a request: it fails on the way, it can not be sent because its address is unusable,
or it is answered with a status, headers and a body. A reply is good if it is an answer that
succeeded and whose body is JSON. Otherwise the first of these counts: the body can not be
decompressed, the address does not say where the answer comes from, the answer sends the client to a
location that is none, it is no success, and its body is no JSON.

An answer is here one whose body is loaded when the answer is made. When the body is still to be
read from a network, the request for the location is built first, and then a location that is none
counts before a body that can not be decompressed. -/

namespace ExamPress.Exchange

/-- A request that is sent. -/
structure Request where
  method : String
  address : Text
  payload : Option Json := none

/-- Method and address of a request. -/
def Request.line (r : Request) : Text := r.method.toText ++ " ".toText ++ r.address

/-- What becomes of a request. -/
inductive Reply where
  | broken (kind message : Text)
  | unusable (message : Text)
  | answer (status : Nat) (headers : Headers) (body : List Nat)
deriving DecidableEq, Repr

/-- The server, as the replies to the first, second, and each further request. -/
abbrev Server := Nat → Reply

/-- Why a request brings no JSON. -/
inductive Failure where
  | broken (kind message : Text)
  | unusable (message : Text)
  | unwritable (fault : Text.Unencodable)
  | undecodable (fault : Compression.Fault)
  | unknownScheme (address : Text)
  | misdirected (fault : Unusable)
  | rejected (status : Nat) (address : Text) (location : Option Text)
  | unreadable (error : Json.BytesError)
deriving DecidableEq, Repr

namespace Failure

/-- The failure for an address that can not be used. One that can not be written is a failure of its
request only. -/
def ofUnusable : Unusable → Failure
  | .unwritable fault => unwritable fault
  | fault => unusable fault.message

/-- The class of a failure in the log. -/
def className : Failure → Text
  | broken kind _ => kind
  | unusable _ => "InvalidURL".toText
  | unwritable _ => "UnicodeEncodeError".toText
  | undecodable _ => "DecodingError".toText
  | unknownScheme _ => "ValueError".toText
  | misdirected _ => "RemoteProtocolError".toText
  | rejected _ _ _ => "HTTPStatusError".toText
  | unreadable (.undecodable _) => "UnicodeDecodeError".toText
  | unreadable (.unreadable (.malformed _ _ _ _)) => "JSONDecodeError".toText
  | unreadable (.unreadable (.tooManyDigits _)) => "ValueError".toText

/-- The page that explains a status code. -/
def statusPage (status : Nat) : String :=
  s!"https://developer.mozilla.org/en-US/docs/Web/HTTP/Status/{status}"

/-- The wording of a failure. -/
def message : Failure → Text
  | broken _ message => message
  | unusable message => message
  | unwritable fault => fault.message
  | undecodable fault => fault.message.toText
  | unknownScheme address => "unknown url type: ".toText ++ Text.Quoted.quote address
  | misdirected fault => "Invalid URL in location header: ".toText ++ fault.message ++ ".".toText
  | rejected status address location =>
    s!"{statusClass status} '{status} {reasonPhrase status}' for url '".toText ++ address ++
      "'\n".toText ++
      (match location with
        | some location => "Redirect location: '".toText ++ location ++ "'\n".toText
        | none => []) ++
      ("For more information check: " ++ statusPage status).toText
  | unreadable error => error.message

end Failure

/-- The location that the headers of an answer name, if its status sends the client there. -/
def redirectLocation (status : Nat) (headers : Headers) : Option Text :=
  let locations := headers.all "location"
  if status ∈ redirectCodes ∧ !locations.isEmpty then
    some (Text.joinWith ", ".toText locations)
  else none

/-- Checks where an answer comes from and where it sends the client. -/
def checkDirections (address : Address) (location : Option Text) : Except Failure Unit :=
  if !address.isAbsolute then .error (.unknownScheme address.write)
  else
    match location.map (checkLocation address.host) with
    | none | some (.ok ()) => .ok ()
    | some (.error (.unreadable fault)) => .error (.misdirected fault)
    | some (.error (.unusable fault)) => .error (.unusable fault.message)

/-- The JSON of a good reply to a request to an address. -/
def Reply.json (address : Address) : Reply → Except Failure Json
  | broken kind message => .error (.broken kind message)
  | unusable message => .error (.unusable message)
  | answer status headers body => do
    let body ← (content headers body).mapError .undecodable
    let location := redirectLocation status headers
    checkDirections address location
    if isSuccess status then (Json.readBytes body).mapError .unreadable
    else .error (.rejected status address.write location)

/-- An attempt to get JSON: the request, if it is sent, and what it brings. -/
structure Attempt where
  request : Option Request
  result : Except Failure Json

/-- The attempt to get JSON from a place below a base, with a key, when a request that is sent has a
given reply. -/
def attempt (method : String) (base place key : Text) (payload : Option Json) (reply : Reply) :
    Attempt :=
  match address base place key with
  | .error fault => ⟨none, .error (.ofUnusable fault)⟩
  | .ok address => ⟨some ⟨method, address.write, payload⟩, reply.json address⟩

end ExamPress.Exchange
