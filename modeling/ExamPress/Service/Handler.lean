import ExamPress.Service.Endpoint
import ExamPress.Service.Origin

/-! # Handling requests

A preflight request is answered at once. Any other goes to the endpoint at its path. A path that
differs from the one of an endpoint by slashes at its end is redirected there, and an endpoint
takes only its own method. The target of a request is an address; without scheme and host it is a
path below the root. -/

namespace ExamPress.Service

/-- The schemes under which the service is reached. -/
def schemes : List String := ["http", "ws", "https", "wss"]

/-- The path of an address below the root. -/
def pathBelowRoot (a : Exchange.Address) : Except Exchange.Unusable Text :=
  let path := Exchange.normalPath ("/".toText ++ a.path.dropWhile (· == .char '/'))
  let parts := [("path", path), ("query", a.query.getD [])]
  match parts.find? fun entry => Exchange.maxAddressLength < entry.2.length with
  | some (part, _) => .error (.partTooLong part)
  | none => .ok path

/-- Checks scheme, host and number of an address that has them. -/
def checkLocation (a : Exchange.Address) : Except Breakdown Unit := do
  let location ← (Text.Repertoire.ascii.check a.location).mapError .unencodable
  if !a.scheme.isAnyOf schemes then throw (.unknownScheme a.scheme)
  if location.contains ':' then
    let number := (location.dropWhile fun (c : CodePoint) => c != ':').drop 1
    let _ ← (Whole.read 10 number).mapError .illegalNumber

/-- Checks that the headers of a request have a form in ASCII. -/
def Request.checkHeaders (r : Request) : Except Breakdown Unit :=
  r.headers.forM fun (name, value) => do
    let _ ← (Text.Repertoire.ascii.check name).mapError .unencodable
    let _ ← (Text.Repertoire.ascii.check value).mapError .unencodable

/-- The path that a request asks for. Percent signs are resolved twice. -/
def Request.place (r : Request) : Except Breakdown Text := do
  let unusable (fault : Exchange.Unusable) := Breakdown.unusableAddress fault.message
  let a ← (Exchange.Address.ofText r.target).mapError unusable
  let path ← if a.isAbsolute then .ok a.path else (pathBelowRoot a).mapError unusable
  r.checkHeaders
  if a.isAbsolute then checkLocation a
  let path := if path.isEmpty then "/".toText else path
  return Text.Percent.decodeReplacing (Text.Percent.decodeReplacing path)

/-- The endpoint whose path is meant by a path with slashes at its end. -/
def meant? (place : Text) : Option Endpoint :=
  if place.endsWith "/".toText then Endpoint.ofPath? (Text.dropRightWhile (· == '/') place)
  else none

/-- How the service deals with a request that is no preflight request, for a path. -/
def route (settings : Settings) (server : Exchange.Server) (r : Request) (place : Text) :
    Handling :=
  match Endpoint.ofPath? place with
  | some endpoint =>
    if r.method = endpoint.method.toText then endpoint.handle settings server r
    else
      .respond ((Response.refusal 405 "Method Not Allowed".toText).withHeaders
        [("allow", endpoint.method.toText)])
  | none =>
    match meant? place with
    | some _ => .respond ⟨307, [], .empty⟩
    | none => .respond (.refusal 404 "Not Found".toText)

/-- How the service deals with a request. -/
def handle (settings : Settings) (server : Exchange.Server) (r : Request) : Handling :=
  match r.place with
  | .error breakdown => .breakDown breakdown
  | .ok place =>
    match preflight? r with
    | some preflight => .respond (preflightResponse preflight)
    | none =>
      let handling := route settings server r place
      ⟨handling.requests,
        handling.result.bind fun response => response.check.map (Response.forOrigin r)⟩

end ExamPress.Service
