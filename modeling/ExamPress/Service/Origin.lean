import ExamPress.Service.Message

/-! # Origins

Pages of two origins may use the service. Every response to a request with an origin says that
credentials are allowed, and repeats the origin if it is one of the two. A browser asks in advance
with a preflight request whether it may send a request; origin and method decide, headers never. A
page may not reach into a private network. -/

namespace ExamPress.Service

/-- The origins whose pages may use the service. -/
def allowedOrigins : List String := ["http://localhost:5173", "http://127.0.0.1:5173"]

/-- The methods that a page may use. -/
def allowedMethods : List String := ["DELETE", "GET", "HEAD", "OPTIONS", "PATCH", "POST", "PUT"]

/-- Whether an origin is allowed. -/
def isAllowedOrigin (origin : Text) : Bool := allowedOrigins.any fun o => o.toText = origin

/-- The headers of a response to a request from an origin. -/
def originHeaders (origin : Text) : List (String × Text) :=
  ("access-control-allow-credentials", "true".toText) ::
    if isAllowedOrigin origin then [("access-control-allow-origin", origin)] else []

/-- What a preflight request asks for. -/
structure Preflight where
  origin : Text
  method : Text
  privateNetwork : Bool
deriving DecidableEq, Repr

/-- What a request asks for, if it is a preflight request. -/
def preflight? (r : Request) : Option Preflight :=
  match r.header? "origin", r.header? "access-control-request-method" with
  | some origin, some method =>
    if r.method = "OPTIONS".toText then
      some ⟨origin, method, (r.header? "access-control-request-private-network").isSome⟩
    else none
  | _, _ => none

/-- The response to a preflight request. -/
def preflightResponse (p : Preflight) : Response :=
  let failures :=
    (if isAllowedOrigin p.origin then [] else ["origin"]) ++
      (if allowedMethods.any fun m => m.toText = p.method then [] else ["method"]) ++
      (if p.privateNetwork then ["private-network"] else [])
  let (status, text) :=
    if failures.isEmpty then (200, "OK")
    else (400, "Disallowed CORS " ++ String.intercalate ", " failures)
  ⟨status, originHeaders p.origin, .plain text⟩

/-- A response with the headers for the origin of its request. -/
def Response.forOrigin (r : Request) (response : Response) : Response :=
  match r.header? "origin" with
  | some origin => response.withHeaders (originHeaders origin)
  | none => response

end ExamPress.Service
