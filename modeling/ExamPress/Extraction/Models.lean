import ExamPress.Extraction.Run

/-! # Models

The models that the server offers for a key. -/

namespace ExamPress.Extraction

open Exchange

/-- Why the models can not be listed. -/
inductive ListingProblem where
  | noKey
  | failed (failure : Exchange.Failure)
  | unexpectedBody
deriving DecidableEq, Repr

/-- The wording of a problem. An unusable address is told as it is. -/
def ListingProblem.message : ListingProblem → Text
  | noKey => "No Gemini API key configured.".toText
  | failed (.unusable message) => message
  | failed failure => "Failed to list models: ".toText ++ failure.message
  | unexpectedBody => "Failed to list models: unexpected response body.".toText

/-- A listing: what is sent, and the models. -/
structure Listing where
  requests : List Request
  result : Except ListingProblem Json

/-- The models that the body of an answer lists. -/
def listedModels : Json → Except ListingProblem Json
  | .obj fields => .ok ((Json.field? fields "models").getD (.arr []))
  | _ => .error .unexpectedBody

/-- The listing of the models of a server. -/
def listModels (settings : ServerSettings) (server : Server) : Listing :=
  match usableKey? settings with
  | none => ⟨[], .error .noKey⟩
  | some key =>
    let attempt := attempt "GET" settings.baseUrl "/models".toText key none (server 0)
    ⟨attempt.request.toList, (attempt.result.mapError .failed).bind listedModels⟩

end ExamPress.Extraction
