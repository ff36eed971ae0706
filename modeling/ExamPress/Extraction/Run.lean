import ExamPress.Exchange.Reply
import ExamPress.Extraction.Answer
import ExamPress.Extraction.Upload
import ExamPress.Settings.Basic
import ExamPress.Text.Quoted

/-! # Extraction

The models of the settings are asked one after the other, in order. The first answer with a text
ends the extraction; an attempt that fails is logged and the next model is tried. Only an unusable
address ends the extraction at once, because it is no failure of a model. -/

namespace ExamPress.Extraction

open Exchange

/-- Why an attempt brings no text. -/
inductive AttemptFailure where
  | exchange (failure : Exchange.Failure)
  | answer (fault : AnswerFault)
deriving DecidableEq, Repr

namespace AttemptFailure

/-- The class of a failed attempt in the log. -/
def className : AttemptFailure → Text
  | exchange failure => failure.className
  | answer _ => "ValueError".toText

/-- The wording of a failed attempt. -/
def message : AttemptFailure → Text
  | exchange failure => failure.message
  | answer fault => fault.message.toText

end AttemptFailure

/-- The text that an attempt brings. -/
def attemptText (attempt : Attempt) : Except AttemptFailure Text :=
  match attempt.result with
  | .error failure => .error (.exchange failure)
  | .ok v => (answerText v).mapError .answer

/-- An event of an extraction. -/
inductive Event where
  | attempting (model : Text)
  | succeeded (model : Text) (length : Nat)
  | failed (model : Text) (failure : AttemptFailure)
deriving DecidableEq, Repr

/-- The line of the log for an event. -/
def Event.message : Event → Text
  | attempting model => "[EXTRACT] Attempting generation with model: ".toText ++ model
  | succeeded model length =>
    "[EXTRACT] [SUCCESS] ".toText ++ model ++ s!" returned {length} characters.".toText
  | failed model failure =>
    "[EXTRACT] [ERROR] Model ".toText ++ model ++
      " failed, retrying with next available... ".toText ++ failure.className ++ ": ".toText ++
      failure.message

/-- Why an extraction has no text. -/
inductive Problem where
  | noKey
  | noUploads
  | allFailed (last : Option AttemptFailure)
  | unusableAddress (message : Text)
deriving DecidableEq, Repr

/-- The wording of a problem. -/
def Problem.message : Problem → Text
  | noKey => "Please configure GEMINI_API_KEY.".toText
  | noUploads => "Please upload at least one image or PDF.".toText
  | allFailed _ =>
    "All model attempts failed. Please verify your API key and connection.".toText
  | unusableAddress message => message

/-- The outcome of an extraction: what is logged, what is sent, and how it ends. -/
structure Outcome where
  log : List Event
  requests : List Request
  result : Except Problem Text

/-- An outcome after further events and requests. -/
def Outcome.after (log : List Event) (requests : List Request) (o : Outcome) : Outcome :=
  ⟨log ++ o.log, requests ++ o.requests, o.result⟩

/-- The place of a model below the base address. -/
def modelPlace (model : Text) : Text := "/models/".toText ++ model ++ ":generateContent".toText

/-- The attempts with models, when a number of requests was sent before and an attempt may have
failed last. -/
def tryModels (base key : Text) (payload : Json) (server : Server) (sent : Nat)
    (last : Option AttemptFailure) : List Text → Outcome
  | [] => ⟨[], [], .error (.allFailed last)⟩
  | model :: models =>
    let attempt := attempt "POST" base (modelPlace model) key (some payload) (server sent)
    let requests := attempt.request.toList
    match attemptText attempt with
    | .ok text => ⟨[.attempting model, .succeeded model text.length], requests, .ok text⟩
    | .error (.exchange (.unusable message)) =>
      ⟨[.attempting model], requests, .error (.unusableAddress message)⟩
    | .error failure =>
      (tryModels base key payload server (sent + requests.length) (some failure) models).after
        [.attempting model, .failed model failure] requests

/-- The key of the settings, if it is set and not empty. -/
def usableKey? (settings : ServerSettings) : Option Text :=
  settings.apiKey.filter fun key => !key.isEmpty

/-- The key for an extraction of uploads, or why it can not be started. -/
def startingKey (settings : ServerSettings) (uploads : List Upload) : Except Problem Text :=
  match usableKey? settings with
  | none => .error .noKey
  | some key => if uploads.isEmpty then .error .noUploads else .ok key

/-- The extraction of the text of uploads for a format. -/
def extract (settings : ServerSettings) (server : Server) (uploads : List Upload)
    (format : OutputFormat) : Outcome :=
  match startingKey settings uploads with
  | .error problem => ⟨[], [], .error problem⟩
  | .ok key => tryModels settings.baseUrl key (payload format uploads) server 0 none settings.models

/-- Why an extraction for a word is refused. -/
inductive Refusal where
  | problem (p : Problem)
  | unknownFormat (word : Text)
deriving DecidableEq, Repr

/-- The wording of a refusal. -/
def Refusal.message : Refusal → Text
  | problem p => p.message
  | unknownFormat word => Text.Quoted.quote word

/-- The format that a word asks for. A word without a format is refused last, after all that keeps
the extraction from being started. -/
def requestedFormat (settings : ServerSettings) (uploads : List Upload) (word : Text) :
    Except Refusal OutputFormat :=
  match OutputFormat.ofWord? word with
  | some format => .ok format
  | none =>
    match startingKey settings uploads with
    | .error problem => .error (.problem problem)
    | .ok _ => .error (.unknownFormat word)

end ExamPress.Extraction
