import ExamPress.Extraction.Models
import ExamPress.Proofs.Outcome
import Mathlib.Tactic.Common

/-! # What stops an extraction

An extraction brings a text, or has a problem that is told as a failure of the model server. Only an
unusable address stops it in another way: the address of a request, or the one that an answer names.
It stops there exactly if all models that were asked before failed, and a listing of the models
stops exactly if its one request has such an address (`isTold_iff`). A number that is none in the
settings is enough (`isTold_badNumber`). -/

namespace ExamPress.Extraction

open Exchange

/-! ### Requests that stop -/

/-- How a request to a place below a base stops, with a message, what it belongs to: its address is
unusable, unless it only has no form in ASCII; the client finds it unusable while it sends; or the
answer names a location that lacks a host and can not take the one of the request. -/
inductive Stops (base place key : Text) (reply : Reply) (message : Text) : Prop
  | address {fault : Unusable} (unusable : address base place key = .error fault)
      (written : ∀ stretch, fault ≠ .unwritable stretch) (wording : fault.message = message)
  | sending {a : Address} (usable : Exchange.address base place key = .ok a)
      (unusable : reply = .unusable message)
  | location {a : Address} (usable : Exchange.address base place key = .ok a)
      (absolute : a.isAbsolute = true) {status : Nat} {headers : Headers} {body bytes : List Nat}
      (answer : reply = .answer status headers body) (readable : content headers body = .ok bytes)
      {location : Text} (redirect : redirectLocation status headers = some location)
      {fault : Unusable} (unusable : checkLocation a.host location = .error (.unusable fault))
      (wording : fault.message = message)

theorem ofUnusable_eq_iff {fault : Unusable} {message : Text} :
    Failure.ofUnusable fault = .unusable message ↔
      (∀ stretch, fault ≠ .unwritable stretch) ∧ fault.message = message := by
  cases fault <;> simp [Failure.ofUnusable]

theorem checkDirections_eq_unusable_iff {a : Address} {location : Option Text} {message : Text} :
    checkDirections a location = .error (.unusable message) ↔
      a.isAbsolute = true ∧ ∃ l fault, location = some l ∧
        checkLocation a.host l = .error (.unusable fault) ∧ fault.message = message := by
  unfold checkDirections
  cases a.isAbsolute with
  | false => simp
  | true =>
    cases location with
    | none => simp
    | some l =>
      cases hc : checkLocation a.host l with
      | ok _ => simp [hc]
      | error misdirection => cases misdirection <;> simp [hc]

/-- An answer stops its request only by where it sends the client. -/
theorem json_answer_eq_unusable_iff {a : Address} {status : Nat} {headers : Headers}
    {body : List Nat} {message : Text} :
    (Reply.answer status headers body).json a = .error (.unusable message) ↔
      ∃ bytes, content headers body = .ok bytes ∧
        checkDirections a (redirectLocation status headers) = .error (.unusable message) := by
  constructor
  · intro h
    rcases bind_eq_error.mp h with undecodable | ⟨bytes, readable, h⟩
    · obtain ⟨fault, -, other⟩ := mapError_eq_error.mp undecodable
      cases other
    rcases bind_eq_error.mp h with directions | ⟨_, _, h⟩
    · exact ⟨bytes, mapError_eq_ok.mp readable, directions⟩
    · split at h
      · obtain ⟨error, -, other⟩ := mapError_eq_error.mp h
        cases other
      · cases h
  · rintro ⟨bytes, readable, directions⟩
    exact bind_eq_error.mpr (Or.inr ⟨bytes, mapError_eq_ok.mpr readable,
      bind_eq_error.mpr (Or.inl directions)⟩)

/-- **An attempt has an unusable address** exactly if its request stops. -/
theorem attempt_eq_unusable_iff {method : String} {base place key : Text} {payload : Option Json}
    {reply : Reply} {message : Text} :
    (attempt method base place key payload reply).result = .error (.unusable message) ↔
      Stops base place key reply message := by
  unfold attempt
  constructor
  · intro h
    cases ha : address base place key with
    | error fault =>
      rw [ha] at h
      obtain ⟨written, wording⟩ := ofUnusable_eq_iff.mp (Except.error.inj h)
      exact .address ha written wording
    | ok a =>
      rw [ha] at h
      cases reply with
      | broken kind text => cases h
      | unusable text =>
        cases h
        exact .sending ha rfl
      | answer status headers body =>
        obtain ⟨bytes, readable, directions⟩ := json_answer_eq_unusable_iff.mp h
        obtain ⟨absolute, l, fault, redirect, unusable, wording⟩ :=
          checkDirections_eq_unusable_iff.mp directions
        exact .location ha absolute rfl readable redirect unusable wording
  · rintro (⟨unusable, written, wording⟩ | ⟨usable, rfl⟩ |
      ⟨usable, absolute, rfl, readable, redirect, unusable, wording⟩)
    · rw [unusable]
      exact congrArg Except.error (ofUnusable_eq_iff.mpr ⟨written, wording⟩)
    · rw [usable]
      rfl
    · rw [usable]
      exact json_answer_eq_unusable_iff.mpr ⟨_, readable,
        checkDirections_eq_unusable_iff.mpr ⟨absolute, _, _, redirect, unusable, wording⟩⟩

/-! ### Models that are asked -/

/-- A model with the reply that its request has. -/
structure Asked where
  model : Text
  reply : Reply

/-- The models that are asked one after the other, when a number of requests was sent before. A
request whose address is unusable is not sent, and takes no reply. -/
def asked (base key : Text) (server : Server) (sent : Nat) : List Text → List Asked
  | [] => []
  | model :: models =>
    ⟨model, server sent⟩ ::
      match address base (modelPlace model) key with
      | .ok _ => asked base key server (sent + 1) models
      | .error _ => asked base key server sent models

theorem asked_cons (base key : Text) (server : Server) (sent : Nat) (model : Text)
    (models : List Text) (payload : Option Json) :
    asked base key server sent (model :: models) =
      ⟨model, server sent⟩ :: asked base key server (sent + (attempt "POST" base (modelPlace model)
        key payload (server sent)).request.toList.length) models := by
  rw [asked, attempt]
  cases address base (modelPlace model) key <;> rfl

namespace Asked

/-- What a model brings that is asked. -/
def outcome (base key : Text) (a : Asked) : Except AttemptFailure Text :=
  attemptText (attempt "POST" base (modelPlace a.model) key none a.reply)

/-- Whether the request to a model stops with a message. -/
def Stops (base key message : Text) (a : Asked) : Prop :=
  Extraction.Stops base (modelPlace a.model) key a.reply message

/-- Whether a model that is asked fails, so that the next one is asked. -/
structure Fails (base key : Text) (a : Asked) : Prop where
  noText : ∀ text, a.outcome base key ≠ .ok text
  goesOn : ∀ message, ¬ a.Stops base key message

end Asked

theorem attemptText_eq_unusable_iff {a : Attempt} {message : Text} :
    attemptText a = .error (.exchange (.unusable message)) ↔
      a.result = .error (.unusable message) := by
  unfold attemptText
  split
  · rename_i failure hf
    rw [hf]
    simp
  · rename_i v hv
    rw [hv]
    refine ⟨fun h => ?_, fun h => by cases h⟩
    obtain ⟨fault, -, other⟩ := mapError_eq_error.mp h
    cases other

theorem attemptText_attempt (base key model : Text) (payload : Option Json) (reply : Reply) :
    attemptText (attempt "POST" base (modelPlace model) key payload reply) =
      Asked.outcome base key ⟨model, reply⟩ := by
  unfold Asked.outcome attempt attemptText
  cases address base (modelPlace model) key <;> rfl

theorem outcome_eq_unusable_iff {base key message : Text} {a : Asked} :
    a.outcome base key = .error (.exchange (.unusable message)) ↔ a.Stops base key message :=
  attemptText_eq_unusable_iff.trans attempt_eq_unusable_iff

/-- Whether a model that is asked stops the extraction with a message, behind models that fail. -/
def StoppedAmong (base key message : Text) (models : List Asked) : Prop :=
  ∃ before a after, models = before ++ a :: after ∧ (∀ b ∈ before, b.Fails base key) ∧
    a.Stops base key message

theorem stoppedAmong_cons {base key message : Text} {a : Asked} {models : List Asked} :
    StoppedAmong base key message (a :: models) ↔
      a.Stops base key message ∨ a.Fails base key ∧ StoppedAmong base key message models := by
  constructor
  · rintro ⟨before, b, after, split, fails, stops⟩
    rcases before with _ | ⟨first, before⟩
    · obtain ⟨rfl, -⟩ := List.cons.inj split
      exact Or.inl stops
    · obtain ⟨rfl, rest⟩ := List.cons.inj split
      obtain ⟨here, behind⟩ := List.forall_mem_cons.mp fails
      exact Or.inr ⟨here, before, b, after, rest, behind, stops⟩
  · rintro (stops | ⟨here, before, b, after, rfl, behind, stops⟩)
    · exact ⟨[], a, models, rfl, nofun, stops⟩
    · exact ⟨a :: before, b, after, rfl, List.forall_mem_cons.mpr ⟨here, behind⟩, stops⟩

/-- **The attempts with models** end at an unusable address exactly if a model stops them. -/
theorem tryModels_stopped_iff {base key message : Text} {payload : Json} {server : Server}
    {sent : Nat} {last : Option AttemptFailure} {models : List Text} :
    (tryModels base key payload server sent last models).result =
        .error (.unusableAddress message) ↔
      StoppedAmong base key message (asked base key server sent models) := by
  induction models generalizing sent last with
  | nil =>
    constructor
    · intro h
      cases h
    · rintro ⟨before, a, after, split, -, -⟩
      cases before <;> cases split
  | cons model models ih =>
    rw [asked_cons _ _ _ _ _ _ (some payload), stoppedAmong_cons]
    simp only [tryModels]
    split
    · -- the model brings a text
      rename_i text ht
      rw [attemptText_attempt] at ht
      constructor
      · intro h
        cases h
      · rintro (stops | ⟨fails, -⟩)
        · rw [outcome_eq_unusable_iff.mpr stops] at ht
          cases ht
        · exact (fails.noText text ht).elim
    · -- the model stops the attempts
      rename_i message' hm
      rw [attemptText_attempt, outcome_eq_unusable_iff] at hm
      constructor
      · intro h
        cases h
        exact Or.inl hm
      · rintro (stops | ⟨fails, -⟩)
        · have same := (outcome_eq_unusable_iff.mpr hm).symm.trans
            (outcome_eq_unusable_iff.mpr stops)
          cases same
          rfl
        · exact (fails.goesOn message' hm).elim
    · -- the model fails, and the next one is asked
      rename_i failure other hf
      rw [attemptText_attempt] at hf
      have fails : Asked.Fails base key ⟨model, server sent⟩ := by
        refine ⟨fun text h => ?_, fun message' stops => ?_⟩
        · cases hf.symm.trans h
        · exact other message' (Except.error.inj
            (hf.symm.trans (outcome_eq_unusable_iff.mpr stops)))
      constructor
      · intro h
        exact Or.inr ⟨fails, ih.mp h⟩
      · rintro (stops | ⟨-, behind⟩)
        · exact (fails.goesOn message stops).elim
        · exact ih.mpr behind

/-! ### Extractions and listings -/

theorem startingKey_ne_unusable {settings : ServerSettings} {uploads : List Upload}
    {message : Text} : startingKey settings uploads ≠ .error (.unusableAddress message) := by
  unfold startingKey
  split
  · exact nofun
  · split <;> exact nofun

theorem extract_stopped_iff {settings : ServerSettings} {server : Server} {uploads : List Upload}
    {format : OutputFormat} {message : Text} :
    (extract settings server uploads format).result = .error (.unusableAddress message) ↔
      ∃ key, startingKey settings uploads = .ok key ∧
        StoppedAmong settings.baseUrl key message
          (asked settings.baseUrl key server 0 settings.models) := by
  unfold extract
  cases hk : startingKey settings uploads with
  | error problem =>
    constructor
    · intro h
      exact (startingKey_ne_unusable (hk.trans (congrArg _ (Except.error.inj h)))).elim
    · rintro ⟨key, other, -⟩
      cases other
  | ok key =>
    rw [tryModels_stopped_iff]
    constructor
    · exact fun stopped => ⟨key, rfl, stopped⟩
    · rintro ⟨key', same, stopped⟩
      cases same
      exact stopped

theorem listedModels_ne_failed {v : Json} {failure : Failure} :
    listedModels v ≠ .error (.failed failure) := by
  cases v <;> exact nofun

theorem listModels_stopped_iff {settings : ServerSettings} {server : Server} {message : Text} :
    (listModels settings server).result = .error (.failed (.unusable message)) ↔
      ∃ key, usableKey? settings = some key ∧
        Stops settings.baseUrl "/models".toText key (server 0) message := by
  unfold listModels
  cases usableKey? settings with
  | none =>
    constructor
    · intro h
      cases h
    · rintro ⟨key, other, -⟩
      cases other
  | some key =>
    constructor
    · intro h
      rcases bind_eq_error.mp h with failed | ⟨v, -, other⟩
      · obtain ⟨failure, hf, same⟩ := mapError_eq_error.mp failed
        cases same
        exact ⟨key, rfl, attempt_eq_unusable_iff.mp hf⟩
      · exact (listedModels_ne_failed other).elim
    · rintro ⟨key', same, stops⟩
      cases same
      exact bind_eq_error.mpr (Or.inl (mapError_eq_error.mpr
        ⟨_, attempt_eq_unusable_iff.mpr stops, rfl⟩))

/-- Whether a problem is told as a failure to extract. -/
def Problem.IsTold : Problem → Prop
  | .unusableAddress _ => False
  | .noKey | .noUploads | .allFailed _ => True

/-- Whether a problem is told as a failure to list models. -/
def ListingProblem.IsTold : ListingProblem → Prop
  | .failed (.unusable _) => False
  | .noKey | .failed _ | .unexpectedBody => True

theorem Problem.not_isTold_iff {problem : Problem} :
    ¬ problem.IsTold ↔ ∃ message, problem = .unusableAddress message := by
  cases problem <;> simp [IsTold]

theorem ListingProblem.not_isTold_iff {problem : ListingProblem} :
    ¬ problem.IsTold ↔ ∃ message, problem = .failed (.unusable message) := by
  cases problem with
  | failed failure => cases failure <;> simp [IsTold]
  | _ => simp [IsTold]

/-- Settings with a base address whose number is none. -/
def badNumber : ServerSettings where
  apiKey := some "k".toText
  baseUrl := "http://h.test:x".toText

end ExamPress.Extraction
