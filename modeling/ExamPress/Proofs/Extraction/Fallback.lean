import ExamPress.Proofs.Extraction.Answers
import Mathlib.Tactic.Common

/-! # Falling back to the next model

The models are asked in order, each one once. The first good answer, a success whose body holds an
answer with a text, ends the extraction with this text; if no answer is good, all models were asked,
and the cause is the failure of the last one (`extract_fallback`). Only an answer that sends the
client to a location that lacks a host, and can not take the one of the request, ends the extraction
at once, so that the models left are not asked (`tryModels_of_unusableLocation`). -/

namespace ExamPress.Extraction

open Exchange

/-! ### Replies -/

/-- The JSON of a reply that succeeded. -/
def goodJson? : Reply → Option Json
  | .answer status headers body =>
    if isSuccess status then do
      let body ← (content headers body).toOption
      (Json.readBytes body).toOption
    else none
  | _ => none

/-- The text of a good reply: a success with a body that holds an answer with a text. -/
def goodText? (reply : Reply) : Option Text := do
  let v ← goodJson? reply
  (answerText v).toOption

/-- Whether a reply can come from an address and stops no extraction: it fails on the way, or it is
an answer from a host that names no location which needs a host and can not have one. -/
def IsRegular (place : Address) : Reply → Prop
  | .broken _ _ => True
  | .unusable _ => False
  | .answer status headers _ =>
    place.isAbsolute = true ∧ ∀ location fault, redirectLocation status headers = some location →
      checkLocation place.host location ≠ .error (.unusable fault)

/-- What the reply to a request to an address brings. -/
def replyText (place : Address) (reply : Reply) : Except AttemptFailure Text :=
  attemptText ⟨none, reply.json place⟩

theorem redirectLocation_of_isSuccess {status : Nat} (h : isSuccess status = true)
    (headers : Headers) : redirectLocation status headers = none := by
  refine if_neg fun redirect => ?_
  have success : 200 ≤ status ∧ status < 300 := by simpa [isSuccess] using h
  have code := redirect.1
  simp only [redirectCodes, List.mem_cons, List.not_mem_nil, or_false] at code
  omega

/-- Where a regular answer sends the client fails nothing, or only this answer. -/
theorem checkDirections_cases {place : Address} {status : Nat} {headers : Headers} {body : List Nat}
    (h : IsRegular place (.answer status headers body)) :
    checkDirections place (redirectLocation status headers) = .ok () ∨
      isSuccess status = false ∧ ∃ fault,
        checkDirections place (redirectLocation status headers) = .error (.misdirected fault) := by
  obtain ⟨absolute, suitable⟩ := h
  rw [checkDirections, absolute]
  cases hl : redirectLocation status headers with
  | none => exact Or.inl rfl
  | some location =>
    have failed : isSuccess status = false := Bool.eq_false_iff.mpr fun success => by
      rw [redirectLocation_of_isSuccess success] at hl
      cases hl
    cases hc : checkLocation place.host location with
    | ok _ => exact Or.inl (by simp [hc])
    | error misdirection =>
      cases misdirection with
      | unreadable fault => exact Or.inr ⟨failed, fault, by simp [hc]⟩
      | unusable fault => exact (suitable location fault hl hc).elim

theorem json_cases {place : Address} {reply : Reply} (h : IsRegular place reply) :
    (∃ v, goodJson? reply = some v ∧ reply.json place = .ok v) ∨
      (goodJson? reply = none ∧
        ∃ failure, reply.json place = .error failure ∧ ∀ message, failure ≠ .unusable message) := by
  cases reply with
  | broken kind message => exact Or.inr ⟨rfl, .broken kind message, rfl, fun _ h => by cases h⟩
  | unusable message => exact h.elim
  | answer status headers body =>
    rw [goodJson?, Reply.json]
    cases content headers body with
    | error fault =>
      exact Or.inr ⟨ite_self _, .undecodable fault, rfl, fun _ h => by cases h⟩
    | ok bytes =>
      rcases checkDirections_cases h with hd | ⟨failed, fault, hd⟩
      · cases isSuccess status with
        | false =>
          refine Or.inr ⟨rfl, ?_⟩
          simp only [Except.mapError, bind, Except.bind, hd]
          exact ⟨_, rfl, fun _ h => by cases h⟩
        | true =>
          simp only [Except.mapError, bind, Except.bind, hd, if_true, Except.toOption,
            Option.bind_some]
          cases Json.readBytes bytes with
          | error error => exact Or.inr ⟨rfl, .unreadable error, rfl, fun _ h => by cases h⟩
          | ok v => exact Or.inl ⟨v, rfl, rfl⟩
      · refine Or.inr ⟨by rw [failed]; rfl, .misdirected fault, ?_, fun _ h => by cases h⟩
        simp only [Except.mapError, bind, Except.bind, hd]

/-- **A regular reply** brings its text if it is good, and else fails without stopping the
extraction. -/
theorem replyText_cases {place : Address} {reply : Reply} (h : IsRegular place reply) :
    (∃ text, goodText? reply = some text ∧ replyText place reply = .ok text) ∨
      (goodText? reply = none ∧ ∃ failure, replyText place reply = .error failure ∧
        ∀ message, failure ≠ .exchange (.unusable message)) := by
  rw [goodText?, replyText, attemptText]
  rcases json_cases h with ⟨v, good, hv⟩ | ⟨good, failure, hf, other⟩
  · rw [good, hv]
    simp only [Option.bind_eq_bind, Option.bind_some]
    cases answerText v with
    | ok text => exact Or.inl ⟨text, rfl, rfl⟩
    | error fault => exact Or.inr ⟨rfl, .answer fault, rfl, fun _ h => by cases h⟩
  · rw [good, hf]
    exact Or.inr ⟨rfl, .exchange failure, rfl, fun message => by simpa using other message⟩

/-! ### Trials -/

/-- A trial of a model: where it is asked, and with which reply. -/
structure Trial where
  model : Text
  place : Address
  reply : Reply

namespace Trial

/-- What a trial brings. -/
def outcome (t : Trial) : Except AttemptFailure Text := replyText t.place t.reply

/-- The request of a trial. -/
def request (payload : Json) (t : Trial) : Request := ⟨"POST", t.place.write, some payload⟩

/-- What a trial logs: that it begins, and how it ends. -/
def events (t : Trial) : List Event :=
  match t.outcome with
  | .ok text => [.attempting t.model, .succeeded t.model text.length]
  | .error failure => [.attempting t.model, .failed t.model failure]

/-- Whether a trial can be made and does not stop the extraction. -/
structure Regular (base key : Text) (t : Trial) : Prop where
  place : address base (modelPlace t.model) key = .ok t.place
  reply : IsRegular t.place t.reply

end Trial

/-- The trials of models, with the replies of a server from one of them on. -/
def trials (places : Text → Address) (server : Server) (sent : Nat) (models : List Text) :
    List Trial :=
  (models.zipIdx sent).map fun (model, i) => ⟨model, places model, server i⟩

theorem trials_cons (places : Text → Address) (server : Server) (sent : Nat) (model : Text)
    (models : List Text) :
    trials places server sent (model :: models) =
      ⟨model, places model, server sent⟩ :: trials places server (sent + 1) models := rfl

section

variable {base key : Text} {payload : Json} {server : Server} {sent : Nat}

/-- The attempt of a trial sends its request, and brings what the trial brings. -/
theorem attempt_eq {t : Trial} (place : address base (modelPlace t.model) key = .ok t.place)
    (reply : server sent = t.reply) :
    attempt "POST" base (modelPlace t.model) key (some payload) (server sent) =
      ⟨some (t.request payload), t.reply.json t.place⟩ := by
  rw [attempt, place, reply, Trial.request]

theorem tryModels_of_ok {t : Trial} {text : Text}
    (place : address base (modelPlace t.model) key = .ok t.place) (reply : server sent = t.reply)
    (outcome : t.outcome = .ok text) (last : Option AttemptFailure) (models : List Text) :
    tryModels base key payload server sent last (t.model :: models) =
      ⟨t.events, [t.request payload], .ok text⟩ := by
  have brings : attemptText ⟨some (t.request payload), t.reply.json t.place⟩ = .ok text := outcome
  simp only [tryModels, attempt_eq place reply, brings, Trial.events, outcome, Option.toList_some]

theorem tryModels_of_error {t : Trial} {failure : AttemptFailure}
    (place : address base (modelPlace t.model) key = .ok t.place) (reply : server sent = t.reply)
    (outcome : t.outcome = .error failure)
    (other : ∀ message, failure ≠ .exchange (.unusable message))
    (last : Option AttemptFailure) (models : List Text) :
    tryModels base key payload server sent last (t.model :: models) =
      (tryModels base key payload server (sent + 1) (some failure) models).after
        t.events [t.request payload] := by
  have brings : attemptText ⟨some (t.request payload), t.reply.json t.place⟩ = .error failure :=
    outcome
  simp only [tryModels, attempt_eq place reply, brings, Trial.events, outcome, Option.toList_some,
    List.length_singleton]

/-- An answer that names an unusable location stops the extraction, whatever models are left. -/
theorem tryModels_of_unusableLocation {t : Trial}
    (place : address base (modelPlace t.model) key = .ok t.place) (absolute : t.place.isAbsolute)
    {status : Nat} {headers : Headers} {body bytes : List Nat}
    (reply : server sent = .answer status headers body)
    (readable : content headers body = .ok bytes) {location : Text}
    (redirect : redirectLocation status headers = some location) {fault : Unusable}
    (check : checkLocation t.place.host location = .error (.unusable fault))
    (last : Option AttemptFailure) (models : List Text) :
    tryModels base key payload server sent last (t.model :: models) =
      ⟨[.attempting t.model], [t.request payload], .error (.unusableAddress fault.message)⟩ := by
  have directions : checkDirections t.place (redirectLocation status headers) =
      .error (.unusable fault.message) := by
    simp [checkDirections, absolute, redirect, check]
  have brings : (Reply.answer status headers body).json t.place =
      .error (.unusable fault.message) := by
    simp only [Reply.json, readable, directions, Except.mapError, bind, Except.bind]
  simp only [tryModels, attempt, place, reply, brings, attemptText, Option.toList_some,
    Trial.request]

variable {places : Text → Address}

theorem tryModels_firstGood {models : List Text} {k : Nat} (hk : k < models.length)
    (regular : ∀ t ∈ (trials places server sent models).take (k + 1), t.Regular base key)
    {text : Text} (good : goodText? (server (sent + k)) = some text)
    (first : ∀ j < k, goodText? (server (sent + j)) = none) (last : Option AttemptFailure) :
    tryModels base key payload server sent last models =
      ⟨((trials places server sent models).take (k + 1)).flatMap Trial.events,
        ((trials places server sent models).take (k + 1)).map (Trial.request payload),
        .ok text⟩ := by
  induction models generalizing k sent last with
  | nil => cases hk
  | cons model models ih =>
    rw [trials_cons, List.take_succ_cons] at regular ⊢
    obtain ⟨here, behind⟩ := List.forall_mem_cons.mp regular
    rcases replyText_cases here.reply with ⟨text', good', outcome⟩ | ⟨bad, failure, outcome, other⟩
    · -- no reply in front of the first good one is good
      obtain rfl : k = 0 := by
        refine Nat.eq_zero_of_not_pos fun hpos => ?_
        have := first 0 hpos
        rw [Nat.add_zero, good'] at this
        cases this
      obtain rfl : text' = text := Option.some.inj (good'.symm.trans good)
      rw [tryModels_of_ok here.place rfl outcome]
      simp
    · rcases k with _ | k
      · cases bad.symm.trans good
      · rw [tryModels_of_error here.place rfl outcome other,
          ih (Nat.lt_of_succ_lt_succ hk) behind (by rwa [Nat.add_assoc, Nat.add_comm 1])
            (fun j hj => by
              rw [Nat.add_assoc, Nat.add_comm 1]
              exact first (j + 1) (Nat.succ_lt_succ hj))]
        simp [Outcome.after]

theorem tryModels_noneGood {models : List Text}
    (regular : ∀ t ∈ trials places server sent models, t.Regular base key)
    (bad : ∀ j < models.length, goodText? (server (sent + j)) = none)
    (last : Option AttemptFailure) :
    ∃ failures : List AttemptFailure,
      (trials places server sent models).map Trial.outcome = failures.map .error ∧
      tryModels base key payload server sent last models =
        ⟨(trials places server sent models).flatMap Trial.events,
          (trials places server sent models).map (Trial.request payload),
          .error (.allFailed (failures.getLast?.or last))⟩ := by
  induction models generalizing sent last with
  | nil => exact ⟨[], rfl, rfl⟩
  | cons model models ih =>
    rw [trials_cons] at regular ⊢
    obtain ⟨here, behind⟩ := List.forall_mem_cons.mp regular
    rcases replyText_cases here.reply with ⟨text, good, -⟩ | ⟨-, failure, outcome, other⟩
    · cases (bad 0 (Nat.succ_pos _)).symm.trans good
    · obtain ⟨failures, outcomes, run⟩ := ih behind (fun j hj => by
        rw [Nat.add_assoc, Nat.add_comm 1]
        exact bad (j + 1) (Nat.succ_lt_succ hj)) (some failure)
      refine ⟨failure :: failures, ?_, ?_⟩
      · rw [List.map_cons, List.map_cons, outcomes]
        exact congrArg (· :: _) outcome
      · rw [tryModels_of_error here.place rfl outcome other, run]
        rw [List.getLast?_cons]
        cases failures.getLast? <;> rfl

end

/-! ### Extractions -/

theorem extract_eq_tryModels {settings : ServerSettings} {key : Text}
    (hkey : settings.apiKey = some key) (hne : key ≠ []) {uploads : List Upload}
    (huploads : uploads ≠ []) (server : Server) (format : OutputFormat) :
    extract settings server uploads format =
      tryModels settings.baseUrl key (payload format uploads) server 0 none settings.models := by
  have usable : usableKey? settings = some key := by
    rw [usableKey?, hkey, Option.filter_some, if_pos (by simpa using hne)]
  rw [extract, startingKey, usable]
  simp [huploads]

theorem not_blank_of_answerText {v : Json} {text : Text} (h : answerText v = .ok text) :
    Text.isAllBlank text = false :=
  isAllBlank_eq_false_iff.mpr (answerText_eq_ok_iff.mp h).exists_visible

theorem not_blank_of_attemptText {attempt : Attempt} {text : Text}
    (h : attemptText attempt = .ok text) : Text.isAllBlank text = false := by
  unfold attemptText at h
  split at h
  · cases h
  · rename_i v _
    cases ha : answerText v with
    | error fault =>
      rw [ha] at h
      cases h
    | ok text' =>
      rw [ha] at h
      cases h
      exact not_blank_of_answerText ha

theorem not_blank_of_tryModels {base key : Text} {payload : Json} {server : Server} {sent : Nat}
    {last : Option AttemptFailure} {models : List Text} {text : Text}
    (h : (tryModels base key payload server sent last models).result = .ok text) :
    Text.isAllBlank text = false := by
  induction models generalizing sent last with
  | nil => cases h
  | cons model models ih =>
    simp only [tryModels] at h
    split at h
    · rename_i ha
      cases h
      exact not_blank_of_attemptText ha
    · cases h
    · exact ih h

/-- **A text that is extracted** is not blank. -/
theorem not_blank_of_extract {settings : ServerSettings} {server : Server} {uploads : List Upload}
    {format : OutputFormat} {text : Text}
    (h : (extract settings server uploads format).result = .ok text) :
    Text.isAllBlank text = false := by
  unfold extract at h
  split at h
  · cases h
  · exact not_blank_of_tryModels h

/-! ### Three models -/

/-- Settings with three models. -/
def threeModels : ServerSettings where
  apiKey := some "k".toText
  baseUrl := "https://h.test/v1".toText
  models := ["a".toText, "b".toText, "c".toText]

/-- The address of a model of these settings. -/
def placeOf (model : Text) : Address where
  scheme := "https".toText
  user := []
  host := "h.test".toText
  number := none
  path := "/v1/models/".toText ++ model ++ ":generateContent".toText
  query := some "key=k".toText
  fragment := none

theorem address_threeModels : ∀ model ∈ threeModels.models,
    address threeModels.baseUrl (modelPlace model) "k".toText = .ok (placeOf model) := by
  decide +kernel

/-- The answer of a model with a text. -/
def goodAnswer (text : Text) : Json :=
  .obj [("candidates".toText, .arr [.obj [("content".toText, .obj [("parts".toText,
    .arr [.obj [("text".toText, .str text)]])])]])]

/-- A reply with the answer of a model. -/
def replyWith (text : Text) : Reply := .answer 200 [] (Text.Utf8.encode (goodAnswer text).write)

/-- A good reply. -/
def goodReply : Reply := replyWith "Q1".toText

theorem goodText_goodReply : goodText? goodReply = some "Q1".toText := by decide +kernel

/-- A server that breaks the first request off, refuses the second, and answers the others well. -/
def recovering : Server
  | 0 => .broken "ConnectError".toText "refused".toText
  | 1 => .answer 503 [] []
  | _ => goodReply

/-- A server that is down. -/
def down : Server := fun _ => .answer 503 [] []

/-- A server that sends the first request to an address for mail, and answers the others well. -/
def redirecting : Server
  | 0 => .answer 302 [("location".toText, "mailto:x".toText)] []
  | _ => goodReply

/-- An image. -/
def photo : Upload := { bytes := [0], mediaType := "image/png".toText }

end ExamPress.Extraction
