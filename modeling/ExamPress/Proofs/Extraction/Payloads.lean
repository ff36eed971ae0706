import ExamPress.Extraction.Run
import ExamPress.Proofs.Text.Base64

/-! # What the model server is sent

Each request of an extraction has the payload of its format and its uploads
(`payload_of_mem_extract`), and the payload tells them: the prompt, and then the media type and the
bytes of each upload, in order (`readPayload_payload`). -/

namespace ExamPress.Extraction

/-! ### Reading payloads -/

/-- The text of a part of a payload. -/
def readText (part : Json) : Option Text :=
  match part.get? "text" with
  | some (.str text) => some text
  | _ => none

/-- The media type and the bytes of a part of a payload. -/
def readUpload (part : Json) : Option (Text × List Nat) := do
  let data ← part.get? "inline_data"
  match data.get? "mime_type", data.get? "data" with
  | some (.str mediaType), some (.str digits) =>
    (Text.Base64.decode digits).map fun bytes => (mediaType, bytes)
  | _, _ => none

/-- The text that a payload begins with, and the media types and the bytes that follow. -/
def readPayload (payload : Json) : Option (Text × List (Text × List Nat)) :=
  match payload.get? "contents" with
  | some (.arr [content]) =>
    match content.get? "parts" with
    | some (.arr (first :: parts)) => do
      let text ← readText first
      let uploads ← parts.mapM readUpload
      return (text, uploads)
    | _ => none
  | _ => none

theorem readUpload_part {upload : Upload} (h : ∀ b ∈ upload.bytes, b < 256) :
    readUpload upload.part = some (upload.mediaType, upload.bytes) := by
  have read : readUpload upload.part =
      (Text.Base64.decode (Text.Base64.encode upload.bytes)).map fun bytes =>
        (upload.mediaType, bytes) := rfl
  rw [read, Text.Base64.decode_encode h, Option.map_some]

/-- **A payload** tells the prompt and the uploads. -/
theorem readPayload_payload (format : OutputFormat) {uploads : List Upload}
    (h : ∀ upload ∈ uploads, ∀ b ∈ upload.bytes, b < 256) :
    readPayload (payload format uploads) =
      some (format.prompt, uploads.map fun upload => (upload.mediaType, upload.bytes)) := by
  have parts : (uploads.map Upload.part).mapM readUpload =
      some (uploads.map fun upload => (upload.mediaType, upload.bytes)) := by
    induction uploads with
    | nil => rfl
    | cons upload uploads ih =>
      obtain ⟨first, others⟩ := List.forall_mem_cons.mp h
      rw [List.map_cons, List.mapM_cons, readUpload_part first, ih others]
      rfl
  have read : readPayload (payload format uploads) =
      ((uploads.map Upload.part).mapM readUpload).bind fun uploads =>
        some (format.prompt, uploads) := rfl
  rw [read, parts]
  rfl

/-! ### Requests -/

theorem payload_of_mem_tryModels {base key : Text} {payload : Json} {server : Exchange.Server}
    {sent : Nat} {last : Option AttemptFailure} {models : List Text} :
    ∀ q ∈ (tryModels base key payload server sent last models).requests,
      q.payload = some payload := by
  have sends (model : Text) (reply : Exchange.Reply) :
      ∀ q ∈ (Exchange.attempt "POST" base (modelPlace model) key (some payload)
        reply).request.toList, q.payload = some payload := by
    unfold Exchange.attempt
    split
    · exact nofun
    · exact List.forall_mem_singleton.mpr rfl
  induction models generalizing sent last with
  | nil => exact nofun
  | cons model models ih =>
    rw [tryModels]
    split
    · exact sends model _
    · exact sends model _
    · exact List.forall_mem_append.mpr ⟨sends model _, ih⟩

theorem payload_of_mem_extract {settings : ServerSettings} {server : Exchange.Server}
    {uploads : List Upload} {format : OutputFormat} :
    ∀ q ∈ (extract settings server uploads format).requests,
      q.payload = some (payload format uploads) := by
  unfold extract
  split
  · exact nofun
  · exact payload_of_mem_tryModels

end ExamPress.Extraction
