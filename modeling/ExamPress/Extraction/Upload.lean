import ExamPress.Extraction.Prompt
import ExamPress.Json.Basic
import ExamPress.Text.Base64

/-! # Uploads

The images and PDF files that a text is extracted from, and how they are sent to a model: the prompt
first, and then one part for each upload with its media type and its bytes in base 64. -/

namespace ExamPress.Extraction

/-- An uploaded file. -/
structure Upload where
  bytes : List Nat
  mediaType : Text
  name : Text := []
deriving DecidableEq, Repr

/-- The part of a request that holds an upload. -/
def Upload.part (upload : Upload) : Json :=
  .obj [("inline_data".toText, .obj [
    ("mime_type".toText, .str upload.mediaType),
    ("data".toText, .str (Text.Base64.encode upload.bytes))])]

/-- The part of a request that holds a text. -/
def textPart (text : Text) : Json := .obj [("text".toText, .str text)]

/-- The payload of a request to extract the text of uploads. -/
def payload (format : OutputFormat) (uploads : List Upload) : Json :=
  .obj [("contents".toText, .arr [.obj [
    ("role".toText, .str "user".toText),
    ("parts".toText, .arr (textPart format.prompt :: uploads.map Upload.part))]])]

end ExamPress.Extraction
