import ExamPress.Extraction.Upload
import ExamPress.Schema.Issue
import ExamPress.Service.Message

/-! # Requests with uploads

A request with uploads is a form with at least one file. Its fields `format` and `file_name` may be
missing, and count as missing if they are empty. Only images and PDF files are taken; the first
upload of another type is named. -/

namespace ExamPress.Service

open Extraction Schema

/-- Uploads, the format they are sent for, and the name that is asked for. -/
structure Submission where
  uploads : List Upload
  format : OutputFormat
  fileName : Option Text
deriving DecidableEq, Repr

/-- What the media types of uploads start with. -/
def acceptedTypes : List String := ["image/", "application/pdf"]

/-- Whether an upload is an image or a PDF file by its media type. -/
def isAccepted (upload : Upload) : Bool :=
  acceptedTypes.any fun start => upload.mediaType.startsWith start.toText

/-- The uploads among some values from a position on. Each value must be a file. -/
def uploadsFrom (position : Nat) : List Form.Value → Checked (List Upload)
  | [] => .ok []
  | value :: values =>
    let upload : Checked Upload :=
      match value with
      | .file file => .ok ⟨file.bytes, file.mediaType.getD [], file.name⟩
      | .text _ => .fail .notUpload
    (upload.inside (.index position)).both (uploadsFrom (position + 1) values) |>.map
      fun (upload, uploads) => upload :: uploads

/-- The uploads of a form. There must be at least one. -/
def formUploads (form : Form) : Checked (List Upload) :=
  Checked.inside (.name "files".toText)
    (match form.values "files" with
      | [] => .fail .missing
      | values => uploadsFrom 0 values)

/-- The text that a form has for a name, unless it is empty. The last one counts. -/
def formText (form : Form) (name : String) : Checked (Option Text) :=
  match (form.values name).getLast? with
  | none | some (.text []) => .ok none
  | some (.text content) => .ok (some content)
  | some (.file _) => Checked.inside (.name name.toText) (.fail .notText)

/-- The submission of uploads for the word of a format, or the response that refuses it. -/
def Submission.check (uploads : List Upload) (word : Text) (fileName : Option Text) :
    Except Response Submission :=
  match OutputFormat.ofWord? word with
  | none => .error (.refusal 400 ("Unsupported format '".toText ++ word ++ "'.".toText))
  | some format =>
    match uploads.find? fun upload => !isAccepted upload with
    | some upload =>
      .error (.refusal 400 ("'".toText ++ upload.name ++ "' is not an image or PDF.".toText))
    | none => .ok { uploads, format, fileName }

/-- The submission that a form makes with a name that is asked for, or the response that refuses
it. -/
def Submission.ofForm (form : Form) (fileName : Checked (Option Text)) :
    Except Response Submission :=
  match (formUploads form).both ((formText form "format").both fileName) with
  | .error issues => .error (.ofIssues .null issues)
  | .ok (uploads, word, fileName) =>
    Submission.check uploads (word.getD OutputFormat.document.word.toText) fileName

/-- The form in the body of a request, or the response that refuses it. -/
def Request.form (r : Request) : Except Response Form :=
  (Form.ofBody ((r.header? "content-type").getD []) r.body).mapError fun fault =>
    .refusal 400 fault.message.toText

end ExamPress.Service
