import ExamPress.Conversion.Run
import ExamPress.Extraction.Models
import ExamPress.Service.Generation
import ExamPress.Service.Submission

/-! # Endpoints

The endpoints of the service and what each of them does. A text is extracted, made into a product,
or both; a problem of the model server is a bad gateway, a table that is none can not be processed,
and a product that can not be made is an error of the service. -/

namespace ExamPress.Service

/-- An endpoint. -/
inductive Endpoint where
  | welcome
  | models
  | extract
  | generateDocument
  | generateWorkbook
  | convert
deriving DecidableEq, Repr

namespace Endpoint

/-- All endpoints. -/
def all : List Endpoint :=
  [welcome, models, extract, generateDocument, generateWorkbook, convert]

/-- The path of an endpoint. -/
def path : Endpoint → String
  | welcome => "/"
  | models => "/models"
  | extract => "/extract"
  | generateDocument => "/generate-docx"
  | generateWorkbook => "/generate-excel"
  | convert => "/convert"

/-- The method of an endpoint. -/
def method : Endpoint → String
  | welcome | models => "GET"
  | _ => "POST"

/-- The endpoint at a path. One line end after it does not matter. -/
def ofPath? (path : Text) : Option Endpoint :=
  all.find? fun e => e.path.toText = path ∨ e.path.toText ++ "\n".toText = path

end Endpoint

/-! ### Responses -/

/-- Whether a character of a file name stands for itself in a header. -/
def isFileNameChar (c : CodePoint) : Bool := Text.Percent.isUnreserved c || c == '/'

/-- The header that names a file to be saved. -/
def disposition (name : Text) : Text :=
  "attachment; filename*=UTF-8''".toText ++ Text.Percent.encode isFileNameChar name

/-- The response with a product. Its name must have a UTF-8 form. -/
def productResponse (product : Product) : Except Breakdown Response := do
  let name ← (Text.Utf8.check product.name).mapError .unencodable
  return ⟨200, [("content-disposition", disposition name)], .download product.content⟩

mutual

/-- Whether all numbers in a value are finite. -/
def isFinite : Json → Bool
  | .float (.finite _ _ _) => true
  | .float _ => false
  | .arr items => areFinite items
  | .obj fields => haveFinite fields
  | _ => true

/-- Whether all numbers in some values are finite. -/
def areFinite : List Json → Bool
  | [] => true
  | v :: vs => isFinite v && areFinite vs

/-- Whether all numbers in some fields are finite. -/
def haveFinite : List (Text × Json) → Bool
  | [] => true
  | (_, v) :: fields => isFinite v && haveFinite fields

end

mutual

/-- A value without the fields whose names are reserved: those that start with `_sa`. -/
def withoutReserved : Json → Json
  | .arr items => .arr (itemsWithoutReserved items)
  | .obj fields => .obj (fieldsWithoutReserved fields)
  | v => v

/-- Items without the fields whose names are reserved. -/
def itemsWithoutReserved : List Json → List Json
  | [] => []
  | v :: vs => withoutReserved v :: itemsWithoutReserved vs

/-- Fields without those whose names are reserved. -/
def fieldsWithoutReserved : List (Text × Json) → List (Text × Json)
  | [] => []
  | (name, v) :: fields =>
    if Text.startsWith name "_sa".toText then fieldsWithoutReserved fields
    else (name, withoutReserved v) :: fieldsWithoutReserved fields

end

/-- A response that can be sent: numbers in JSON must be finite, and texts must have a UTF-8 form.
-/
def Response.check (response : Response) : Except Breakdown Response :=
  match response.body with
  | .json value => do
    let value := withoutReserved value
    if !isFinite value then throw .notFinite
    let _ ← (Text.Utf8.check value.writeCompact).mapError .unencodable
    return { response with body := .json value }
  | _ => .ok response

/-! ### Problems -/

/-- What an extraction without a text is answered with. -/
def extractionResult (problem : Extraction.Problem) : Except Breakdown Response :=
  match problem with
  | .unusableAddress message => .error (.unusableAddress message)
  | problem => .ok (.refusal 502 ("Failed to extract content: ".toText ++ problem.message))

/-- What a document that can not be made is answered with. -/
def documentResult (fault : Word.Fault) : Except Breakdown Response :=
  .ok (.refusal 500 fault.summary)

/-- What a workbook that can not be made is answered with. -/
def workbookResult (problem : WorkbookProblem) : Except Breakdown Response :=
  match problem with
  | .refused (.unreadable (.tooManyDigits count)) =>
    .error (.unreadableTable (.tooManyDigits count))
  | .refused refusal => .ok (.refusal 422 refusal.message.toText)
  | .unwritable (.tooTall row) => .error (.tallTable row)
  | .unwritable fault => .ok (.refusal 500 fault.summary)

/-- What a conversion without a product is answered with. -/
def conversionResult : ConversionProblem → Except Breakdown Response
  | .extraction problem => extractionResult problem
  | .document fault => documentResult fault
  | .workbook problem => workbookResult problem

/-- The response with a product, or what is answered instead. -/
def productResult {ε : Type} (instead : ε → Except Breakdown Response)
    (result : Except ε Product) : Except Breakdown Response :=
  match result with
  | .ok product => productResponse product
  | .error problem => instead problem

/-! ### Handlers -/

/-- The list of the models of the server. -/
def handleModels (settings : Settings) (server : Exchange.Server) : Handling :=
  let listing := Extraction.listModels settings.server server
  ⟨listing.requests,
    match listing.result with
    | .error (.failed (.unusable message)) => .error (.unusableAddress message)
    | .error problem => .ok (.refusal 502 problem.message)
    | .ok models => .ok (.ofFields 200 [("models", models)])⟩

/-- The response with an extracted text, which must have a UTF-8 form. -/
def textResponse (format : OutputFormat) (text : Text) : Except Breakdown Response := do
  let text ← (Text.Utf8.check text).mapError .unserializable
  return .ofFields 200 [("text", .str text), ("format", .str format.word.toText)]

/-- The text of the uploads of a form. -/
def handleExtract (settings : Settings) (server : Exchange.Server) (form : Form) : Handling :=
  match Submission.ofForm form (.ok none) with
  | .error response => .respond response
  | .ok s =>
    let extraction := Extraction.extract settings.server server s.uploads s.format
    ⟨extraction.requests,
      match extraction.result with
      | .error problem => extractionResult problem
      | .ok text => textResponse s.format text⟩

/-- The Word document of a text. A blank text is refused. -/
def handleDocument (settings : Settings) (g : Generation) : Handling :=
  if Text.isAllBlank g.text then .respond (.refusal 400 "Text cannot be empty.".toText)
  else ⟨[], productResult documentResult (makeDocument settings.files g.fileName g.text).result⟩

/-- The workbook of a text. -/
def handleWorkbook (settings : Settings) (g : Generation) : Handling :=
  ⟨[], productResult workbookResult (makeWorkbook settings.files g.fileName g.text)⟩

/-- The product of the uploads of a form. -/
def handleConvert (settings : Settings) (server : Exchange.Server) (form : Form) : Handling :=
  match Submission.ofForm form (formText form "file_name") with
  | .error response => .respond response
  | .ok s =>
    let conversion := convert settings server s.uploads s.format s.fileName
    ⟨conversion.requests, productResult conversionResult conversion.result⟩

/-- What is done with the form in the body of a request. -/
def withForm (r : Request) (handle : Form → Handling) : Handling :=
  match r.form with
  | .error response => .respond response
  | .ok form => handle form

/-- What is done with the generation that a request asks for. -/
def withGeneration (r : Request) (handle : Generation → Handling) : Handling :=
  match r.generation with
  | .error (.refused response) => .respond response
  | .error (.undecodable stretch) => .breakDown (.undecodable stretch)
  | .ok g => handle g

/-- What an endpoint does with a request. -/
def Endpoint.handle (settings : Settings) (server : Exchange.Server) (r : Request) :
    Endpoint → Handling
  | welcome =>
    .respond (.ofFields 200 [("message", .str "AI Math Document API is running.".toText)])
  | models => handleModels settings server
  | extract => withForm r (handleExtract settings server)
  | generateDocument => withGeneration r (handleDocument settings)
  | generateWorkbook => withGeneration r (handleWorkbook settings)
  | convert => withForm r (handleConvert settings server)

end ExamPress.Service
