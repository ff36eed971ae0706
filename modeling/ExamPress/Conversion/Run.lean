import ExamPress.Conversion.Product
import ExamPress.Extraction.Run

/-! # Conversions

A conversion makes a product of uploads: their text is extracted, and the product is made of it. -/

namespace ExamPress

/-- An event of a conversion. -/
inductive ConversionEvent where
  | extraction (event : Extraction.Event)
  | document (event : Word.Event)
deriving DecidableEq, Repr

/-- Why a conversion has no product. -/
inductive ConversionProblem where
  | extraction (problem : Extraction.Problem)
  | document (fault : Word.Fault)
  | workbook (problem : WorkbookProblem)
deriving DecidableEq, Repr

/-- A conversion: what is logged, what is sent, and how it ends. -/
structure Conversion where
  log : List ConversionEvent
  requests : List Exchange.Request
  result : Except ConversionProblem Product

/-- The product of an extracted text, with what is logged on the way. -/
def makeProduct (settings : FileSettings) (format : OutputFormat) (wanted : Option Text)
    (text : Text) : Making ConversionProblem :=
  match format with
  | .workbook => ⟨[], (makeWorkbook settings wanted text).mapError .workbook⟩
  | .document =>
    let making := makeDocument settings wanted text
    ⟨making.log, making.result.mapError .document⟩

/-- The conversion of uploads to a format. -/
def convert (settings : Settings) (server : Exchange.Server) (uploads : List Extraction.Upload)
    (format : OutputFormat) (wanted : Option Text) : Conversion :=
  let extraction := Extraction.extract settings.server server uploads format
  let log := extraction.log.map ConversionEvent.extraction
  match extraction.result with
  | .error problem => ⟨log, extraction.requests, .error (.extraction problem)⟩
  | .ok text =>
    let making := makeProduct settings.files format wanted text
    ⟨log ++ making.log.map .document, extraction.requests, making.result⟩

end ExamPress
