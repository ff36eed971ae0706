import ExamPress.Document.Assembly
import ExamPress.Settings.Basic
import ExamPress.Table.Rows
import ExamPress.Table.Sheet
import ExamPress.Text.FileName
import ExamPress.Word.File

/-! # Products

A product is a file that is made of a text: a Word document of a text with formulas, or a workbook
of a table. It has the name that is asked for or the one of the settings, with the extension of its
format. -/

namespace ExamPress

/-- The content of a product. -/
inductive Content where
  | document (file : Word.File)
  | workbook (book : Table.Workbook)

/-- A file that is made. -/
structure Product where
  name : Text
  content : Content

/-- The media type of a product. -/
def Content.mediaType : Content → String
  | document _ => Word.File.mediaType
  | workbook _ => Table.Workbook.mediaType

/-- The bytes of a product. -/
def Content.bytes : Content → List Nat
  | document file => file.bytes
  | workbook book => book.bytes

/-- The name of a Word document for which a name may be asked for. -/
def documentName (settings : FileSettings) (wanted : Option Text) : Text :=
  Text.fileName wanted settings.documentName Word.File.extension

/-- The name of a workbook for which a name may be asked for. -/
def workbookName (settings : FileSettings) (wanted : Option Text) : Text :=
  Text.fileName wanted settings.tableName Table.Workbook.extension

/-- The making of a product, with what is logged on the way. -/
structure Making (ε : Type) where
  log : List Word.Event
  result : Except ε Product

/-- The Word document of a text. -/
def makeDocument (settings : FileSettings) (wanted : Option Text) (text : Text) :
    Making Word.Fault :=
  let rendering := Word.render (Document.ofText text)
  ⟨rendering.log,
    rendering.result.map fun file => ⟨documentName settings wanted, .document file⟩⟩

/-- Why there is no workbook of a text. -/
inductive WorkbookProblem where
  | refused (refusal : Table.Refusal)
  | unwritable (fault : Table.Fault)
deriving DecidableEq, Repr

/-- The wording of a problem. -/
def WorkbookProblem.message : WorkbookProblem → Text
  | refused refusal => refusal.message.toText
  | unwritable fault => fault.summary

/-- The workbook of a text. -/
def makeWorkbook (settings : FileSettings) (wanted : Option Text) (text : Text) :
    Except WorkbookProblem Product := do
  let items ← (Table.rows text).mapError .refused
  let workbook ← (Table.Sheet.ofItems items).write.mapError .unwritable
  return ⟨workbookName settings wanted, .workbook workbook⟩

end ExamPress
