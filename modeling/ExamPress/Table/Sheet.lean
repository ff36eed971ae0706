import ExamPress.Number.Decimal
import ExamPress.Package.Manifest
import ExamPress.Table.Cell
import ExamPress.Text.Blank
import ExamPress.Text.Utf8
import ExamPress.Xml

/-! # Sheets

A workbook has one sheet. The items of a table that are arrays are its rows, numbered from one;
other items are passed over. Only the first item of the table can be the heading. The first fault
in the order of writing stops: a row with cells below the last one of a worksheet, for which there
is no cell, then a row that is too wide, then the cells from left to right and from top to bottom.
All but the first are found while the workbook is packed, and told as such. -/

namespace ExamPress.Table

/-- A row of a sheet with its number. -/
structure Row where
  number : Nat
  cells : List Cell
deriving DecidableEq, Repr

/-- A sheet: its rows in order, with those that have no cells. -/
structure Sheet where
  rows : List Row
deriving DecidableEq, Repr

/-- The rows of items after the first one, numbered from a number on. -/
def bodyRows (number : Nat) : List Json → List Row
  | [] => []
  | .arr values :: items => ⟨number, values.map .ofValue⟩ :: bodyRows (number + 1) items
  | _ :: items => bodyRows number items

/-- The sheet of the items of a table. -/
def Sheet.ofItems : List Json → Sheet
  | .arr values :: items => ⟨⟨1, values.map .ofHeading⟩ :: bodyRows 2 items⟩
  | items => ⟨bodyRows 1 items⟩

/-- Why a sheet can not be written. -/
inductive Fault where
  | tooTall (row : Nat)
  | tooWide (columns : Nat)
  | unencodable (stretch : Text.Unencodable)
  | illegalText
  | integerTooLarge
deriving DecidableEq, Repr

/-- The number of rows that a worksheet can have. -/
def maxRows : Nat := 1048576

/-- The wording of a fault. -/
def Fault.message : Fault → Text
  | .tooTall row =>
    s!"Row numbers must be between 1 and {maxRows}. Row number supplied was {row}".toText
  | .tooWide columns => s!"Invalid column index {columns}".toText
  | .unencodable stretch => stretch.message
  | .illegalText => Xml.illegalTextMessage.toText
  | .integerTooLarge => "int too large to convert to float".toText

/-- Whether a fault is found while the workbook is packed, and told as an error of that. -/
def Fault.isPackingError : Fault → Bool
  | .tooTall _ => false
  | _ => true

/-- The wording of the error for a sheet that can not be written. -/
def Fault.summary (fault : Fault) : Text :=
  if fault.isPackingError then "Failed to pack the Excel workbook: ".toText ++ fault.message
  else fault.message

/-- The number of columns that have letters. -/
def maxColumns : Nat := 18278

/-- The letters of a column, counted from one. -/
def columnLetters (column : Nat) : Text :=
  match column with
  | 0 => []
  | n + 1 => columnLetters (n / 26) ++ [.ofNat (65 + n % 26)]
termination_by column
decreasing_by omega

/-- The name of a cell. -/
def cellName (row column : Nat) : Text := columnLetters column ++ Text.ofNat row

/-- The text of a number, for a double that is not finite nothing. -/
def numberText (d : Double) : Text := d.sixteenDigits

/-- The type and the content of the element of a cell. -/
def Cell.content : Cell → Except Fault (Text × List Xml)
  | text [] => .ok ("inlineStr".toText, [.text []])
  | text s => do
    let s ← (Text.Utf8.check s).mapError .unencodable
    if Xml.isXmlText s then
      let keep : List (String × Text) :=
        if s.strip = s then [] else [("xml:space", "preserve".toText)]
      return ("inlineStr".toText, [.element "is" [] [.element "t" keep [.text s]]])
    else throw .illegalText
  | error code => .ok (['e'], [.element "v" [] [.text code]])
  | integer i =>
    match Double.ofInt i with
    | .infinite _ => .error .integerTooLarge
    | d => .ok (['n'], [.element "v" [] [.text (numberText d)]])
  | number d => .ok (['n'], [.element "v" [] [.text (numberText d)]])
  | boolean b => .ok (['b'], [.element "v" [] [.text [if b then '1' else '0']]])

/-- The elements of cells of a row from a column on. -/
def renderCells (row column : Nat) : List Cell → Except Fault (List Xml)
  | [] => .ok []
  | cell :: cells => do
    let (type, content) ← cell.content
    let rest ← renderCells row (column + 1) cells
    return .element "c" [("r", cellName row column), ("t", type)] content :: rest

/-- The elements of the rows that have cells. -/
def renderRows : List Row → Except Fault (List Xml)
  | [] => .ok []
  | row :: rows =>
    if row.cells.isEmpty then renderRows rows
    else do
      let cells ← renderCells row.number 1 row.cells
      let rest ← renderRows rows
      return .element "row" [("r", Text.ofNat row.number)] cells :: rest

/-- The first row with cells below the last one of a worksheet. -/
def Sheet.tallRow? (s : Sheet) : Option Row :=
  s.rows.find? fun row => maxRows < row.number && !row.cells.isEmpty

/-- The number of columns of a sheet. -/
def Sheet.width (s : Sheet) : Nat := (s.rows.map fun row => row.cells.length).foldl max 0

/-- The range of the cells of a sheet. -/
def Sheet.dimension (s : Sheet) : Text :=
  let numbers := (s.rows.filter fun row => !row.cells.isEmpty).map Row.number
  match numbers.head?, numbers.getLast? with
  | some first, some last => cellName first 1 ++ ":".toText ++ cellName last s.width
  | _, _ => "A1:A1".toText

/-- A written sheet. -/
structure Workbook where
  dimension : Text
  rows : List Xml

namespace Workbook

/-- The title of the sheet. -/
def title : String := "Sheet 1"

/-- The text forms of the rows, in order. -/
def rowTexts (w : Workbook) : List Text := w.rows.map (Xml.write .ascii)

/-- The names of the elements of a sheet. -/
def sheetNamespace : List (String × Text) :=
  [("xmlns", "http://schemas.openxmlformats.org/spreadsheetml/2006/main".toText)]

/-- The root of the part with the sheet. -/
def sheetRoot (w : Workbook) : Xml :=
  .element "worksheet" sheetNamespace
    [.element "dimension" [("ref", w.dimension)] [], .element "sheetData" [] w.rows]

/-- The root of the part that names the sheet. -/
def bookRoot : Xml :=
  .element "workbook" (sheetNamespace ++
      [("xmlns:r",
        "http://schemas.openxmlformats.org/officeDocument/2006/relationships".toText)])
    [.element "sheets" []
      [.element "sheet"
        [("name", title.toText), ("sheetId", "1".toText), ("r:id", "rId1".toText)] []]]

/-- The types of the parts of a workbook. -/
def partTypes : List (String × String) := [
  ("/xl/workbook.xml",
    "application/vnd.openxmlformats-officedocument.spreadsheetml.sheet.main+xml"),
  ("/xl/worksheets/sheet1.xml",
    "application/vnd.openxmlformats-officedocument.spreadsheetml.worksheet+xml")]

/-- The bytes of the file. -/
def bytes (w : Workbook) : List Nat :=
  Package.archive [
    Package.typesPart partTypes,
    Package.relationsPart "_rels/.rels" [("officeDocument", "xl/workbook.xml")],
    Package.relationsPart "xl/_rels/workbook.xml.rels" [("worksheet", "worksheets/sheet1.xml")],
    .ofXml "xl/workbook.xml" bookRoot,
    .ofText "xl/worksheets/sheet1.xml" (w.sheetRoot.write .ascii)]

/-- The end of the name of a workbook file. -/
def extension : Text := ".xlsx".toText

/-- The media type of a workbook. -/
def mediaType : String := "application/vnd.openxmlformats-officedocument.spreadsheetml.sheet"

end Workbook

/-- The workbook of a sheet. -/
def Sheet.write (s : Sheet) : Except Fault Workbook :=
  match s.tallRow? with
  | some row => .error (.tooTall row.number)
  | none => do
    if s.width > maxColumns then throw (.tooWide s.width)
    let rows ← renderRows s.rows
    return ⟨s.dimension, rows⟩

end ExamPress.Table
