import ExamPress.Json.Writer
import ExamPress.Text.Upper

/-! # Cells

A cell holds a text, an error code, a number or a boolean. In the heading every value is shown as a
text in upper case, and empty values as nothing. In the other rows null is an empty text and arrays
and objects are JSON text. Control characters that XML lacks are left out of texts, and texts have
at most 32767 characters. -/

namespace ExamPress.Table

/-- The content of a cell. -/
inductive Cell where
  | text (content : Text)
  | error (code : Text)
  | integer (value : Int)
  | number (value : Double)
  | boolean (value : Bool)
deriving DecidableEq, Repr

/-- Whether a character is left out of texts. -/
def isRemoved (c : CodePoint) : Bool :=
  let n := c.toNat
  n < 0x09 || n == 0x0b || n == 0x0c || (0x0e ≤ n && n < 0x20)

/-- The text without the characters that are left out. -/
def removeControls (s : Text) : Text := s.filter fun c => !isRemoved c

/-- The largest length of a text. -/
def maxCellLength : Nat := 32767

/-- The codes of errors. -/
def errorCodes : List String :=
  ["#NULL!", "#DIV/0!", "#VALUE!", "#REF!", "#NAME?", "#NUM!", "#N/A"]

/-- The cell of a text. -/
def Cell.ofText (s : Text) : Cell :=
  let s := (removeControls s).take maxCellLength
  if errorCodes.any fun code => code.toText = s then .error s else .text s

/-- The text of a value in the heading. -/
def headingText (v : Json) : Text := if v.isEmpty then [] else Text.upper v.display

/-- The cell of a value in the heading. -/
def Cell.ofHeading (v : Json) : Cell := .ofText (headingText v)

/-- The cell of a value in any other row. -/
def Cell.ofValue : Json → Cell
  | .null => .text []
  | .bool b => .boolean b
  | .int i => .integer i
  | .float d => .number d
  | .str s => .ofText s
  | v => .ofText v.write

end ExamPress.Table
