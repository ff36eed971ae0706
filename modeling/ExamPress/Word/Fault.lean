import ExamPress.Text.Utf8
import ExamPress.Xml

/-! # Faults of Word documents

Why a document can not be rendered: a stored formula holds a value that is no node, a text has no
UTF-8 form or a character that XML lacks, or a length is none or out of range. -/

namespace ExamPress.Word

/-- The reason why a part of a document can not be rendered. -/
inductive Fault where
  | foreignNode (kind : String)
  | unencodable (stretch : Text.Unencodable)
  | illegalText
  | notANumber
  | infiniteNumber
  | outOfRange (length : Int)
deriving DecidableEq, Repr

namespace Fault

/-- The class of a fault in the log. -/
def className : Fault → String
  | foreignNode _ => "TypeError"
  | unencodable _ => "UnicodeEncodeError"
  | infiniteNumber => "OverflowError"
  | _ => "ValueError"

/-- The wording of a fault. -/
def message : Fault → Text
  | foreignNode kind => ("Unsupported math node: " ++ kind).toText
  | unencodable stretch => stretch.message
  | illegalText => Xml.illegalTextMessage.toText
  | notANumber => "cannot convert float NaN to integer".toText
  | infiniteNumber => "cannot convert float infinity to integer".toText
  | outOfRange length =>
    s!"value must be in range 0 to 18446744073709551615 inclusive, got {length}".toText

end Fault

end ExamPress.Word
