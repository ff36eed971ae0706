import ExamPress.Text.Basic

/-! # Forms

A form is a list of named values in the order in which they are filled in. A value is a text or a
file; a name may have several values. -/

namespace ExamPress

namespace Form

/-- A file that is filled into a form. -/
structure File where
  name : Text
  mediaType : Option Text
  bytes : List Nat
deriving DecidableEq, Repr

/-- A value of a form. -/
inductive Value where
  | text (content : Text)
  | file (file : File)
deriving DecidableEq, Repr

end Form

/-- A form. -/
abbrev Form := List (Text × Form.Value)

namespace Form

/-- The values of a name, in order. -/
def values (form : Form) (name : String) : List Value :=
  (form.filter fun entry => entry.1 = name.toText).map Prod.snd

/-- Why bytes are no form. -/
inductive Fault where
  | noBoundary
  | malformed
  | noName
  | tooManyFiles
  | tooManyTexts
  | textTooLong
  | unreadable
deriving DecidableEq, Repr

/-- The largest number of files of a form. -/
def maxFiles : Nat := 1000

/-- The largest number of texts of a form. -/
def maxTexts : Nat := 1000

/-- The largest number of bytes of a text of a form in parts. -/
def maxTextBytes : Nat := 1024 * 1024

/-- The wording of a fault. -/
def Fault.message : Fault → String
  | noBoundary => "Missing boundary in multipart."
  | malformed => "Invalid multipart data."
  | noName => "The Content-Disposition header field \"name\" must be provided."
  | tooManyFiles => s!"Too many files. Maximum number of files is {maxFiles}."
  | tooManyTexts => s!"Too many fields. Maximum number of fields is {maxTexts}."
  | textTooLong => s!"Part exceeded maximum size of {maxTextBytes / 1024}KB."
  | unreadable => "There was an error parsing the body"

end Form

end ExamPress
