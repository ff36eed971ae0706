import ExamPress.Form.Multipart
import ExamPress.Form.UrlEncoded

/-! # Forms in bodies

The media type of a body says whether it is a form, and of which kind. Any other body is an empty
form. -/

namespace ExamPress.Form

/-- The media type of a form in parts. -/
def multipartType : String := "multipart/form-data"

/-- The media type of a form in one line. -/
def lineType : String := "application/x-www-form-urlencoded"

/-- The form in the bytes of a body with a media type. -/
def ofBody (mediaType : Text) (bytes : List Nat) : Except Fault Form :=
  match Header.ofText? mediaType with
  | none => .error .unreadable
  | some header =>
    if header.value = multipartType.toText then
      match header.parameter? "boundary" with
      | none => .error .noBoundary
      | some boundary =>
        Multipart.read boundary ((header.parameter? "charset").getD "utf-8".toText) bytes
    else if header.value = lineType.toText then .ok (UrlEncoded.read bytes)
    else .ok []

/-- The media type and the bytes of a body with a form: in parts if there are files, in one line if
there are only texts. The boundary of the parts must not be in the values. -/
def toBody (boundary : Text) (form : Form) : Text × List Nat :=
  let texts := form.filterMap fun (name, value) => match value with
    | .text content => some (name, content)
    | .file _ => none
  if texts.length < form.length then
    ((multipartType ++ "; boundary=").toText ++ boundary, Multipart.write boundary form)
  else (lineType.toText, Text.Utf8.encode (UrlEncoded.write texts))

end ExamPress.Form
