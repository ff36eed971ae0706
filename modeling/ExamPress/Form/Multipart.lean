import ExamPress.Form.Basic
import ExamPress.Form.Parameters

/-! # Forms in parts

A form whose values stand one after the other in the bytes of a body, each behind a line with a
boundary and behind lines that say what the value is called and whether it is a file. `write`
writes a form, `read` reads one. Reading goes from byte to byte. A part that the end of the body
cuts off is dropped, and what follows the closing line is passed over. -/

namespace ExamPress.Form.Multipart

/-! ### Writing -/

/-- A character of a name between quotation marks. -/
def escape (c : CodePoint) : Text :=
  if c = '"' then "%22".toText
  else if c = '\\' then "\\\\".toText
  else if c.toNat < 0x20 ∧ c ≠ '\x1b' then Text.Percent.encodeByte c.toNat
  else [c]

/-- A parameter with what it says in quotation marks. -/
def writeParameter (name : String) (content : Text) : Text :=
  (name ++ "=\"").toText ++ content.flatMap escape ++ "\"".toText

/-- The lines in front of a value. A file without a name is not marked as a file. -/
def writeHeaders (name : Text) : Value → Text
  | .text _ => "Content-Disposition: form-data; ".toText ++ writeParameter "name" name
  | .file file =>
    "Content-Disposition: form-data; ".toText ++ writeParameter "name" name ++
      (if file.name.isEmpty then []
        else "; ".toText ++ writeParameter "filename" file.name) ++
      match file.mediaType with
      | some type => "\r\nContent-Type: ".toText ++ type
      | none => []

/-- The bytes of a value. -/
def valueBytes : Value → List Nat
  | .text s => Text.Utf8.encode s
  | .file file => file.bytes

/-- The bytes of a form in parts. -/
def write (boundary : Text) (form : Form) : List Nat :=
  let line (ending : String) : List Nat :=
    Text.Utf8.encode ("--".toText ++ boundary ++ ending.toText)
  form.flatMap (fun (name, value) =>
    line "\r\n" ++ Text.Utf8.encode (writeHeaders name value ++ "\r\n\r\n".toText) ++
      valueBytes value ++ Text.Utf8.encode "\r\n".toText) ++ line "--\r\n"

/-! ### Parts -/

/-- A line in front of a value: a name in lower case, and what it says. -/
abbrev Line := Text × Text

/-- A part that is read: what its value is called, whether it is a file, and the value. -/
structure Part where
  name : Text
  fileName : Option Text
  mediaType : Option Text
  reversed : List Nat := []
deriving Repr

/-- Whether a coding has one of the names of UTF-8. -/
def isUtf8Name (name : Text) : Bool :=
  Text.isAnyOf ((Text.lowerAscii name).filter CodePoint.isAlphanum) ["utf8", "utf", "u8", "cp65001"]

/-- The text of bytes in a coding. Bytes that it can not read are characters by themselves. -/
def decode (coding : Text) (bytes : List Nat) : Text :=
  let single : Text := bytes.map .ofNat
  if isUtf8Name coding then (Text.Utf8.decode bytes).toOption.getD single else single

/-- The part that begins after some lines. -/
def Part.ofLines (coding : Text) (lines : List Line) : Except Fault Part := do
  let all (name : String) := (lines.filter fun line => line.1 = name.toText).map Prod.snd
  let disposition := (all "content-disposition").getLast?.getD []
  let some header := Header.ofText? disposition | throw .unreadable
  let some name := header.parameter? "name" | throw .noName
  let text (s : Text) := decode coding (s.map CodePoint.toNat)
  return ⟨text name, (header.parameter? "filename").map text, (all "content-type").head?, []⟩

/-- The entry of a form that a part makes, when its bytes are complete. -/
def Part.entry (coding : Text) (bytes : List Nat) (part : Part) : Text × Value :=
  (part.name,
    match part.fileName with
    | some name => .file ⟨name, part.mediaType, bytes⟩
    | none => .text (decode coding bytes))

/-- Checks the size of the value of a part. -/
def Part.checkSize (bytes : List Nat) (part : Part) : Except Fault Unit :=
  if part.fileName.isNone ∧ maxTextBytes < bytes.length then .error .textTooLong else .ok ()

/-! ### Reading -/

/-- The byte of a character of ASCII. -/
def byte (c : Char) : Nat := c.toNat

/-- What is expected next: the rest of the first boundary, a line or one of its pieces, a value, or
nothing. What is read of a piece is kept with its last byte first. -/
inductive Expected where
  | start
  | boundary (rest : List Nat)
  | lineEnd
  | secondHyphen
  | name (reversed : List Nat)
  | blanks (name : Text)
  | content (name : Text) (reversed : List Nat)
  | contentEnd (name content : Text)
  | linesEnd
  | value (part : Part)
  | nothing
deriving Repr

/-- What is read so far: the entries, and the lines of the part that is being read. -/
structure Reading where
  entries : Form := []
  lines : List Line := []
  expected : Expected := .start
deriving Repr

/-- Whether a byte can be in the name of a line. -/
def isNameByte (b : Nat) : Bool :=
  let c := CodePoint.ofNat b
  c.isAlphanum || "!#$%&'*+-.^_\x60|~".toText.contains c

/-- How many entries are files. -/
def fileCount (form : Form) : Nat :=
  form.countP fun entry => match entry.2 with
    | .file _ => true
    | .text _ => false

/-- The reading at the beginning of a value. -/
def Reading.openPart (coding : Text) (r : Reading) : Except Fault Reading := do
  let part ← Part.ofLines coding r.lines
  let files := fileCount r.entries
  if part.fileName.isSome ∧ maxFiles ≤ files then throw .tooManyFiles
  if part.fileName.isNone ∧ maxTexts ≤ r.entries.length - files then throw .tooManyTexts
  return { r with lines := [], expected := .value part }

/-- The bytes of a value whose end is a line with the boundary and two more characters, if it is. -/
def closed? (boundary : List Nat) (ending : Text) (reversed : List Nat) : Option (List Nat) :=
  let line := Text.Utf8.encode "\r\n--".toText ++ boundary ++ Text.Utf8.encode ending
  if line.reverse.isPrefixOf reversed then some (reversed.drop line.length).reverse else none

/-- The reading when the bytes of a part are complete. -/
def Reading.close (coding : Text) (r : Reading) (part : Part) (bytes : List Nat)
    (expected : Expected) : Except Fault Reading := do
  part.checkSize bytes
  return { r with entries := r.entries ++ [part.entry coding bytes], expected }

/-- The reading after another byte of a value. -/
def Reading.extend (boundary : List Nat) (coding : Text) (r : Reading) (part : Part) (b : Nat) :
    Except Fault Reading :=
  let reversed := b :: part.reversed
  match closed? boundary "\r\n".toText reversed, closed? boundary "--".toText reversed with
  | some bytes, _ => r.close coding part bytes (.name [])
  | none, some bytes => r.close coding part bytes .nothing
  | none, none => .ok { r with expected := .value { part with reversed } }

/-- The reading after another byte. -/
def Reading.step (boundary : List Nat) (coding : Text) (r : Reading) (b : Nat) :
    Except Fault Reading :=
  let next (expected : Expected) : Except Fault Reading := .ok { r with expected }
  match r.expected with
  | .start =>
    if b = byte '\r' ∨ b = byte '\n' then next .start
    else if b = byte '-' then next (.boundary (byte '-' :: boundary))
    else .error .malformed
  | .boundary (c :: rest) => if b = c then next (.boundary rest) else .error .malformed
  | .boundary [] =>
    if b = byte '\r' then next .lineEnd
    else if b = byte '-' then next .secondHyphen
    else .error .malformed
  | .lineEnd => if b = byte '\n' then next (.name []) else .error .malformed
  | .secondHyphen => if b = byte '-' then next .nothing else .error .malformed
  | .name reversed =>
    if b = byte '\r' ∧ reversed.isEmpty then next .linesEnd
    else if b = byte ':' ∧ !reversed.isEmpty then
      next (.blanks (Text.lowerAscii (reversed.reverse.map CodePoint.ofNat)))
    else if isNameByte b then next (.name (b :: reversed))
    else .error .malformed
  | .blanks name =>
    if b = byte ' ' then next (.blanks name)
    else if b = byte '\r' then next (.contentEnd name [])
    else next (.content name [b])
  | .content name reversed =>
    if b = byte '\r' then next (.contentEnd name (reversed.reverse.map .ofNat))
    else next (.content name (b :: reversed))
  | .contentEnd name content =>
    if b = byte '\n' then .ok { r with lines := r.lines ++ [(name, content)], expected := .name [] }
    else .error .malformed
  | .linesEnd => if b = byte '\n' then r.openPart coding else .error .malformed
  | .value part => r.extend boundary coding part b
  | .nothing => .ok r

/-- The form in the bytes of a body, with the boundary and the coding of the texts. -/
def read (boundary coding : Text) (bytes : List Nat) : Except Fault Form := do
  let r ← bytes.foldlM (Reading.step (boundary.map CodePoint.toNat) coding) {}
  if let .value part := r.expected then part.checkSize part.reversed
  return r.entries

end ExamPress.Form.Multipart
