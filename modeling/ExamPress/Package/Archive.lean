import ExamPress.Compression.Checksum
import ExamPress.Text.Utf8

/-! # Archives

A package is an archive of named parts that are stored as they are, with a directory at its end.
Bytes are natural numbers below 256, and numbers are written with the lowest byte first. -/

namespace ExamPress.Package

/-- A part of an archive. -/
structure Part where
  name : Text
  bytes : List Nat

/-- A part that holds a text. -/
def Part.ofText (name : String) (content : Text) : Part := ⟨name.toText, Text.Utf8.encode content⟩

/-- A number in so many bytes. -/
def littleEndian (n : Nat) : Nat → List Nat
  | 0 => []
  | places + 1 => n % 256 :: littleEndian (n / 256) places

/-- A number in two bytes. -/
def word (n : Nat) : List Nat := littleEndian n 2

/-- A number in four bytes. -/
def long (n : Nat) : List Nat := littleEndian n 4

/-- What both headers of a part say: version, no compression, a fixed date, checksum and sizes. -/
def description (part : Part) : List Nat :=
  word 20 ++ word 0x800 ++ word 0 ++ word 0 ++ word 0x21 ++
    long (Compression.checksum part.bytes) ++
    long part.bytes.length ++ long part.bytes.length ++
    word (Text.Utf8.encode part.name).length ++ word 0

/-- A part as it stands in the archive. -/
def entry (part : Part) : List Nat :=
  long 0x04034b50 ++ description part ++ Text.Utf8.encode part.name ++ part.bytes

/-- The line of the directory for a part that starts at an offset. -/
def directoryEntry (part : Part) (offset : Nat) : List Nat :=
  long 0x02014b50 ++ word 20 ++ description part ++ word 0 ++ word 0 ++ word 0 ++ long 0 ++
    long offset ++ Text.Utf8.encode part.name

/-- The entries and the directory of parts that start at an offset. -/
def layOut (offset : Nat) : List Part → List Nat × List Nat
  | [] => ([], [])
  | part :: parts =>
    let bytes := entry part
    let (entries, directory) := layOut (offset + bytes.length) parts
    (bytes ++ entries, directoryEntry part offset ++ directory)

/-- The bytes of an archive. -/
def archive (parts : List Part) : List Nat :=
  let (entries, directory) := layOut 0 parts
  entries ++ directory ++ long 0x06054b50 ++ word 0 ++ word 0 ++ word parts.length ++
    word parts.length ++ long directory.length ++ long entries.length ++ word 0

/-- The first line of an XML part. -/
def declaration : Text :=
  "<?xml version=\"1.0\" encoding=\"UTF-8\" standalone=\"yes\"?>\n".toText

end ExamPress.Package
