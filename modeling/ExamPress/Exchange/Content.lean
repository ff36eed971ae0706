import ExamPress.Compression.Frame
import ExamPress.Text.Blank

/-! # Content of answers

The bytes of an answer may be compressed, also several times. A header lists how, in the order in
which it was done; names that are not known are passed over. One of the ways has a frame that not
all servers write, so the data is read with it and, where that fails, without it. -/

namespace ExamPress.Exchange

open Compression

/-- The headers of an answer, in order. -/
abbrev Headers := List (Text × Text)

/-- The values of all headers of a name, which is in lower case. -/
def Headers.all (headers : Headers) (name : String) : List Text :=
  (headers.filter fun header => Text.lowerAscii header.1 = name.toText).map Prod.snd

/-- The frames that the name of a way of compressing stands for, in the order in which they are
tried. -/
def framesOf (name : Text) : List Frame :=
  if name = "gzip".toText then [.long]
  else if name = "deflate".toText then [.short, .bare]
  else []

/-- The bytes in the first of some frames that can be read, or the fault of the last one. -/
def decompressAny (bytes : List Nat) : List Frame → Except Fault (List Nat)
  | [] => .ok bytes
  | [frame] => decompress frame bytes
  | frame :: frames =>
    match decompress frame bytes with
    | .ok content => .ok content
    | .error _ => decompressAny bytes frames

/-- The content of an answer with headers and bytes. -/
def content (headers : Headers) (bytes : List Nat) : Except Fault (List Nat) :=
  let names := (headers.all "content-encoding").flatMap fun value => Text.splitOn ',' value
  let ways := names.map fun name => framesOf (Text.lowerAscii (Text.strip name))
  ways.reverse.foldlM decompressAny bytes

end ExamPress.Exchange
