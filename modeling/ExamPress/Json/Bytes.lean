import ExamPress.Json.Reader
import ExamPress.Text.Utf8
import ExamPress.Text.Wide

/-! # JSON in bytes

JSON that is sent between programs is a text in one of five codings. A byte order mark in front
tells which; without one, the zero bytes among the first four do, since the first characters of
JSON are characters of ASCII. -/

namespace ExamPress.Json

open Text (Coding)

/-- Why bytes are not read. -/
inductive BytesError where
  | undecodable (stretch : Text.Malformed)
  | unreadable (error : ReadError)
deriving DecidableEq, Repr

/-- The wording of an error. -/
def BytesError.message : BytesError → Text
  | .undecodable stretch => stretch.message.toText
  | .unreadable error => error.message.toText

/-- The coding of the bytes of a JSON text, and the length of its byte order mark. -/
def codingOf (bytes : List Nat) : Coding × Nat :=
  match bytes with
  | 0 :: 0 :: 0xfe :: 0xff :: _ => (.utf32 true, 4)
  | 0xff :: 0xfe :: 0 :: 0 :: _ => (.utf32 false, 4)
  | 0xfe :: 0xff :: _ => (.utf16 true, 2)
  | 0xff :: 0xfe :: _ => (.utf16 false, 2)
  | 0xef :: 0xbb :: 0xbf :: _ => (.utf8, 3)
  | 0 :: 0 :: _ :: _ :: _ => (.utf32 true, 0)
  | 0 :: _ :: _ :: _ :: _ => (.utf16 true, 0)
  | _ :: 0 :: 0 :: 0 :: _ => (.utf32 false, 0)
  | _ :: 0 :: _ :: _ :: _ => (.utf16 false, 0)
  | [0, _] => (.utf16 true, 0)
  | [_, 0] => (.utf16 false, 0)
  | _ => (.utf8, 0)

/-- The text of the bytes of a JSON text, without its byte order mark. -/
def decodeBytes (bytes : List Nat) : Except Text.Malformed Text :=
  let (coding, mark) := codingOf bytes
  match coding with
  | .utf8 => Text.Utf8.decodeLoosely (bytes.drop mark)
  | .utf16 highFirst => Text.Wide.decode16 highFirst mark (bytes.drop mark)
  | .utf32 highFirst => Text.Wide.decode32 highFirst mark (bytes.drop mark)

/-- The value of the bytes of a JSON text. -/
def readBytes (bytes : List Nat) : Except BytesError Json :=
  match decodeBytes bytes with
  | .error stretch => .error (.undecodable stretch)
  | .ok source => (readAfterMark source).mapError .unreadable

end ExamPress.Json
