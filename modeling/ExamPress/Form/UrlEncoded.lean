import ExamPress.Form.Basic
import ExamPress.Text.Percent

/-! # Forms in one line

A form of texts in one line of ASCII: each name with an equals sign and what it says, and an
ampersand between neighbours. Where no ampersand follows, semicolons separate too. A name at the end
without an equals sign is dropped, and so are empty pieces. -/

namespace ExamPress.Form.UrlEncoded

/-- The line of some texts under their names. -/
def write (texts : List (Text × Text)) : Text :=
  Text.joinWith "&".toText (texts.map fun (name, content) =>
    Text.Percent.encodeForm name ++ "=".toText ++ Text.Percent.encodeForm content)

/-- What a piece of the line stands for: a plus sign is a space, and percent signs are resolved. -/
def decode (s : Text) : Text :=
  Text.Percent.decodeReplacing (s.map fun (c : CodePoint) => if c = '+' then ' ' else c)

/-- The piece at the front of a line up to the mark that separates it, and what follows the mark if
there is one. -/
def splitPiece (s : Text) : Text × Option Text :=
  let separator : CodePoint := if s.contains '&' then '&' else ';'
  let piece := s.takeWhile (· != separator)
  match s.drop piece.length with
  | _ :: rest => (piece, some rest)
  | [] => (piece, none)

theorem length_lt_of_splitPiece {s rest : Text} (h : (splitPiece s).2 = some rest) :
    rest.length < s.length := by
  simp only [splitPiece] at h
  split at h
  · rename_i c tail heq
    have := congrArg List.length heq
    simp only [List.length_drop, List.length_cons] at this
    injection h with h
    subst h
    omega
  · cases h

/-- The texts of a line that has marks between them. -/
def readPieces (s : Text) : List (Text × Text) :=
  let s' := s.dropWhile fun (c : CodePoint) => c == '&' || c == ';'
  let piece := (splitPiece s').1
  let name := piece.takeWhile fun (c : CodePoint) => c != '='
  let content := piece.drop (name.length + 1)
  match h : (splitPiece s').2 with
  | some rest =>
    have : rest.length < s.length := Nat.lt_of_lt_of_le (length_lt_of_splitPiece h)
      (List.dropWhile_sublist _).length_le
    (decode name, decode content) :: readPieces rest
  | none => if name.length < piece.length then [(decode name, decode content)] else []
termination_by s.length

/-- The form in the bytes of a line. A byte that is not of ASCII is a character by itself. -/
def read (bytes : List Nat) : Form :=
  (readPieces (bytes.map .ofNat)).map fun (name, content) => (name, .text content)

end ExamPress.Form.UrlEncoded
