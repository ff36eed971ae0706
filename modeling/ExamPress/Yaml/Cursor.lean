import ExamPress.Text.Basic

/-! # Places in a YAML text

A cursor is a place in a text: what is left of it, and line and column of the place. The
indentation of YAML is a matter of columns, so everything that is read moves a cursor. -/

namespace ExamPress.Yaml

/-- Whether a character breaks a line. -/
def isBreak (c : CodePoint) : Bool := (['\n', '\u0085', '\u2028', '\u2029'] : Text).contains c

/-- Whether a character is a space or a tab. -/
def isSpaceOrTab (c : CodePoint) : Bool := c == ' ' || c == '\t'

/-- Whether a place is at a space, at a tab, or at the end of its line. -/
def isGap : Option CodePoint → Bool
  | none => true
  | some c => isSpaceOrTab c || isBreak c

/-- Whether a place is at the end of its line. -/
def isLineEnd : Option CodePoint → Bool
  | none => true
  | some c => isBreak c

/-- Whether a place is at a space or at the end of its line. -/
def isSpaceOrEnd (c : Option CodePoint) : Bool := c == some (.char ' ') || isLineEnd c

/-- A place in a text. -/
structure Cursor where
  rest : Text
  line : Nat := 0
  column : Nat := 0
  index : Nat := 0
deriving Repr

namespace Cursor

/-- The character so many places ahead. -/
def peek? (c : Cursor) (ahead : Nat) : Option CodePoint := c.rest[ahead]?

/-- Whether a character is at a place. -/
def isAt (c : Cursor) (x : Char) : Bool := c.rest.head? == some (.char x)

/-- The place after the next character. -/
def next (c : Cursor) : Cursor :=
  match c.rest with
  | [] => c
  | x :: rest =>
    if isBreak x then ⟨rest, c.line + 1, 0, c.index + 1⟩
    else ⟨rest, c.line, if x = '\ufeff' then c.column else c.column + 1, c.index + 1⟩

/-- The place so many characters ahead. -/
def forward (c : Cursor) : Nat → Cursor
  | 0 => c
  | n + 1 => c.next.forward n

/-- The characters before the first one that `p` does not hold of, and the place there. -/
def takeWhile (c : Cursor) (p : CodePoint → Bool) : Text × Cursor :=
  let taken := c.rest.takeWhile p
  (taken, c.forward taken.length)

/-- The place after the characters that `p` holds of. -/
def dropWhile (c : Cursor) (p : CodePoint → Bool) : Cursor := (c.takeWhile p).2

/-- The place after the spaces. -/
def dropSpaces (c : Cursor) : Cursor := c.dropWhile (· == .char ' ')

/-- The place after a comment, if there is one. -/
def dropComment (c : Cursor) : Cursor :=
  if c.isAt '#' then c.dropWhile fun x => !isBreak x else c

/-- The line break at a place, as it counts in a scalar, and the place after it. -/
def lineBreak? (c : Cursor) : Option (CodePoint × Cursor) :=
  match c.rest with
  | x :: _ =>
    if isBreak x then some (if x = '\u0085' then '\n' else x, c.next) else none
  | [] => none

/-- Whether a place is at three given characters with a gap after them. -/
def isAtMarker (c : Cursor) (x : Char) : Bool :=
  c.rest.take 3 == [.char x, .char x, .char x] && isGap (c.peek? 3)

/-- Whether a place is at a mark for the start or the end of a document. -/
def isAtDocumentMark (c : Cursor) : Bool := c.isAtMarker '-' || c.isAtMarker '.'

/-- Whether a place is the end of the text. -/
def isAtEnd (c : Cursor) : Bool := c.rest.isEmpty

end Cursor

end ExamPress.Yaml
