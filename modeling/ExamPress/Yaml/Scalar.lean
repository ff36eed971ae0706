import ExamPress.Text.Percent
import ExamPress.Yaml.Cursor
import ExamPress.Yaml.Fault

/-! # Scalars

The text forms of scalars: plain, in single or double quotation marks, and as a block of lines. A
single line break in a plain or quoted scalar is a space; of more than one, the first is dropped.
What is read of a scalar is kept with its last character first. -/

namespace ExamPress.Yaml

/-! ### Quoted scalars -/

/-- The characters that follow a backslash and stand for one character. -/
def escapes : List (Char × Char) := [
  ('0', '\x00'), ('a', '\x07'), ('b', '\x08'), ('t', '\t'), ('\t', '\t'), ('n', '\n'),
  ('v', '\x0b'), ('f', '\x0c'), ('r', '\r'), ('e', '\x1b'), (' ', ' '), ('"', '"'),
  ('\\', '\\'), ('/', '/'), ('N', '\u0085'), ('_', '\u00a0'), ('L', '\u2028'), ('P', '\u2029')]

/-- The number of digits after the letter of a numeric escape. -/
def escapeLength? (c : CodePoint) : Option Nat :=
  match c with
  | .char 'x' => some 2
  | .char 'u' => some 4
  | .char 'U' => some 8
  | _ => none

/-- The number of hexadecimal digits. -/
def hexNumber? (digits : Text) : Option Nat :=
  digits.foldlM (fun n c => (Text.Percent.hexValue? c).map (16 * n + ·)) 0

/-- The code point of a number in an escape. -/
def codePointOf (n : Nat) : Except Fault CodePoint :=
  if n < 0x110000 then .ok (.ofNat n)
  else if n < 0x80000000 then .error .escapeOutOfRange
  else .error .escapeTooLarge

/-- The line breaks from a place in a quoted scalar on, without the blanks around them. -/
def quotedBreaks (budget : Nat) (c : Cursor) : Except Fault (Text × Cursor) :=
  match budget with
  | 0 => .error .malformed
  | budget + 1 =>
    if c.isAtDocumentMark then .error .malformed
    else
      let c := c.dropWhile isSpaceOrTab
      match c.lineBreak? with
      | none => .ok ([], c)
      | some (one, c) => (quotedBreaks budget c).map fun (more, c) => (one :: more, c)

/-- A line break with the breaks after it, as it counts in a scalar. -/
def fold (one : CodePoint) (more : Text) : Text :=
  if one ≠ '\n' then one :: more else if more.isEmpty then [' '] else more

/-- The blanks at a place in a quoted scalar. -/
def quotedSpaces (c : Cursor) : Except Fault (Text × Cursor) :=
  let (spaces, c) := c.takeWhile isSpaceOrTab
  match c.lineBreak? with
  | some (one, c) =>
    (quotedBreaks (c.rest.length + 1) c).map fun (more, c) => (fold one more, c)
  | none => if c.isAtEnd then .error .malformed else .ok (spaces, c)

/-- The character of a numeric escape with so many digits after a place. -/
def numericEscape (length : Nat) (c : Cursor) : Except Fault (Text × Cursor) :=
  let digits := c.rest.take length
  match hexNumber? digits with
  | none => .error .malformed
  | some n =>
    if digits.length < length then .error .malformed
    else (codePointOf n).map fun x => ([x], c.forward length)

/-- The character or the line break after a backslash. -/
def escaped (c : Cursor) : Except Fault (Text × Cursor) :=
  match c.rest with
  | [] => .error .malformed
  | x :: _ =>
    match escapes.find? fun entry => x = entry.1, escapeLength? x, c.lineBreak? with
    | some (_, y), _, _ => .ok ([.char y], c.next)
    | none, some length, _ => numericEscape length c.next
    | none, none, some (_, c) => quotedBreaks (c.rest.length + 1) c
    | none, none, none => .error .malformed

/-- The text of a quoted scalar from a place after its first mark on, and the place after its last
mark. -/
def quotedRest (budget : Nat) (mark : Char) (reversed : Text) (c : Cursor) :
    Except Fault (Text × Cursor) :=
  match budget with
  | 0 => .error .malformed
  | budget + 1 =>
    match c.rest with
    | [] => .error .malformed
    | x :: rest =>
      if x = mark then
        if mark = '\x27' ∧ rest.head? = some '\x27' then
          quotedRest budget mark (.char '\x27' :: reversed) (c.forward 2)
        else .ok (reversed.reverse, c.next)
      else if isSpaceOrTab x ∨ isBreak x then
        match quotedSpaces c with
        | .error fault => .error fault
        | .ok (spaces, c) => quotedRest budget mark (spaces.reverse ++ reversed) c
      else if x = '\\' ∧ mark = '"' then
        match escaped c.next with
        | .error fault => .error fault
        | .ok (text, c) => quotedRest budget mark (text.reverse ++ reversed) c
      else quotedRest budget mark (x :: reversed) c.next

/-- The text of the quoted scalar at a place. -/
def quoted (mark : Char) (c : Cursor) : Except Fault (Text × Cursor) :=
  quotedRest (c.rest.length + 1) mark [] c.next

/-! ### Plain scalars -/

/-- Whether a character is a bracket, a brace or a comma. -/
def isFlowMark (c : CodePoint) : Bool := ([',', '[', ']', '\x7b', '\x7d'] : Text).contains c

/-- Whether a plain scalar ends, at least for a while, before a character and what follows it. -/
def endsPlain (inFlow : Bool) (x : CodePoint) (following : Option CodePoint) : Bool :=
  isSpaceOrTab x || isBreak x ||
    (x == ':' && (isGap following || (inFlow && following.any isFlowMark))) ||
    (inFlow && (isFlowMark x || x == '?'))

/-- How many characters of a plain scalar stand together at the front of a text. -/
def chunkLength (inFlow : Bool) : Text → Nat
  | [] => 0
  | x :: rest => if endsPlain inFlow x rest.head? then 0 else chunkLength inFlow rest + 1

/-- The line breaks from a place in a plain scalar on. There are none to go on with if a mark of the
document follows. -/
def plainBreaks (budget : Nat) (c : Cursor) : Option Text × Cursor :=
  match budget with
  | 0 => (none, c)
  | budget + 1 =>
    let c := c.dropSpaces
    match c.lineBreak? with
    | none => (some [], c)
    | some (one, c) =>
      if c.isAtDocumentMark then (none, c)
      else
        let (more, c) := plainBreaks budget c
        (more.map (one :: ·), c)

/-- The blanks at a place in a plain scalar, with the place after them, and whether a line ends in
them. -/
def plainSpaces (c : Cursor) : Option Text × Cursor × Bool :=
  let (spaces, c) := c.takeWhile (· == .char ' ')
  match c.lineBreak? with
  | none => (some spaces, c, false)
  | some (one, c) =>
    if c.isAtDocumentMark then (none, c, true)
    else
      let (more, c) := plainBreaks (c.rest.length + 1) c
      (more.map (fold one), c, true)

/-- The text of a plain scalar from a place on, after a text and blanks that may belong to it, the
place after the scalar and the blanks behind it, and whether it ends with its line. -/
def plainRest (budget : Nat) (inFlow : Bool) (indent : Int) (reversed spaces : Text) (ended : Bool)
    (c : Cursor) : Text × Cursor × Bool :=
  let length := chunkLength inFlow c.rest
  match budget with
  | 0 => (reversed.reverse, c, ended)
  | budget + 1 =>
    if c.isAt '#' ∨ length = 0 then (reversed.reverse, c, ended)
    else
      let reversed := (c.rest.take length).reverse ++ (spaces.reverse ++ reversed)
      let (spaces, c, ended) := plainSpaces (c.forward length)
      match spaces with
      | none | some [] => (reversed.reverse, c, ended)
      | some spaces =>
        if !inFlow ∧ (c.column : Int) ≤ indent then (reversed.reverse, c, ended)
        else plainRest budget inFlow indent reversed spaces ended c

/-- The text of the plain scalar at a place in a block of an indentation. -/
def plain (inFlow : Bool) (indent : Int) (c : Cursor) : Text × Cursor × Bool :=
  plainRest (c.rest.length + 1) inFlow indent [] [] false c

/-! ### Block scalars -/

/-- What becomes of the line breaks at the end of a block scalar. -/
inductive Chomping where
  | strip
  | clip
  | keep
deriving DecidableEq, Repr

/-- The chomping that a character asks for. -/
def chomping? : Option CodePoint → Option Chomping
  | some (.char '-') => some .strip
  | some (.char '+') => some .keep
  | _ => none

/-- The indentation that a character asks for. -/
def increment? (c : Option CodePoint) : Option Nat :=
  c.bind fun c => if c.isBetween '1' '9' then some c.digitValue else none

/-- The header of a block scalar: chomping and indentation in any order, and a comment. -/
def blockHeader (c : Cursor) : Except Fault (Chomping × Option Nat × Cursor) :=
  let (chomping, increment, c) :=
    match chomping? (c.peek? 0), increment? (c.peek? 0) with
    | some chomping, _ =>
      match increment? (c.peek? 1) with
      | some n => (chomping, some n, c.forward 2)
      | none => (chomping, none, c.next)
    | none, some n =>
      match chomping? (c.peek? 1) with
      | some chomping => (chomping, some n, c.forward 2)
      | none => (.clip, some n, c.next)
    | none, none => (.clip, none, c)
  let last := c.dropSpaces.dropComment
  if isSpaceOrEnd (c.peek? 0) ∧ isLineEnd (last.peek? 0) then
    .ok (chomping, increment, ((last.lineBreak?).map Prod.snd).getD last)
  else .error .malformed

/-- The place after at most so many spaces. -/
def dropIndent (c : Cursor) : Nat → Cursor
  | 0 => c
  | n + 1 => if c.isAt ' ' then dropIndent c.next n else c

/-- The empty lines from a place on, where a line has to be indented so far. -/
def blockBreaks (budget : Nat) (indent : Nat) (c : Cursor) : Text × Cursor :=
  let c := dropIndent c (indent - c.column)
  match budget, c.lineBreak? with
  | budget + 1, some (one, c) =>
    let (more, c) := blockBreaks budget indent c
    (one :: more, c)
  | _, _ => ([], c)

/-- The empty lines from a place on, with the largest column that spaces reach. -/
def leadingBreaks (budget : Nat) (widest : Nat) (c : Cursor) : Text × Nat × Cursor :=
  match budget with
  | 0 => ([], widest, c)
  | budget + 1 =>
    let c := c.dropSpaces
    let widest := max widest c.column
    match c.lineBreak? with
    | none => ([], widest, c)
    | some (one, c) =>
      let (more, widest, c) := leadingBreaks budget widest c
      (one :: more, widest, c)

/-- The lines of a block scalar from a place on, after a text and the breaks before the place. -/
def blockLines (budget : Nat) (folded : Bool) (chomping : Chomping) (indent : Nat)
    (reversed breaks : Text) (c : Cursor) : Text × Cursor :=
  match budget with
  | 0 => (reversed.reverse, c)
  | budget + 1 =>
    let startsBlank := (c.peek? 0).any isSpaceOrTab
    let (line, c) := c.takeWhile fun x => !isBreak x
    let reversed := line.reverse ++ (breaks.reverse ++ reversed)
    let (one, c) : Text × Cursor :=
      match c.lineBreak? with
      | some (one, c) => ([one], c)
      | none => ([], c)
    let (breaks, c) := blockBreaks (c.rest.length + 1) indent c
    if c.column = indent ∧ !c.isAtEnd then
      let joined : Text :=
        if folded ∧ one = "\n".toText ∧ !startsBlank ∧ !(c.peek? 0).any isSpaceOrTab then
          if breaks.isEmpty then [' '] else []
        else one
      blockLines budget folded chomping indent (joined ++ reversed) breaks c
    else
      (match chomping with
        | .strip => reversed.reverse
        | .clip => reversed.reverse ++ one
        | .keep => reversed.reverse ++ one ++ breaks, c)

/-- The text of the block scalar at a place in a block of an indentation. -/
def block (folded : Bool) (indent : Int) (c : Cursor) : Except Fault (Text × Cursor) :=
  match blockHeader c.next with
  | .error fault => .error fault
  | .ok (chomping, increment, c) =>
    let least := max 1 (indent + 1).toNat
    let (breaks, indent, c) :=
      match increment with
      | some n =>
        let (breaks, c) := blockBreaks (c.rest.length + 1) (least + n - 1) c
        (breaks, least + n - 1, c)
      | none =>
        let (breaks, widest, c) := leadingBreaks (c.rest.length + 1) 0 c
        (breaks, max least widest, c)
    if c.column = indent ∧ !c.isAtEnd then
      .ok (blockLines (c.rest.length + 1) folded chomping indent [] breaks c)
    else .ok (if chomping = .keep then breaks else [], c)

end ExamPress.Yaml
