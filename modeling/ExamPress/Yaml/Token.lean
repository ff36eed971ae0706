import ExamPress.Yaml.Scalar

/-! # Tokens

The tokens of a YAML text. Collections that are written by indentation have tokens for their start
and end like those in brackets; a key that is not announced by a question mark has its token put in
front of it once its colon is met. -/

namespace ExamPress.Yaml

/-- A directive: the version of the format, what a handle of tags stands for, or one that is passed
over. -/
inductive Directive where
  | version (major minor : Nat)
  | handle (handle stands : Text)
  | other
deriving DecidableEq, Repr

/-- A tag as it is written: a handle, unless the tag is a full name, and a name. -/
structure WrittenTag where
  handle : Option Text
  name : Text
deriving DecidableEq, Repr

/-- A token. -/
inductive Token where
  | directive (directive : Directive)
  | documentStart
  | documentEnd
  | blockSequenceStart
  | blockMappingStart
  | blockEnd
  | flowSequenceStart
  | flowSequenceEnd
  | flowMappingStart
  | flowMappingEnd
  | blockEntry
  | flowEntry
  | key
  | value
  | alias (name : Text)
  | anchor (name : Text)
  | tag (tag : WrittenTag)
  | scalar (text : Text) (isPlain : Bool)
  | textEnd
deriving DecidableEq, Repr

/-! ### Names -/

/-- Whether a character can stand in a name. -/
def isNameChar (c : CodePoint) : Bool := c.isAlphanum || c == '-' || c == '_'

/-- Whether an alias or an anchor can end here. -/
def endsName (c : Option CodePoint) : Bool :=
  isGap c || c.any (['?', ':', ',', ']', '\x7d', '%', '@', '\x60'] : Text).contains

/-- The name of the alias or anchor at a place. -/
def readName (c : Cursor) : Except Fault (Text × Cursor) :=
  let (name, after) := c.next.takeWhile isNameChar
  if name.isEmpty ∨ !endsName (after.peek? 0) then .error .malformed else .ok (name, after)

/-! ### Tags -/

/-- Whether a character can stand in a tag. A percent sign announces a byte. -/
def isTagChar (c : CodePoint) : Bool :=
  isNameChar c || "-;/?:@&=+$,_.!~*'()[]".toText.contains c

/-- The bytes that percent signs at a place announce. -/
def tagBytes (budget : Nat) (c : Cursor) : Except Fault (List Nat × Cursor) :=
  match budget, c.rest with
  | budget + 1, .char '%' :: high :: low :: _ =>
    match Text.Percent.hexValue? high, Text.Percent.hexValue? low with
    | some h, some l =>
      (tagBytes budget (c.forward 3)).map fun (bytes, c) => ((16 * h + l) :: bytes, c)
    | _, _ => .error .malformed
  | _, .char '%' :: _ => .error .malformed
  | _, _ => .ok ([], c)

/-- The name in a tag from a place on. The bytes that percent signs announce one after the other are
a text in UTF-8. -/
def tagNameRest (budget : Nat) (c : Cursor) : Except Fault (Text × Cursor) :=
  match budget with
  | 0 => .error .malformed
  | budget + 1 => do
    let (part, c) := c.takeWhile isTagChar
    if !c.isAt '%' then return (part, c)
    let (bytes, c) ← tagBytes (c.rest.length + 1) c
    let text ← (Text.Utf8.decode bytes).mapError fun _ => Fault.malformed
    let (more, c) ← tagNameRest budget c
    return (part ++ text ++ more, c)

/-- The name in a tag at a place. -/
def readTagName (c : Cursor) : Except Fault (Text × Cursor) :=
  if (c.peek? 0).any fun x => isTagChar x || x == '%' then tagNameRest (c.rest.length + 1) c
  else .error .malformed

/-- The handle at a place: an exclamation mark, or two with a name between them. A single one is
followed by a space. -/
def readHandle (c : Cursor) : Except Fault (Text × Cursor) :=
  if !c.isAt '!' then .error .malformed
  else if c.next.isAt ' ' then .ok (['!'], c.next)
  else
    let (name, after) := c.next.takeWhile isNameChar
    if after.isAt '!' then .ok ("!".toText ++ name ++ "!".toText, after.next)
    else .error .malformed

/-- The tag at a place. -/
def readTag (c : Cursor) : Except Fault (WrittenTag × Cursor) := do
  let (tag, after) ←
    if c.next.isAt '<' then
      let (name, after) ← readTagName (c.forward 2)
      if !after.isAt '>' then throw .malformed
      pure (⟨none, name⟩, after.next)
    else if isGap (c.peek? 1) then pure (⟨none, ['!']⟩, c.next)
    else
      let word := (c.next.takeWhile fun x => x != ' ' && !isBreak x).1
      let (handle, after) ←
        if word.contains '!' then readHandle c else pure ((['!'] : Text), c.next)
      let (name, after) ← readTagName after
      pure (⟨some handle, name⟩, after)
  if isSpaceOrEnd (after.peek? 0) then return (tag, after) else throw .malformed

/-! ### Directives -/

/-- The number at a place. -/
def readNumber (c : Cursor) : Except Fault (Nat × Cursor) := do
  let (digits, after) := c.takeWhile CodePoint.isDigit
  if digits.isEmpty then throw .malformed
  let number ← (Whole.read 10 digits).mapError .number
  return (number.toNat, after)

/-- The version at a place. -/
def readVersion (c : Cursor) : Except Fault (Directive × Cursor) := do
  let (major, c) ← readNumber c.dropSpaces
  if !c.isAt '.' then throw .malformed
  let (minor, c) ← readNumber c.next
  if isSpaceOrEnd (c.peek? 0) then return (.version major minor, c) else throw .malformed

/-- A handle and what it stands for. -/
def readHandleDirective (c : Cursor) : Except Fault (Directive × Cursor) := do
  let (handle, c) ← readHandle c.dropSpaces
  if !c.isAt ' ' then throw .malformed
  let (stands, c) ← readTagName c.dropSpaces
  if isSpaceOrEnd (c.peek? 0) then return (.handle handle stands, c) else throw .malformed

/-- The directive at a place. A comment may follow it. -/
def readDirective (c : Cursor) : Except Fault (Directive × Cursor) := do
  let (name, after) := c.next.takeWhile isNameChar
  if name.isEmpty ∨ !isSpaceOrEnd (after.peek? 0) then throw .malformed
  let (directive, c) ←
    if name = "YAML".toText then readVersion after
    else if name = "TAG".toText then readHandleDirective after
    else pure (.other, after.dropWhile fun x => !isBreak x)
  let last := c.dropSpaces.dropComment
  if isLineEnd (last.peek? 0) then return (directive, last) else throw .malformed

end ExamPress.Yaml
