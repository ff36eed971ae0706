import ExamPress.Yaml.Token

/-! # Scanning YAML

A text is cut into tokens from the left. What the scanner keeps besides its place is the
indentation of the blocks that are open, the depth of the brackets that are open, and for each
depth the place of the last scalar or collection that may turn out to be a key. A key that is not
announced has its colon on the same line, at most 1024 characters on. A fault stands behind the
tokens that are settled when it is met: those in front of all places where a key may have started.
-/

namespace ExamPress.Yaml

/-- A place where a key may have started: how many tokens there were before, and whether a key has
to be there. -/
structure KeyStart where
  tokens : Nat
  required : Bool
  index : Nat
  line : Nat
  column : Nat
deriving Repr

/-- The state of the scanner. Tokens are kept last one first, together with their number. The list
of key starts has an entry for each depth of brackets, the innermost first. -/
structure Scanner where
  place : Cursor
  tokens : List Token := []
  count : Nat := 0
  indent : Int := -1
  indents : List Int := []
  keys : List (Option KeyStart) := [none]
  keyAllowed : Bool := true

namespace Scanner

/-- Whether the place is inside brackets. -/
def inFlow (s : Scanner) : Bool := 1 < s.keys.length

/-- The scanner after one more token, at another place. -/
def emit (s : Scanner) (token : Token) (place : Cursor) : Scanner :=
  { s with tokens := token :: s.tokens, count := s.count + 1, place }

/-- The scanner with a token put in front of those that came after a number of tokens. -/
def insertAt (s : Scanner) (count : Nat) (token : Token) : Scanner :=
  let later := s.count - count
  { s with
    tokens := s.tokens.take later ++ token :: s.tokens.drop later
    count := s.count + 1 }

/-- The place after the blanks, comments and line breaks in front of the next token, and whether a
line break is among them. -/
def skipBlank (budget : Nat) (c : Cursor) (broken : Bool) : Cursor × Bool :=
  match budget with
  | 0 => (c, broken)
  | budget + 1 =>
    let c := c.dropSpaces.dropComment
    match c.lineBreak? with
    | some (_, c) => skipBlank budget c true
    | none => (c, broken)

/-- Closes the blocks that are indented further than a column. -/
def unwind (s : Scanner) (column : Int) : Scanner :=
  if s.inFlow then s
  else
    let closed := (s.indent :: s.indents).takeWhile (column < ·)
    let left := (s.indent :: s.indents).drop closed.length
    { s with
      tokens := closed.map (fun _ => Token.blockEnd) ++ s.tokens
      count := s.count + closed.length
      indent := left.headD (-1)
      indents := left.drop 1 }

/-- Opens a block at a column, unless one is open there. The token for it is put after a number of
tokens. -/
def openBlock (s : Scanner) (column : Nat) (count : Nat) (token : Token) : Scanner :=
  if s.indent < column then
    { s.insertAt count token with indent := column, indents := s.indent :: s.indents }
  else s

/-- Forgets the key start at the present depth. It is a fault if a key has to be there. -/
def dropKey (s : Scanner) : Except Fault Scanner :=
  match s.keys with
  | some key :: keys =>
    if key.required then .error .malformed else .ok { s with keys := none :: keys }
  | _ => .ok s

/-- Whether a key start is too far behind a place. -/
def isStale (c : Cursor) (key : KeyStart) : Bool :=
  key.line != c.line || 1024 < c.index - key.index

/-- The key starts that are not too far behind. -/
def freshKeys (s : Scanner) : List (Option KeyStart) :=
  s.keys.map fun key => key.filter fun k => !isStale s.place k

/-- Forgets the key starts that are too far behind. -/
def dropStale (s : Scanner) : Except Fault Scanner :=
  if s.keys.any fun key => key.any fun k => isStale s.place k && k.required then
    .error .malformed
  else .ok { s with keys := s.freshKeys }

/-- The tokens that are settled: a key may still be put in front of the others. -/
def settled (s : Scanner) : List Token :=
  let count := s.freshKeys.foldl (fun n key => (key.map fun k => min n k.tokens).getD n) s.count
  (s.tokens.drop (s.count - count)).reverse

/-- Remembers the place as one where a key may start. -/
def saveKey (s : Scanner) : Except Fault Scanner := do
  if !s.keyAllowed then return s
  let s ← s.dropKey
  let key : KeyStart :=
    { tokens := s.count
      required := !s.inFlow && s.indent == s.place.column
      index := s.place.index
      line := s.place.line
      column := s.place.column }
  return { s with keys := some key :: s.keys.drop 1 }

/-- Ends all blocks, before a directive, a mark for a document, or the end of the text. -/
def closeAll (s : Scanner) : Except Fault Scanner := do
  let s ← (s.unwind (-1)).dropKey
  return { s with keyAllowed := false }

/-- The start of a collection in brackets. -/
def openFlow (s : Scanner) (token : Token) : Except Fault Scanner := do
  let s ← s.saveKey
  return { s.emit token s.place.next with keys := none :: s.keys, keyAllowed := true }

/-- The end of a collection in brackets. -/
def closeFlow (s : Scanner) (token : Token) : Except Fault Scanner := do
  let s ← s.dropKey
  if !s.inFlow then throw .malformed
  return { s.emit token s.place.next with keys := s.keys.drop 1, keyAllowed := false }

/-- A comma between the entries of a collection in brackets. -/
def flowEntry (s : Scanner) : Except Fault Scanner := do
  let s ← s.dropKey
  return { s.emit .flowEntry s.place.next with keyAllowed := true }

/-- An indicator that may open a block: a dash before an entry, or a question mark before a key. -/
def blockIndicator (s : Scanner) (start token : Token) (keyAfter : Bool) :
    Except Fault Scanner := do
  if !s.inFlow && !s.keyAllowed then throw .malformed
  let s := if s.inFlow then s else s.openBlock s.place.column s.count start
  let s ← { s with keyAllowed := keyAfter }.dropKey
  return s.emit token s.place.next

/-- A colon before a value. -/
def value (s : Scanner) : Except Fault Scanner :=
  match s.keys with
  | some key :: keys =>
    let s := { s.insertAt key.tokens .key with keys := none :: keys, keyAllowed := false }
    let s := if s.inFlow then s else s.openBlock key.column key.tokens .blockMappingStart
    .ok (s.emit .value s.place.next)
  | _ => s.blockIndicator .blockMappingStart .value !s.inFlow

/-- A scalar, an alias, an anchor or a tag, at which a key may start. -/
def content (s : Scanner) (read : Cursor → Except Fault (Token × Cursor)) :
    Except Fault Scanner := do
  let s ← s.saveKey
  let (token, place) ← read s.place
  return { s.emit token place with keyAllowed := false }

/-- A block scalar. -/
def blockScalar (s : Scanner) (folded : Bool) : Except Fault Scanner := do
  let s ← s.dropKey
  let (text, place) ← block folded s.indent s.place
  return { s.emit (.scalar text false) place with keyAllowed := true }

/-- A plain scalar. -/
def plainScalar (s : Scanner) : Except Fault Scanner := do
  let s ← s.saveKey
  let (text, place, ended) := plain s.inFlow s.indent s.place
  return { s.emit (.scalar text true) place with keyAllowed := ended }

/-- A mark for the start or the end of a document. -/
def documentMark (s : Scanner) (token : Token) : Except Fault Scanner := do
  let s ← s.closeAll
  return s.emit token (s.place.forward 3)

/-- Whether a plain scalar can start with a character. -/
def startsPlain (inFlow : Bool) (x : CodePoint) (following : Option CodePoint) : Bool :=
  if x == '-' then !isGap following
  else if x == '?' || x == ':' then !inFlow && !isGap following
  else !(isSpaceOrTab x || isBreak x || isFlowMark x || "#&*!|>'\"%@\x60".toText.contains x)

/-- The token at a place that starts with a character. -/
def tokenAt (s : Scanner) (x : CodePoint) : Except Fault Scanner :=
  let c := s.place
  let following := c.peek? 1
  if x = '%' ∧ c.column = 0 then do
    let s ← s.closeAll
    let (directive, place) ← readDirective c
    return s.emit (.directive directive) place
  else if c.column = 0 ∧ c.isAtMarker '-' then s.documentMark .documentStart
  else if c.column = 0 ∧ c.isAtMarker '.' then s.documentMark .documentEnd
  else if x = '[' then s.openFlow .flowSequenceStart
  else if x = '\x7b' then s.openFlow .flowMappingStart
  else if x = ']' then s.closeFlow .flowSequenceEnd
  else if x = '\x7d' then s.closeFlow .flowMappingEnd
  else if x = ',' then s.flowEntry
  else if x = '-' ∧ isGap following then s.blockIndicator .blockSequenceStart .blockEntry true
  else if x = '?' ∧ (s.inFlow ∨ isGap following) then
    s.blockIndicator .blockMappingStart .key !s.inFlow
  else if x = ':' ∧ (s.inFlow ∨ isGap following) then s.value
  else if x = '*' then s.content fun c => (readName c).map fun (n, c) => (.alias n, c)
  else if x = '&' then s.content fun c => (readName c).map fun (n, c) => (.anchor n, c)
  else if x = '!' then s.content fun c => (readTag c).map fun (t, c) => (.tag t, c)
  else if (x = '|' ∨ x = '>') ∧ !s.inFlow then s.blockScalar (x = '>')
  else if x = '\x27' then
    s.content fun c => (quoted '\x27' c).map fun (text, c) => (.scalar text false, c)
  else if x = '"' then
    s.content fun c => (quoted '"' c).map fun (text, c) => (.scalar text false, c)
  else if startsPlain s.inFlow x following then s.plainScalar
  else .error .malformed

/-- The scanner after the next token, or after the end of the text, and whether it is the end. -/
def advance (s : Scanner) : Except Fault (Scanner × Bool) := do
  let (place, broken) := skipBlank (s.place.rest.length + 1) s.place false
  let s := { s with place, keyAllowed := s.keyAllowed || (broken && !s.inFlow) }
  let s := (← s.dropStale).unwind place.column
  match place.peek? 0 with
  | none => return ((← s.closeAll).emit .textEnd place, true)
  | some x => return (← s.tokenAt x, false)

end Scanner

/-- The tokens of a text in front of its end or of the first fault. -/
structure Tokens where
  list : List Token
  fault : Fault
deriving Repr

/-- The tokens from a place on. Each takes at least one character. -/
def Scanner.run (budget : Nat) (s : Scanner) : Tokens :=
  match budget with
  | 0 => ⟨[], .malformed⟩
  | budget + 1 =>
    match s.advance with
    | .error fault => ⟨s.settled, fault⟩
    | .ok (s, true) => ⟨s.tokens.reverse, .malformed⟩
    | .ok (s, false) => run budget s

/-- Whether a character can stand in a YAML text. -/
def isYamlChar (c : CodePoint) : Bool :=
  let n := c.toNat
  n == 0x09 || n == 0x0a || n == 0x0d || (0x20 ≤ n && n ≤ 0x7e) || n == 0x85 ||
    (0xa0 ≤ n && n ≤ 0xd7ff) || (0xe000 ≤ n && n ≤ 0xfffd) || 0x10000 ≤ n

/-- The tokens of a text. A byte order mark in front of it is dropped. -/
def scan (source : Text) : Tokens :=
  if source.all isYamlChar then
    let source := if source.head? = some '\ufeff' then source.drop 1 else source
    Scanner.run (source.length + 2) { place := { rest := source } }
  else ⟨[], .malformed⟩

end ExamPress.Yaml
