import ExamPress.Yaml.Scan
import ExamPress.Yaml.Tag

/-! # Nodes

The tokens of a text stand for a graph of nodes. A scalar, a sequence or a mapping has a tag. An
alias stands for the node that was anchored by its name before, which may be one around it. A text
holds at most one document. -/

namespace ExamPress.Yaml

/-- A node. Nodes inside it are given by their numbers. -/
inductive Node where
  | scalar (tag : Tag) (text : Text)
  | sequence (tag : Tag) (items : List Nat)
  | mapping (tag : Tag) (pairs : List (Nat × Nat))
deriving Repr

/-- The tag of a node. -/
def Node.tag : Node → Tag
  | scalar tag _ => tag
  | sequence tag _ => tag
  | mapping tag _ => tag

/-- The nodes of a text by their numbers. -/
abbrev Graph := Array Node

/-- What is left of the tokens with the fault behind them, what the handles of tags stand for, and
the nodes and anchors so far. -/
structure Stream where
  tokens : List Token
  fault : Fault
  handles : List (Text × Text) := []
  graph : Graph := #[]
  anchors : List (Text × Nat) := []

namespace Stream

/-- The next token. -/
def peek (s : Stream) : Except Fault Token :=
  match s.tokens with
  | token :: _ => .ok token
  | [] => .error s.fault

/-- The stream without its next token. -/
def tail (s : Stream) : Stream := { s with tokens := s.tokens.drop 1 }

/-- A new node that may have an anchor, which must be new. -/
def add (s : Stream) (anchor : Option Text) (node : Node) : Except Fault (Nat × Stream) :=
  let number := s.graph.size
  let graph := s.graph.push node
  match anchor with
  | none => .ok (number, { s with graph })
  | some name =>
    if s.anchors.any fun entry => entry.1 = name then .error .malformed
    else .ok (number, { s with graph, anchors := (name, number) :: s.anchors })

/-- The stream with the content of a node that was added before. -/
def fill (s : Stream) (number : Nat) (node : Node) : Nat × Stream :=
  (number, { s with graph := s.graph.setIfInBounds number node })

/-- The node that stands where there is none. -/
def addEmpty (s : Stream) : Except Fault (Nat × Stream) := s.add none (.scalar .null [])

/-- The anchor and the tag in front of a node, in any order. -/
def properties (s : Stream) : Except Fault (Option Text × Option WrittenTag × Stream) := do
  match ← s.peek with
  | .anchor name =>
    match ← s.tail.peek with
    | .tag tag => return (some name, some tag, s.tail.tail)
    | _ => return (some name, none, s.tail)
  | .tag tag =>
    match ← s.tail.peek with
    | .anchor name => return (some name, some tag, s.tail.tail)
    | _ => return (none, some tag, s.tail)
  | _ => return (none, none, s)

/-- The full name of a tag. Its handle must be known. -/
def fullName (s : Stream) (tag : WrittenTag) : Except Fault Text :=
  match tag.handle with
  | none => .ok tag.name
  | some handle =>
    match s.handles.find? fun entry => entry.1 = handle with
    | some (_, stands) => .ok (stands ++ tag.name)
    | none => .error .malformed

end Stream

/-- The name that leaves a tag open. -/
def openName : Text := "!".toText

/-- The tag of a scalar. If it is left open, the form of the text counts. -/
def scalarTag (name : Option Text) (text : Text) (isPlain : Bool) : Tag :=
  match name with
  | none => if isPlain then .ofPlain text else .str
  | some name => if name = openName then .ofPlain text else .ofName name

/-- The tag of a collection, which is a standard one unless it is given. -/
def collectionTag (name : Option Text) (standard : Tag) : Tag :=
  match name with
  | none => standard
  | some name => if name = openName then standard else .ofName name

/-- The stream after the comma before the next item of a collection in brackets. There is none
before the first item or the end. -/
def afterComma (ending : Token) (isFirst : Bool) (s : Stream) : Except Fault Stream := do
  let next ← s.peek
  if next = ending ∨ isFirst then return s
  else if next = .flowEntry then return s.tail
  else throw .malformed

mutual

/-- The node at the front of a stream. Blocks are allowed in it or not, and so is a sequence that
is not indented further than the key before it. -/
def readNode (budget : Nat) (blocks unindented : Bool) (s : Stream) :
    Except Fault (Nat × Stream) :=
  match budget with
  | 0 => .error .malformed
  | budget + 1 => do
    if let .alias name ← s.peek then
      match s.anchors.find? fun entry => entry.1 = name with
      | some (_, number) => return (number, s.tail)
      | none => throw .malformed
    let (anchor, tag, s) ← s.properties
    let name ← tag.mapM s.fullName
    let sequence := collectionTag name .seq
    let mapping := collectionTag name .map
    let next ← s.peek
    match next with
    | .scalar text isPlain => s.tail.add anchor (.scalar (scalarTag name text isPlain) text)
    | .flowSequenceStart =>
      let (number, s) ← s.tail.add anchor (.sequence sequence [])
      let (items, s) ← readFlowItems budget [] s
      return s.fill number (.sequence sequence items)
    | .flowMappingStart =>
      let (number, s) ← s.tail.add anchor (.mapping mapping [])
      let (pairs, s) ← readFlowPairs budget [] s
      return s.fill number (.mapping mapping pairs)
    | _ =>
      if next = .blockEntry ∧ unindented then
        let (number, s) ← s.add anchor (.sequence sequence [])
        let (items, s) ← readEntries budget false [] s
        return s.fill number (.sequence sequence items)
      else if next = .blockSequenceStart ∧ blocks then
        let (number, s) ← s.tail.add anchor (.sequence sequence [])
        let (items, s) ← readEntries budget true [] s
        return s.fill number (.sequence sequence items)
      else if next = .blockMappingStart ∧ blocks then
        let (number, s) ← s.tail.add anchor (.mapping mapping [])
        let (pairs, s) ← readPairs budget [] s
        return s.fill number (.mapping mapping pairs)
      else if anchor.isSome ∨ name.isSome then
        s.add anchor (.scalar (scalarTag name [] true) [])
      else throw .malformed

/-- The node at the front of a stream, or the empty one if one of some tokens is there. -/
def readNodeUnless (budget : Nat) (blocks unindented : Bool) (stops : List Token) (s : Stream) :
    Except Fault (Nat × Stream) :=
  match budget with
  | 0 => .error .malformed
  | budget + 1 => do
    if stops.contains (← s.peek) then s.addEmpty else readNode budget blocks unindented s

/-- The entries of a sequence that is written by dashes, after items that were read before, last one
first. Only one that is indented has an end of its own. -/
def readEntries (budget : Nat) (indented : Bool) (reversed : List Nat) (s : Stream) :
    Except Fault (List Nat × Stream) :=
  match budget with
  | 0 => .error .malformed
  | budget + 1 => do
    match ← s.peek with
    | .blockEntry =>
      let stops : List Token :=
        if indented then [.blockEntry, .blockEnd] else [.blockEntry, .key, .value, .blockEnd]
      let (number, s) ← readNodeUnless budget true false stops s.tail
      readEntries budget indented (number :: reversed) s
    | .blockEnd => return (reversed.reverse, if indented then s.tail else s)
    | _ => if indented then throw .malformed else return (reversed.reverse, s)

/-- The pairs of a mapping that is written by indentation, after pairs that were read before, last
one first. -/
def readPairs (budget : Nat) (reversed : List (Nat × Nat)) (s : Stream) :
    Except Fault (List (Nat × Nat) × Stream) :=
  match budget with
  | 0 => .error .malformed
  | budget + 1 => do
    let stops : List Token := [.key, .value, .blockEnd]
    match ← s.peek with
    | .key =>
      let (key, s) ← readNodeUnless budget true true stops s.tail
      let (value, s) ←
        if (← s.peek) = .value then readNodeUnless budget true true stops s.tail
        else s.addEmpty
      readPairs budget ((key, value) :: reversed) s
    | .blockEnd => return (reversed.reverse, s.tail)
    | _ => throw .malformed

/-- The items of a sequence in brackets, after items that were read before, last one first. A pair
among them is a mapping. -/
def readFlowItems (budget : Nat) (reversed : List Nat) (s : Stream) :
    Except Fault (List Nat × Stream) :=
  match budget with
  | 0 => .error .malformed
  | budget + 1 => do
    let s ← afterComma .flowSequenceEnd reversed.isEmpty s
    match ← s.peek with
    | .flowSequenceEnd => return (reversed.reverse, s.tail)
    | .key =>
      let (number, s) ← s.add none (.mapping .map [])
      let (pair, s) ← readFlowPair budget .flowSequenceEnd s
      let (number, s) := s.fill number (.mapping .map [pair])
      readFlowItems budget (number :: reversed) s
    | _ =>
      let (number, s) ← readNode budget false false s
      readFlowItems budget (number :: reversed) s

/-- The pairs of a mapping in braces, after pairs that were read before, last one first. -/
def readFlowPairs (budget : Nat) (reversed : List (Nat × Nat)) (s : Stream) :
    Except Fault (List (Nat × Nat) × Stream) :=
  match budget with
  | 0 => .error .malformed
  | budget + 1 => do
    let s ← afterComma .flowMappingEnd reversed.isEmpty s
    match ← s.peek with
    | .flowMappingEnd => return (reversed.reverse, s.tail)
    | .key =>
      let (pair, s) ← readFlowPair budget .flowMappingEnd s
      readFlowPairs budget (pair :: reversed) s
    | _ =>
      let (key, s) ← readNode budget false false s
      let (value, s) ← s.addEmpty
      readFlowPairs budget ((key, value) :: reversed) s

/-- The pair in a collection in brackets that starts with the token for a key. -/
def readFlowPair (budget : Nat) (ending : Token) (s : Stream) :
    Except Fault ((Nat × Nat) × Stream) :=
  match budget with
  | 0 => .error .malformed
  | budget + 1 => do
    let stops : List Token := [.flowEntry, ending]
    let (key, s) ← readNodeUnless budget false false (.value :: stops) s.tail
    let (value, s) ←
      if (← s.peek) = .value then readNodeUnless budget false false stops s.tail else s.addEmpty
    return ((key, value), s)

end

/-! ### Documents -/

/-- The handles of tags that are known in every document. -/
def knownHandles : List (Text × Text) :=
  [("!".toText, "!".toText), ("!!".toText, Tag.standardStart)]

/-- The stream after the directives at its front, if they are compatible: at most one version, whose
major number is one, and no handle twice. -/
def readDirectives (budget : Nat) (hasVersion : Bool) (s : Stream) : Except Fault Stream :=
  match budget with
  | 0 => .error .malformed
  | budget + 1 => do
    match ← s.peek with
    | .directive (.version major _) =>
      if hasVersion ∨ major ≠ 1 then throw .malformed
      readDirectives budget true s.tail
    | .directive (.handle handle stands) =>
      if s.handles.any fun entry => entry.1 = handle then throw .malformed
      readDirectives budget hasVersion { s.tail with handles := s.handles ++ [(handle, stands)] }
    | .directive .other => readDirectives budget hasVersion s.tail
    | _ => return s

/-- The stream after the start of a document with its directives. -/
def readStart (s : Stream) : Except Fault Stream := do
  let s ← readDirectives (s.tokens.length + 1) false s
  if (← s.peek) = .documentStart then
    return { s.tail with handles := s.handles ++ knownHandles }
  else throw .malformed

/-- Whether a token can not be in a document. -/
def endsDocument : Token → Bool
  | .directive _ | .documentStart | .documentEnd | .textEnd => true
  | _ => false

/-- The root of the document at the front of a stream, if there is one. -/
def readDocument (s : Stream) : Except Fault (Option Nat × Stream) := do
  let budget := 4 * s.tokens.length + 8
  match ← s.peek with
  | .textEnd => return (none, s)
  | .directive _ | .documentStart =>
    let s ← readStart s
    let (root, s) ←
      if endsDocument (← s.peek) then s.addEmpty else readNode budget true false s
    return (some root, s)
  | _ =>
    let (root, s) ← readNode budget true false { s with handles := knownHandles }
    return (some root, s)

/-- Checks that no further document follows. -/
def checkEnd (budget : Nat) (s : Stream) : Except Fault Unit :=
  match budget with
  | 0 => .error .malformed
  | budget + 1 => do
    match ← s.peek with
    | .textEnd => return ()
    | .documentEnd => checkEnd budget s.tail
    | _ =>
      let _ ← readStart { s with handles := [] }
      throw .malformed

/-- The nodes of a text, and the number of its root if it has one. -/
def readText (source : Text) : Except Fault (Option Nat × Graph) := do
  let tokens := scan source
  let (root, s) ← readDocument { tokens := tokens.list, fault := tokens.fault }
  checkEnd (s.tokens.length + 1) s
  return (root, s.graph)

end ExamPress.Yaml
