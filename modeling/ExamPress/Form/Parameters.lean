import ExamPress.Text.Blank
import ExamPress.Text.Lower
import ExamPress.Text.Percent

/-! # Headers with parameters

The value of a header may be followed by named parameters, with a semicolon before each. What a
parameter says may be in quotation marks. A long one may be cut into numbered pieces, each under the
name followed by an asterisk and its number; an asterisk at the end of the name says that percent
signs are resolved and that the coding and the language are told in front. -/

namespace ExamPress.Form

/-- The value of a header, and its parameters in order. -/
structure Header where
  value : Text
  parameters : List (Text × Text)
deriving DecidableEq, Repr

namespace Header

/-- What a parameter of a name says. The last one counts. -/
def parameter? (h : Header) (name : String) : Option Text :=
  ((h.parameters.filter fun entry => entry.1 = name.toText).map Prod.snd).getLast?

/-- The pieces of a text between its semicolons, without those inside quotation marks. A mark that
follows a backslash does not count. -/
def splitPieces (afterBackslash quoted : Bool) : Text → List Text
  | [] => [[]]
  | c :: rest =>
    if c = ';' ∧ !quoted then [] :: splitPieces false false rest
    else
      let quoted := if c = '"' ∧ !afterBackslash then !quoted else quoted
      match splitPieces (c = '\\') quoted rest with
      | piece :: pieces => (c :: piece) :: pieces
      | [] => [[c]]

/-- The name of a piece in lower case, and what it says. A piece without an equals sign is a name.
-/
def splitPiece (piece : Text) : Text × Text :=
  let name := piece.takeWhile fun (c : CodePoint) => c != '='
  match piece.drop name.length with
  | _ :: rest => (Text.lower (Text.strip name), Text.strip rest)
  | [] => (Text.strip piece, [])

/-- A text with each pair of characters replaced by its second one. -/
def dropFirstOf (first second : CodePoint) : Text → Text
  | [] => []
  | [c] => [c]
  | c :: d :: rest =>
    if c = first ∧ d = second then d :: dropFirstOf first second rest
    else c :: dropFirstOf first second (d :: rest)

/-- A text without the quotation marks, or the angle brackets, around it. -/
def unquote (s : Text) : Text :=
  let inside := s.tail.dropLast
  if s.length ≤ 1 then s
  else if s.head? = some '"' ∧ s.getLast? = some '"' then
    dropFirstOf '\\' '"' (dropFirstOf '\\' '\\' inside)
  else if s.head? = some '<' ∧ s.getLast? = some '>' then inside
  else s

/-! ### Parameters in pieces -/

/-- A piece of a parameter: its number, if it has one, what it says, and whether percent signs are
to be resolved in it. -/
structure Piece where
  number : Option Nat
  content : Text
  encoded : Bool
deriving DecidableEq, Repr

/-- Whether a character can be in the name of a parameter in pieces. -/
def isNameChar (c : CodePoint) : Bool := c.isAlphanum || c == '_'

/-- The name of a parameter and the piece of it that stands under a name with an asterisk. -/
def piece? (name content : Text) : Option (Text × Piece) :=
  let word := name.takeWhile isNameChar
  match word.isEmpty, name.drop word.length with
  | false, [.char '*'] => some (word, ⟨none, content, true⟩)
  | false, .char '*' :: number =>
    let digits := number.takeWhile CodePoint.isDigit
    match digits.isEmpty, number.drop digits.length with
    | false, [] => some (word, ⟨some (Text.toNat digits), content, false⟩)
    | false, [.char '*'] => some (word, ⟨some (Text.toNat digits), content, true⟩)
    | _, _ => none
  | _, _ => none

/-- Whether a text comes before another one, or is it, in the order of code points. -/
def isLess : Text → Text → Bool
  | [], _ => true
  | _ :: _, [] => false
  | c :: s, d :: t => if c = d then isLess s t else c.toNat < d.toNat

/-- The order of pieces: by number, then by what they say. -/
def Piece.isLess (a b : Piece) : Bool :=
  if a.number = b.number then
    if a.content = b.content then !a.encoded || b.encoded else Header.isLess a.content b.content
  else a.number.getD 0 < b.number.getD 0

/-- What follows the second apostrophe of a text, or the text itself if it has none. -/
def dropCoding (s : Text) : Text :=
  let rest := (s.dropWhile fun (c : CodePoint) => c != '\x27').drop 1
  let after := rest.dropWhile fun (c : CodePoint) => c != '\x27'
  if after.isEmpty then s else after.drop 1

/-- Percent signs resolved, each to the character whose number is the byte. -/
def resolve (s : Text) : Text :=
  s.splitBy (fun a b => Text.Repertoire.ascii.contains a == Text.Repertoire.ascii.contains b)
    |>.flatMap fun stretch =>
      if stretch.all Text.Repertoire.ascii.contains then
        (Text.Percent.decodeBytes stretch).map .ofNat
      else stretch

/-- What a parameter in pieces says. Pieces with and without numbers do not go together. -/
def joinPieces (pieces : List Piece) : Option Text :=
  let numbered := pieces.all fun p => p.number.isSome
  if !numbered && pieces.any fun p => p.number.isSome then none
  else
    let content := (pieces.mergeSort Piece.isLess).flatMap fun p =>
      if p.encoded then resolve p.content else p.content
    some (if pieces.any Piece.encoded then dropCoding content else content)

/-- The parameters with those in pieces put together. They come last, in the order of their first
pieces. -/
def gather (parameters : List (Text × Text)) : Option (List (Text × Text)) := do
  let pieces := parameters.filterMap fun (name, content) => piece? name content
  let names := (pieces.map Prod.fst).eraseDups
  let joined ← names.mapM fun name => do
    return (name, ← joinPieces ((pieces.filter fun piece => piece.1 = name).map Prod.snd))
  return (parameters.filter fun (name, content) => (piece? name content).isNone) ++ joined

/-- The name of a file without the directories of another system in front of it. -/
def dropDirectories (name : Text) : Text :=
  if Text.startsWith (name.drop 1) ":\\".toText ∨ name.startsWith "\\\\".toText then
    (Text.splitOn '\\' name).getLast?.getD []
  else name

/-- A header from its text. A parameter whose pieces do not go together can not be read. -/
def ofText? (s : Text) : Option Header :=
  if !s.contains ';' then some ⟨Text.strip (Text.lower s), []⟩
  else
    match (splitPieces false false s).map splitPiece with
    | [] => some ⟨[], []⟩
    | (value, _) :: parameters =>
      (gather (parameters.map fun (name, content) => (name, unquote content))).map fun all =>
        ⟨value, all.map fun (name, content) =>
          (name, if name = "filename".toText then dropDirectories content else content)⟩

end Header

end ExamPress.Form
