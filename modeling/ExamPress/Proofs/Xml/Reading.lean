import ExamPress.Xml
import Mathlib.Tactic.SplitIfs

/-! # Reading XML

The text form of a document is read back. It is first cut into tags and characters, where a
reference stands for its character, and a line end that is not LF for LF. Then the tags are matched.
Every character becomes a piece of its own. -/

namespace ExamPress.Xml

/-! ### Tags and characters -/

/-- What a document consists of. An empty tag is an opening and a closing one. -/
inductive Mark where
  | opening (name : String) (attributes : List (String × Text))
  | closing (name : String)
  | character (c : CodePoint)
deriving DecidableEq, Repr

/-- The characters of a name. -/
def isNameChar (c : CodePoint) : Bool :=
  c.isAlphanum || c ∈ ([':', '_', '-', '.'] : List CodePoint)

/-- The string of a name. -/
def nameString (name : Text) : String :=
  String.ofList (name.filterMap fun c => match c with
    | .char c => some c
    | .surrogate _ => none)

theorem nameString_toText (name : String) : nameString name.toText = name := by
  have h : (name.toText.filterMap fun c => match c with
      | .char c => some c
      | .surrogate _ => none) = name.toList := by
    rw [String.toText, List.filterMap_map]
    exact List.filterMap_some
  rw [nameString, h, String.ofList_toList]

/-- The character that a reference stands for, by what is between its marks. -/
def referred? (name : Text) : Option CodePoint :=
  if name = "amp".toText then some '&'
  else if name = "lt".toText then some '<'
  else if name = "gt".toText then some '>'
  else if name = "quot".toText then some '"'
  else if name = "apos".toText then some '\''
  else match name with
    | .char '#' :: digits =>
      if digits ≠ [] ∧ digits.all CodePoint.isDigit then some (.ofNat (Text.toNat digits)) else none
    | _ => none

/-- The character at the front of a text that begins with `c`, and what stands behind it. -/
def readCharacter (c : CodePoint) (s : Text) : Option (CodePoint × Text) :=
  if c = '&' then
    let name := s.takeWhile (· != .char ';')
    match s.drop name.length with
    | _ :: rest => (referred? name).map fun c => (c, rest)
    | [] => none
  else if c = '\r' then
    match s with
    | .char '\n' :: rest => some ('\n', rest)
    | s => some ('\n', s)
  else some (c, s)

theorem length_readCharacter_le {c d : CodePoint} {s rest : Text}
    (h : readCharacter c s = some (d, rest)) : rest.length ≤ s.length := by
  unfold readCharacter at h
  split_ifs at h
  · dsimp only at h
    split at h
    · rename_i hd
      obtain ⟨_, -, h⟩ := Option.map_eq_some_iff.mp h
      cases h
      have := congrArg List.length hd
      rw [List.length_drop, List.length_cons] at this
      omega
    · cases h
  · split at h <;> cases h <;> simp
  · cases h
    exact Nat.le_refl _

/-- The characters that can not stand in the value of an attribute as themselves. -/
def blanks : List CodePoint := ['\t', '\n', '\r']

/-- The value of an attribute. A blank that stands as itself is a space. -/
def readValue (s : Text) : Option Text :=
  match s with
  | [] => some []
  | c :: s =>
    match _ : readCharacter c s with
    | some (d, rest) => (readValue rest).map fun value => (if c ∈ blanks then ' ' else d) :: value
    | none => none
termination_by s.length
decreasing_by
  have := length_readCharacter_le ‹_›
  rw [List.length_cons]
  omega

/-- The attribute at the front of a text, and what stands behind it. -/
def readAttribute (s : Text) : Option ((String × Text) × Text) :=
  let name := s.takeWhile isNameChar
  match s.drop name.length with
  | .char '=' :: .char '"' :: s =>
    let raw := s.takeWhile (· != .char '"')
    match s.drop raw.length with
    | _ :: rest => (readValue raw).map fun value => ((nameString name, value), rest)
    | [] => none
  | _ => none

theorem length_readAttribute_le {s rest : Text} {entry : String × Text}
    (h : readAttribute s = some (entry, rest)) : rest.length ≤ s.length := by
  unfold readAttribute at h
  dsimp only at h
  split at h
  · rename_i hs
    split at h
    · rename_i hr
      obtain ⟨_, -, h⟩ := Option.map_eq_some_iff.mp h
      cases h
      have h1 := congrArg List.length hs
      have h2 := congrArg List.length hr
      simp only [List.length_drop, List.length_cons] at h1 h2
      omega
    · cases h
  · cases h

/-- The attributes at the front of a text, each behind a space, and what stands behind them. -/
def readAttributes (s : Text) : Option (List (String × Text) × Text) :=
  match s with
  | .char ' ' :: s =>
    match _ : readAttribute s with
    | some (entry, rest) => (readAttributes rest).map fun (more, rest) => (entry :: more, rest)
    | none => none
  | s => some ([], s)
termination_by s.length
decreasing_by
  have := length_readAttribute_le ‹_›
  rw [List.length_cons]
  omega

theorem length_readAttributes_le {s rest : Text} {attributes : List (String × Text)}
    (h : readAttributes s = some (attributes, rest)) : rest.length ≤ s.length := by
  fun_induction readAttributes s generalizing attributes with
  | case1 s entry rest' hs ih =>
    obtain ⟨⟨more, rest''⟩, hm, h⟩ := Option.map_eq_some_iff.mp h
    cases h
    have := ih hm
    have := length_readAttribute_le hs
    rw [List.length_cons]
    omega
  | case2 => cases h
  | case3 =>
    cases h
    exact Nat.le_refl _

/-- The tag whose first mark stands before a text, and what stands behind it. -/
def readTag (s : Text) : Option (List Mark × Text) :=
  match s with
  | .char '/' :: s =>
    let name := s.takeWhile isNameChar
    match s.drop name.length with
    | .char '>' :: rest => some ([.closing (nameString name)], rest)
    | _ => none
  | s =>
    let name := s.takeWhile isNameChar
    match readAttributes (s.drop name.length) with
    | some (attributes, .char '>' :: rest) => some ([.opening (nameString name) attributes], rest)
    | some (attributes, .char '/' :: .char '>' :: rest) =>
      some ([.opening (nameString name) attributes, .closing (nameString name)], rest)
    | _ => none

theorem length_readTag_le {s rest : Text} {marks : List Mark}
    (h : readTag s = some (marks, rest)) : rest.length ≤ s.length := by
  unfold readTag at h
  split at h
  · dsimp only at h
    split at h
    · rename_i hd
      cases h
      have := congrArg List.length hd
      simp only [List.length_drop, List.length_cons] at this ⊢
      omega
    · cases h
  · dsimp only at h
    split at h
    · rename_i hd
      cases h
      have := length_readAttributes_le hd
      simp only [List.length_drop, List.length_cons] at this ⊢
      omega
    · rename_i hd
      cases h
      have := length_readAttributes_le hd
      simp only [List.length_drop, List.length_cons] at this ⊢
      omega
    · cases h

/-- The tags and characters of a text. -/
def scan (s : Text) : Option (List Mark) :=
  match s with
  | [] => some []
  | c :: s =>
    if c = '<' then
      match _ : readTag s with
      | some (marks, rest) => (scan rest).map (marks ++ ·)
      | none => none
    else
      match _ : readCharacter c s with
      | some (d, rest) => (scan rest).map (.character d :: ·)
      | none => none
termination_by s.length
decreasing_by
  · have := length_readTag_le ‹_›
    rw [List.length_cons]
    omega
  · have := length_readCharacter_le ‹_›
    rw [List.length_cons]
    omega

/-! ### Elements -/

/-- An element whose end was not read yet: its name and attributes, and the pieces in front of it,
the last one first. -/
structure Frame where
  name : String
  attributes : List (String × Text)
  before : List Xml

/-- The pieces of a document, after those that were read before, the last one first, and inside the
elements that are open, the inner one first. -/
def build (content : List Xml) (frames : List Frame) : List Mark → Option (List Xml)
  | [] => if frames.isEmpty then some content.reverse else none
  | .character c :: marks => build (.text [c] :: content) frames marks
  | .opening name attributes :: marks => build [] (⟨name, attributes, content⟩ :: frames) marks
  | .closing name :: marks =>
    match frames with
    | [] => none
    | frame :: frames =>
      if frame.name = name then
        build (.element name frame.attributes content.reverse :: frame.before) frames marks
      else none

/-- The pieces of the text form of a document. -/
def read (s : Text) : Option (List Xml) := (scan s).bind (build [] [])

end ExamPress.Xml
