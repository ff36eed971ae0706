import ExamPress.Math.Symbol
import ExamPress.Math.Node

/-! # Scanning formulas

The source of a formula is cut into items from the left. An operand is a group in braces, a
command, or a single character; it is cut out as a text, to be read later on its own. A group is
closed by the brace that brings the depth back to zero. If there is none, the operand is empty and
only the opening brace is passed over. -/

namespace ExamPress.Math

/-- An operand: its text, and how many characters it takes in the source. -/
structure Operand where
  content : Text
  width : Nat
deriving DecidableEq, Repr

/-- The position of the closing brace that brings the depth back to zero. -/
def closingBrace (depth : Int) : Text → Option Nat
  | [] => none
  | c :: rest =>
    if c = '{' then (closingBrace (depth + 1) rest).map (· + 1)
    else if c = '}' then
      if depth = 1 then some 0 else (closingBrace (depth - 1) rest).map (· + 1)
    else (closingBrace depth rest).map (· + 1)

/-- The group that opens at the front of a text. -/
def readGroup (s : Text) : Operand :=
  match closingBrace 0 s with
  | some close => ⟨(s.take close).drop 1, close + 1⟩
  | none => ⟨[], 1⟩

/-- The name of the command whose backslash stands before a text. -/
def commandName (s : Text) : Text := s.takeWhile CodePoint.isAlpha

/-- The command at the front of a text: one character and the letters after it. -/
def readCommand (s : Text) : Operand :=
  let width := (commandName (s.drop 1)).length + 1
  ⟨s.take width, width⟩

/-- The operand at the front of a text, if the text is not empty. -/
def nextOperand (s : Text) : Option Operand :=
  match s with
  | [] => none
  | .char '{' :: _ => some (readGroup s)
  | .char '\\' :: _ => some (readCommand s)
  | c :: _ => some ⟨[c], 1⟩

/-- The operand at the front of a text; at the end of the source it is missing and has no text. -/
def operand (s : Text) : Operand := (nextOperand s).getD ⟨[], 0⟩

/-- What stands between two places of the source: nothing to show, or a run, or a construct with the
sources of its operands. A script takes the node before it as its base. -/
inductive Item where
  | nothing
  | run (text : Text)
  | fraction (numerator denominator : Text)
  | root (radicand : Text)
  | script (kind : ScriptKind) (script : Text)
deriving DecidableEq, Repr

/-- The sources of the operands of an item. -/
def Item.operands : Item → List Text
  | .nothing => []
  | .run _ => []
  | .fraction numerator denominator => [numerator, denominator]
  | .root radicand => [radicand]
  | .script _ source => [source]

/-- An item and the source after it. -/
structure Step where
  item : Item
  rest : Text
deriving DecidableEq, Repr

/-- The step over a command, after its backslash. A structural command needs no end: it is taken
wherever the letters begin with its name. -/
def commandStep (s : Text) : Step :=
  if s.startsWith fractionName then
    let s := s.drop fractionName.length
    let numerator := operand s
    let s := s.drop numerator.width
    let denominator := operand s
    ⟨.fraction numerator.content denominator.content, s.drop denominator.width⟩
  else if s.startsWith rootName then
    let s := s.drop rootName.length
    let radicand := operand s
    ⟨.root radicand.content, s.drop radicand.width⟩
  else
    let name := commandName s
    ⟨.run (commandText name), s.drop name.length⟩

/-- The step over a script operator. -/
def scriptStep (kind : ScriptKind) (s : Text) : Step :=
  let script := operand s
  ⟨.script kind script.content, s.drop script.width⟩

/-- The step at a character of the source. Spaces and braces show nothing. -/
def nextStep (c : CodePoint) (s : Text) : Step :=
  if c = '^' then scriptStep .superscript s
  else if c = '_' then scriptStep .subscript s
  else if c = '\\' then commandStep s
  else if c = ' ' ∨ c = '{' ∨ c = '}' then ⟨.nothing, s⟩
  else ⟨.run [c], s⟩

/-! ### Every step goes forward -/

theorem length_readGroup_le (s : Text) : (readGroup s).content.length ≤ s.length := by
  unfold readGroup
  split
  · simp only [List.length_drop, List.length_take]
    omega
  · simp

theorem length_operand_le (s : Text) : (operand s).content.length ≤ s.length := by
  unfold operand nextOperand
  split
  · simp
  · exact length_readGroup_le _
  · exact List.length_take_le' _ _
  · simp

theorem length_rest_le (c : CodePoint) (s : Text) : (nextStep c s).rest.length ≤ s.length := by
  unfold nextStep scriptStep commandStep
  repeat' split
  all_goals simp only [List.length_drop]
  all_goals omega

theorem length_le_of_mem_operands {c : CodePoint} {s t : Text}
    (h : t ∈ (nextStep c s).item.operands) :
    t.length ≤ s.length := by
  have drop_le (k : Nat) : (operand (s.drop k)).content.length ≤ s.length :=
    Nat.le_trans (length_operand_le _) (by simp)
  unfold nextStep scriptStep commandStep at h
  split at h
  · simp only [Item.operands, List.mem_singleton] at h
    exact h ▸ length_operand_le s
  split at h
  · simp only [Item.operands, List.mem_singleton] at h
    exact h ▸ length_operand_le s
  split at h
  · split at h
    · simp only [Item.operands, List.mem_cons, List.not_mem_nil, or_false] at h
      rcases h with rfl | rfl
      · exact drop_le _
      · rw [List.drop_drop]
        exact drop_le _
    split at h
    · simp only [Item.operands, List.mem_singleton] at h
      exact h ▸ drop_le _
    · simp [Item.operands] at h
  split at h <;> simp [Item.operands] at h

end ExamPress.Math
