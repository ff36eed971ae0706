import ExamPress.Text.Basic

/-! # Symbols

The commands of the notation. A symbol command stands for one character; the two structural commands
stand for a fraction and a root and are no symbols. -/

namespace ExamPress.Math

/-- The names of the symbol commands, without the backslash, and their characters. -/
def symbolTable : List (String × Char) := [
  ("alpha", 'α'), ("beta", 'β'), ("gamma", 'γ'), ("theta", 'θ'), ("pi", 'π'), ("sigma", 'σ'),
  ("phi", 'φ'), ("Phi", 'Φ'), ("delta", 'δ'), ("lambda", 'λ'), ("mu", 'μ'), ("Delta", 'Δ'),
  ("Omega", 'Ω'), ("ne", '≠'), ("neq", '≠'), ("le", '≤'), ("ge", '≥'), ("pm", '±'),
  ("approx", '≈'), ("times", '×'), ("cdot", '·'), ("div", '÷'), ("infty", '∞'),
  ("rightarrow", '→'), ("leftarrow", '←'), ("Rightarrow", '⇒'), ("Leftrightarrow", '⇔'),
  ("circ", '°'), ("degree", '°'), ("angle", '∠'), ("triangle", '△'), ("cong", '≅'), ("sim", '∽'),
  ("parallel", '∥'), ("perp", '⊥'), ("cup", '∪'), ("cap", '∩'), ("in", '∈'), ("subset", '⊂'),
  ("supset", '⊃'), ("forall", '∀'), ("exists", '∃')]

/-- The name of the command for a fraction. -/
def fractionName : Text := "frac".toText

/-- The name of the command for a square root. -/
def rootName : Text := "sqrt".toText

/-- The names of the structural commands. -/
def structuralNames : List Text := [fractionName, rootName]

/-- The character that a command name stands for. -/
def symbol? (name : Text) : Option Char :=
  (symbolTable.find? fun entry => entry.1.toText = name).map Prod.snd

/-- The text of a command that is not structural: its symbol, or the command itself. -/
def commandText (name : Text) : Text :=
  match symbol? name with
  | some c => [c]
  | none => '\\' :: name

/-- All commands with their texts, in alphabetical order; a structural one has no text. -/
def commandList : List (Text × Text) :=
  let symbols := symbolTable.map fun entry => (entry.1.toText, ([entry.2] : Text))
  let structural := structuralNames.map fun name => (name, [])
  (symbols ++ structural).mergeSort fun a b =>
    !List.lex (b.1.map CodePoint.toNat) (a.1.map CodePoint.toNat) Nat.blt

end ExamPress.Math
