import ExamPress.Json.Basic

/-! # Math nodes

A formula is a sequence of nodes in reading order. A node of a formula that was read from its
source is a run, a fraction, a root or a base with a script. What a stored formula comes with in
place of nodes are values that are no nodes; they are kept as they are, and rendering refuses them.
-/

namespace ExamPress.Math

/-- The two places of a script. -/
inductive ScriptKind where
  | superscript
  | subscript
deriving DecidableEq, Repr

/-- The operator that a script is written with. -/
def ScriptKind.operator : ScriptKind → Char
  | superscript => '^'
  | subscript => '_'

/-- A node of a formula. A root without a degree is a square root. -/
inductive Node where
  | run (text : Text)
  | fraction (numerator denominator : List Node)
  | root (radicand degree : List Node)
  | scripted (base : List Node) (kind : ScriptKind) (script : List Node)
  | foreign (value : Json)
deriving Inhabited, Repr

end ExamPress.Math
