import ExamPress.Text.Basic
import ExamPress.Number.Double

/-! # JSON values

A JSON value with integers and doubles told apart and the fields of an object in the order of their
first appearance. -/

namespace ExamPress

/-- A JSON value. -/
inductive Json where
  | null
  | bool (b : Bool)
  | int (i : Int)
  | float (d : Double)
  | str (s : Text)
  | arr (items : List Json)
  | obj (fields : List (Text × Json))
deriving Inhabited, Repr

namespace Json

/-- The fields with one more: a name that is there keeps its place and takes the new value. -/
def insertField (name : Text) (value : Json) : List (Text × Json) → List (Text × Json)
  | [] => [(name, value)]
  | (key, old) :: fields =>
    if key = name then (key, value) :: fields else (key, old) :: insertField name value fields

/-- A name that is there keeps its place, and a new one comes last. -/
theorem map_fst_insertField (name : Text) (value : Json) (fields : List (Text × Json)) :
    (insertField name value fields).map Prod.fst =
      if name ∈ fields.map Prod.fst then fields.map Prod.fst
      else fields.map Prod.fst ++ [name] := by
  induction fields with
  | nil => simp [insertField]
  | cons entry fields ih =>
    obtain ⟨key, old⟩ := entry
    by_cases h : key = name
    · simp [insertField, h]
    · have h' : name ≠ key := fun e => h e.symm
      simp only [insertField, h, if_false, List.map_cons, ih, List.mem_cons, h', false_or]
      split <;> simp

/-- The value of a field. -/
def field? (fields : List (Text × Json)) (name : String) : Option Json :=
  (fields.find? fun entry => entry.1 = name.toText).map Prod.snd

/-- The value of a field, if the value is an object that has it. -/
def get? (v : Json) (name : String) : Option Json :=
  match v with
  | obj fields => field? fields name
  | _ => none

/-- The empty values: null, false, zero, and texts, arrays and objects without content. -/
def isEmpty : Json → Bool
  | null => true
  | bool b => !b
  | int i => i == 0
  | float d => d.isZero
  | str s => s.isEmpty
  | arr items => items.isEmpty
  | obj fields => fields.isEmpty

/-- The name of the kind of a value. -/
def kindName : Json → String
  | null => "NoneType"
  | bool _ => "bool"
  | int _ => "int"
  | float _ => "float"
  | str _ => "str"
  | arr _ => "list"
  | obj _ => "dict"

end Json

end ExamPress
