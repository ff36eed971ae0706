import ExamPress.Number.Numeral
import ExamPress.Schema.Issue

/-! # Checks

The checks of single values and of the fields of objects. They are lenient: a number may be a
boolean or a numeral, and a boolean may be zero, one, or one of a few words. -/

namespace ExamPress.Schema

/-- A text. -/
def text : Json → Checked Text
  | .str s => .ok s
  | _ => .fail .notText

/-- A number. An integer beyond the doubles is none. -/
def number : Json → Checked Double
  | .float d => .ok d
  | .bool b => .ok (.ofInt (if b then 1 else 0))
  | .int i =>
    match Double.ofInt i with
    | .infinite _ => .fail .notNumber
    | d => .ok d
  | .str s =>
    match Numeral.toDouble? s with
    | some d => .ok d
    | none => .fail .notNumeral
  | _ => .fail .notNumber

/-- The words for true. -/
def trueWords : List String := ["1", "on", "t", "true", "y", "yes"]

/-- The words for false. -/
def falseWords : List String := ["0", "off", "f", "false", "n", "no"]

/-- Whether integers of this size are looked at as zero or one. -/
def isSmall (i : Int) : Bool := -0x8000000000000000 ≤ i && i < 0x8000000000000000

/-- The boolean of an integer that is zero or one. -/
def booleanOfInt (i : Int) : Checked Bool :=
  if i = 0 then .ok false
  else if i = 1 then .ok true
  else if isSmall i then .fail .notBooleanWord
  else .fail .notBoolean

/-- A boolean. -/
def boolean : Json → Checked Bool
  | .bool b => .ok b
  | .int i => booleanOfInt i
  | .float d =>
    match d.toInt? with
    | some i => booleanOfInt i
    | none => .fail .notBoolean
  | .str s =>
    let word := Text.lowerAscii s
    if word.isAnyOf trueWords then .ok true
    else if word.isAnyOf falseWords then .ok false
    else .fail .notBooleanWord
  | _ => .fail .notBoolean

/-- A value that may be null. -/
def optional {α : Type} (check : Json → Checked α) : Json → Checked (Option α)
  | .null => .ok none
  | v => (check v).map some

/-- The items of a list from a position on. -/
def itemsFrom {α : Type} (check : Json → Checked α) (position : Nat) :
    List Json → Checked (List α)
  | [] => .ok []
  | item :: items =>
    ((check item).inside (.index position)).both (itemsFrom check (position + 1) items) |>.map
      fun (a, as) => a :: as

/-- A list. -/
def list {α : Type} (check : Json → Checked α) : Json → Checked (List α)
  | .arr items => itemsFrom check 0 items
  | _ => .fail .notList

/-- The fields of an object that stands for a record of a name. -/
def fields {α : Type} (record : String) (check : List (Text × Json) → Checked α) :
    Json → Checked α
  | .obj entries => check entries
  | _ => .fail (.notObject record)

/-- A field that has a default. -/
def field {α : Type} (entries : List (Text × Json)) (name : String) (default : α)
    (check : Json → Checked α) : Checked α :=
  match Json.field? entries name with
  | some v => (check v).inside (.name name.toText)
  | none => .ok default

/-- A field that must be there. -/
def required {α : Type} (entries : List (Text × Json)) (name : String)
    (check : Json → Checked α) : Checked α :=
  match Json.field? entries name with
  | some v => (check v).inside (.name name.toText)
  | none => .error [⟨[.name name.toText], .missing⟩]

end ExamPress.Schema
