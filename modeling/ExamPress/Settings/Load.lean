import ExamPress.Settings.Basic
import ExamPress.Yaml.Content

/-! # Loading settings

The settings come from a YAML file and a key from the environment. Without a file, and if the file
is malformed or its settings are not of the right kind, the defaults hold. -/

namespace ExamPress.Settings

/-- Why settings can not be loaded. -/
inductive LoadError where
  | undecodable (stretch : Text.Malformed)
  | scalar (fault : Yaml.Fault)
deriving DecidableEq, Repr

/-- The wording of an error. -/
def LoadError.message : LoadError → Text
  | undecodable stretch => stretch.message.toText
  | scalar fault => fault.message

/-- How deep settings are nested: all, those of a part, a setting, and the items of a list. -/
def depth : Nat := 4

/-- The settings of a YAML text. An empty value has no settings. -/
def ofYaml (source : Text) : Except LoadError Settings :=
  match Yaml.read depth source with
  | .error .malformed => .ok {}
  | .error fault => .error (.scalar fault)
  | .ok v =>
    match Settings.ofJson (if v.isEmpty then .obj [] else v) with
    | .ok settings => .ok settings
    | .error _ => .ok {}

/-- The text of a file that is read in pieces. The bytes of a code point that the end of the file
cuts off are a piece of their own. -/
def decodeFile (bytes : List Nat) : Except LoadError Text :=
  match Text.Utf8.decode bytes with
  | .ok text => .ok (Text.universalNewlines text)
  | .error stretch =>
    .error (.undecodable
      (if stretch.fault = .endOfData then { stretch with position := 0 } else stretch))

/-- The settings of a file that may be missing, with the key of the environment. -/
def load (file : Option (List Nat)) (key : Option Text) : Except LoadError Settings :=
  match file with
  | none => .ok (Settings.withKey {} key)
  | some bytes => do
    let source ← decodeFile bytes
    let settings ← ofYaml source
    return settings.withKey key

end ExamPress.Settings
