import ExamPress.Text.Basic

/-! # File names

A file that is made has the name that is asked for, with the extension of its kind at the end. -/

namespace ExamPress.Text

/-- The name with an ending, unless it has it. -/
def withExtension (name extension : Text) : Text :=
  if name.endsWith extension then name else name ++ extension

/-- The name of a file: the one that is asked for, or a default if none or an empty one is, with an
extension. -/
def fileName (wanted : Option Text) (default extension : Text) : Text :=
  withExtension
    (match wanted with
      | some (c :: rest) => c :: rest
      | _ => default)
    extension

end ExamPress.Text
