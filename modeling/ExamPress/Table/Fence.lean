import ExamPress.Text.Basic

/-! # Code fences

A code fence is three backquotes, with or without the word `json` after them. All fences are
removed in one pass from the left. -/

namespace ExamPress.Table

/-- The mark of a fence. -/
def fenceMark : Text := "\x60\x60\x60".toText

/-- The word that may follow the mark of a fence. -/
def fenceWord : Text := "json".toText

/-- The length of the fence at the front of a text, zero if there is none. -/
def fenceLength (s : Text) : Nat :=
  if s.startsWith (fenceMark ++ fenceWord) then (fenceMark ++ fenceWord).length
  else if s.startsWith fenceMark then fenceMark.length
  else 0

/-- The text without fences, where the next `skipped` characters belong to a fence. -/
def removeFencesFrom (skipped : Nat) : Text → Text
  | [] => []
  | c :: rest =>
    match skipped with
    | skipped + 1 => removeFencesFrom skipped rest
    | 0 =>
      match fenceLength (c :: rest) with
      | 0 => c :: removeFencesFrom 0 rest
      | length + 1 => removeFencesFrom length rest

/-- The text without fences. -/
def removeFences (s : Text) : Text := removeFencesFrom 0 s

end ExamPress.Table
