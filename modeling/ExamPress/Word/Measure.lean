import ExamPress.Number.Double
import ExamPress.Text.Basic
import ExamPress.Word.Fault

/-! # Lengths

A length is given in points and held in whole units of which a point has 12700. Distances between
paragraphs are written in twentieths of a point, font sizes in halves. -/

namespace ExamPress.Word

/-- The units of a point. -/
def unitsPerPoint : Nat := 12700

/-- The units of a twentieth of a point. -/
def unitsPerTwentieth : Nat := 635

/-- The largest length. -/
def maxLength : Int := 18446744073709551615

/-- A number that has to be finite. -/
def finite {α : Type} (x : Except Double.NotFinite α) : Except Fault α :=
  match x with
  | .ok a => .ok a
  | .error .nan => .error .notANumber
  | .error .infinite => .error .infiniteNumber

/-- A length of so many points, in whole units. -/
def length (points : Double) : Except Fault Int := do
  let units ← finite (points.scale unitsPerPoint 1).truncate
  if 0 ≤ units ∧ units ≤ maxLength then return units else .error (.outOfRange units)

/-- A length in points, in the nearest number of twentieths, ties to even. -/
def twentieths (points : Double) : Except Fault Text := do
  let units ← length points
  let count ← finite ((Double.ofInt units).scale 1 unitsPerTwentieth).round
  return Text.ofInt count

/-- A length in points, in halves that it has in full. -/
def halves (points : Double) : Except Fault Text := do
  let units ← length points
  let count ← finite (((Double.ofInt units).scale 1 unitsPerPoint).scale 2 1).truncate
  return Text.ofInt count

end ExamPress.Word
