import ExamPress.Text.Basic
import ExamPress.Number.Double

/-! # Decimal texts of doubles

A positive decimal number is a list of digits `d₀ d₁ d₂ …`, the first one not zero, and the power
of ten of the first digit. Two choices of digits are used: the fewest that read back as the same
double, nearest first, and the sixteen nearest ones. A number from `10 ^ (-4)` up to `10 ^ 16` is
written positionally, any other with an exponent. -/

namespace ExamPress

/-- A positive decimal number: its digits without zeros at the end, and the power of the first. -/
structure Decimal where
  digits : Text
  power : Int
deriving DecidableEq, Repr

namespace Decimal

/-- The double nearest to `digits * 10 ^ exponent`. A magnitude beyond 400 places on either side is
far outside the doubles, so it is not computed. -/
def nearest (negative : Bool) (digits : Nat) (exponent : Int) : Double :=
  let size : Int := ((Text.ofNat digits).length : Int) + exponent
  if digits = 0 then .zero negative
  else if size > 400 then .infinite negative
  else if size < -400 then .zero negative
  else .ofRatio negative (digits * Nat.pow 10 exponent.toNat) (Nat.pow 10 (-exponent).toNat)

/-- The largest `k` with `10 ^ k ≤ num / den`, for positive `num` and `den`. -/
def floorLog10 (num den : Nat) : Int :=
  if den ≤ num then ((Text.ofNat (num / den)).length : Int) - 1
  else -((if den - 1 < num then 0 else (Text.ofNat ((den - 1) / num)).length : Nat) : Int)

/-- The digits of a count of units of `10 ^ unit`, without zeros at the end. -/
def ofCount (count : Nat) (unit : Int) : Decimal :=
  let digits := Text.ofNat count
  ⟨Text.dropRightWhile (· == '0') digits, unit + (digits.length : Int) - 1⟩

/-- The ratio `num / den` in units of `10 ^ unit`, as a ratio. -/
def inUnits (num den : Nat) (unit : Int) : Nat × Nat :=
  (num * Nat.pow 10 (-unit).toNat, den * Nat.pow 10 unit.toNat)

/-- The nearest decimal with so many digits, ties to even. -/
def rounded (num den places : Nat) : Decimal :=
  let unit := floorLog10 num den - (places : Int) + 1
  let (n, d) := inUnits num den unit
  ofCount (Double.roundDiv n d) unit

/-- Of the two neighbours of `num / den` with so many digits, the ones that read back as the double
`d`, the nearer first and the even first at a tie. -/
def readingBack (d : Double) (num den places : Nat) : List Decimal :=
  let unit := floorLog10 num den - (places : Int) + 1
  let (n, m) := inUnits num den unit
  let near := Double.roundDiv n m
  let far := if near = n / m then n / m + 1 else n / m
  ([near, far].filter fun count => nearest false count unit = d).map (ofCount · unit)

/-- The fewest digits that read back as a positive double. -/
def shortest (d : Double) (num den : Nat) : Decimal :=
  ((List.range 17).findSome? fun i => (readingBack d num den (i + 1)).head?).getD
    (rounded num den 17)

/-- So many zeros. -/
def zeros (count : Nat) : Text := List.replicate count '0'

/-- The text of a decimal. With `withPoint`, a whole number keeps a point and a zero. -/
def write (withPoint : Bool) (x : Decimal) : Text :=
  if -4 ≤ x.power ∧ x.power < 16 then
    if x.power < 0 then
      "0.".toText ++ zeros (-x.power - 1).toNat ++ x.digits
    else
      let places := x.power.toNat + 1
      let whole := x.digits.take places ++ zeros (places - x.digits.length)
      let part := x.digits.drop places
      if part.isEmpty then (if withPoint then whole ++ ".0".toText else whole)
      else whole ++ ".".toText ++ part
  else
    let part := x.digits.drop 1
    let exponent := Text.ofNat x.power.natAbs
    x.digits.take 1 ++ (if part.isEmpty then [] else ".".toText ++ part) ++
      (if x.power < 0 then "e-" else "e+").toText ++
      (if exponent.length < 2 then "0".toText ++ exponent else exponent)

end Decimal

namespace Double

/-- The text of a finite double from the text of its magnitude. -/
def writeWith (zeroText : Text) (magnitude : Nat → Nat → Text) (negative : Bool) (mantissa : Nat)
    (exponent : Int) : Text :=
  (if negative then "-".toText else []) ++
    if mantissa = 0 then zeroText
    else magnitude (mantissa * Nat.pow 2 exponent.toNat) (Nat.pow 2 (-exponent).toNat)

/-- The fewest digits that read back, with a point; `nan`, `inf` and `-inf` for the others. -/
def shortestText : Double → Text
  | nan => "nan".toText
  | infinite negative => (if negative then "-".toText else []) ++ "inf".toText
  | finite negative mantissa exponent =>
    writeWith "0.0".toText
      (fun num den =>
        (Decimal.shortest (finite false mantissa exponent) num den).write true)
      negative mantissa exponent

/-- Sixteen significant digits without zeros at the end; nothing for a number that is not finite. -/
def sixteenDigits : Double → Text
  | finite negative mantissa exponent =>
    writeWith "0".toText (fun num den => (Decimal.rounded num den 16).write false)
      negative mantissa exponent
  | _ => []

end Double

end ExamPress
