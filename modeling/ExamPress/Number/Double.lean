/-! # Double precision numbers

A double is not a number, an infinity, or a signed integer times a power of two. The integer has at
most 53 bits and the power is at least `2 ^ (-1074)`. Every function that makes a double rounds an
exact ratio once, to the nearest double, with ties to the even integer. -/

namespace ExamPress

/-- A double precision number. A finite one stands for `± mantissa * 2 ^ exponent`. -/
inductive Double where
  | nan
  | infinite (negative : Bool)
  | finite (negative : Bool) (mantissa : Nat) (exponent : Int)
deriving DecidableEq, Repr

namespace Double

/-- The exponent of the smallest positive double. -/
def minExponent : Int := -1074

/-- The largest exponent of a finite double. -/
def maxExponent : Int := 971

/-- The zero of a sign. -/
def zero (negative : Bool) : Double := finite negative 0 minExponent

/-- The quotient of two natural numbers, rounded to the nearest integer, ties to even. -/
def roundDiv (num den : Nat) : Nat :=
  let quotient := num / den
  let rest := num % den
  if 2 * rest < den then quotient
  else if den < 2 * rest then quotient + 1
  else quotient + quotient % 2

theorem two_mul_roundDiv_le (num den : Nat) (h : 0 < den) :
    2 * (den * roundDiv num den) ≤ 2 * num + den := by
  have hn := Nat.div_add_mod num den
  have hr := Nat.mod_lt num h
  unfold roundDiv
  dsimp only
  split
  · omega
  split
  · rw [Nat.mul_add, Nat.mul_one]
    omega
  · rcases Nat.mod_two_eq_zero_or_one (num / den) with h2 | h2
    · rw [h2, Nat.add_zero]
      omega
    · rw [h2, Nat.mul_add, Nat.mul_one]
      omega

theorem le_two_mul_roundDiv (num den : Nat) (h : 0 < den) :
    2 * num ≤ 2 * (den * roundDiv num den) + den := by
  have hn := Nat.div_add_mod num den
  have hr := Nat.mod_lt num h
  unfold roundDiv
  dsimp only
  split
  · omega
  split
  · rw [Nat.mul_add, Nat.mul_one]
    omega
  · rcases Nat.mod_two_eq_zero_or_one (num / den) with h2 | h2
    · rw [h2, Nat.add_zero]
      omega
    · rw [h2, Nat.mul_add, Nat.mul_one]
      omega

/-- A tie goes to the even neighbour. -/
theorem roundDiv_mod_two {num den : Nat} (h : 2 * (num % den) = den) :
    roundDiv num den % 2 = 0 := by
  unfold roundDiv
  dsimp only
  rw [if_neg (by omega), if_neg (by omega)]
  omega

/-- The largest `k` with `2 ^ k ≤ num / den`, for positive `num` and `den`. -/
def floorLog2 (num den : Nat) : Int :=
  let guess : Int := (Nat.log2 num : Int) - (Nat.log2 den : Int)
  if den * Nat.pow 2 guess.toNat ≤ num * Nat.pow 2 (-guess).toNat then guess else guess - 1

/-- The double nearest to `num / den`, with a sign; an infinity when it is too large. -/
def ofRatio (negative : Bool) (num den : Nat) : Double :=
  if num = 0 then zero negative
  else
    let exponent := max minExponent (floorLog2 num den - 52)
    let mantissa := roundDiv (num * Nat.pow 2 (-exponent).toNat) (den * Nat.pow 2 exponent.toNat)
    let (mantissa, exponent) :=
      if mantissa = Nat.pow 2 53 then (Nat.pow 2 52, exponent + 1) else (mantissa, exponent)
    if exponent > maxExponent then infinite negative else finite negative mantissa exponent

/-- The double nearest to an integer, an infinity when it is too large. -/
def ofInt (i : Int) : Double := ofRatio (i < 0) i.natAbs 1

/-- The product with a positive ratio, rounded once. -/
def scale (d : Double) (num den : Nat) : Double :=
  match d with
  | nan => nan
  | infinite negative => infinite negative
  | finite negative mantissa exponent =>
    ofRatio negative (mantissa * num * Nat.pow 2 exponent.toNat) (den * Nat.pow 2 (-exponent).toNat)

/-- Whether a double has a minus sign. -/
def isNegative : Double → Bool
  | nan => false
  | infinite negative => negative
  | finite negative _ _ => negative

/-- Whether a number is equal to zero. -/
def isZero : Double → Bool
  | finite _ mantissa _ => mantissa == 0
  | _ => false

/-- The product of two doubles, rounded once. -/
def mul (a b : Double) : Double :=
  match a, b with
  | finite negative m e, finite negative' m' e' =>
    ofRatio (negative != negative') (m * m' * Nat.pow 2 (e + e').toNat)
      (Nat.pow 2 (-(e + e')).toNat)
  | nan, _ | _, nan => nan
  | a, b => if a.isZero || b.isZero then nan else infinite (a.isNegative != b.isNegative)

/-- An integer with a sign. -/
def signed (negative : Bool) (n : Nat) : Int := if negative then -n else n

/-- The sum of two doubles, rounded once. A sum of zero has a minus sign if both numbers have one.
-/
def add (a b : Double) : Double :=
  match a, b with
  | finite negative m e, finite negative' m' e' =>
    let unit := min e e'
    let sum := signed negative (m * Nat.pow 2 (e - unit).toNat) +
      signed negative' (m' * Nat.pow 2 (e' - unit).toNat)
    if sum = 0 then zero (negative && negative')
    else ofRatio (sum < 0) (sum.natAbs * Nat.pow 2 unit.toNat) (Nat.pow 2 (-unit).toNat)
  | nan, _ | _, nan => nan
  | infinite negative, infinite negative' =>
    if negative = negative' then infinite negative else nan
  | infinite negative, finite _ _ _ | finite _ _ _, infinite negative => infinite negative

/-- The number with the other sign. -/
def neg : Double → Double
  | nan => nan
  | infinite negative => infinite !negative
  | finite negative mantissa exponent => finite (!negative) mantissa exponent

/-- The integer that a double is, if it is one. -/
def toInt? : Double → Option Int
  | finite negative mantissa exponent =>
    let magnitude := mantissa * Nat.pow 2 exponent.toNat
    let unit := Nat.pow 2 (-exponent).toNat
    if magnitude % unit = 0 then
      some (if negative then -(magnitude / unit : Nat) else (magnitude / unit : Nat))
    else none
  | _ => none

/-- Why a double has no integer part. -/
inductive NotFinite where
  | nan
  | infinite
deriving DecidableEq, Repr

/-- The integer next to a finite double toward zero. -/
def truncate : Double → Except NotFinite Int
  | nan => .error .nan
  | infinite _ => .error .infinite
  | finite negative mantissa exponent =>
    let magnitude := mantissa * Nat.pow 2 exponent.toNat / Nat.pow 2 (-exponent).toNat
    .ok (if negative then -(magnitude : Int) else (magnitude : Int))

/-- The integer nearest to a finite double, ties to even. -/
def round : Double → Except NotFinite Int
  | nan => .error .nan
  | infinite _ => .error .infinite
  | finite negative mantissa exponent =>
    let magnitude := roundDiv (mantissa * Nat.pow 2 exponent.toNat) (Nat.pow 2 (-exponent).toNat)
    .ok (if negative then -(magnitude : Int) else (magnitude : Int))

end Double

end ExamPress
