import ExamPress.Number.Double
import Mathlib.Algebra.Group.Nat.Defs
import Mathlib.Tactic.Common

/-! # Integers beyond the doubles

The double of an integer is an infinity exactly from half a unit below `2 ^ 1024` on
(`ofInt_eq_infinite_iff`): the largest double is one unit of `2 ^ 971` below that power, and the tie
between the two goes to the even one, which is too large. -/

namespace ExamPress.Double

/-- An even number is rounded to from half a unit below it on: a tie goes up to it. -/
theorem le_roundDiv_iff {num den m : Nat} (hden : 0 < den) (even : m % 2 = 0) :
    m ≤ roundDiv num den ↔ 2 * (den * m) ≤ 2 * num + den := by
  have above := two_mul_roundDiv_le num den hden
  have below := le_two_mul_roundDiv num den hden
  constructor
  · intro h
    have := Nat.mul_le_mul_left den h
    omega
  · intro h
    by_contra less
    obtain ⟨k, rfl⟩ : ∃ k, m = k + 1 := Nat.exists_eq_add_one.mpr (by omega)
    have step : roundDiv num den ≤ k := by omega
    have bound := Nat.mul_le_mul_left den step
    rw [Nat.mul_add, Nat.mul_one] at h
    -- nothing is left but the tie between `k` and `k + 1`, and `k` is odd
    have tie : 2 * num = 2 * (den * k) + den := by omega
    have equal : den * roundDiv num den = den * k := by omega
    have rounded : roundDiv num den = k := Nat.eq_of_mul_eq_mul_left hden equal
    have rest : 2 * (num % den) = den := by
      obtain ⟨half, rfl⟩ : ∃ half, den = 2 * half := ⟨num - den * k, by omega⟩
      have split : num = half + 2 * half * k := by omega
      rw [split, Nat.add_mul_mod_self_left, Nat.mod_eq_of_lt (by omega)]
    have := roundDiv_mod_two rest
    omega

theorem floorLog2_one {n : Nat} (h : n ≠ 0) : floorLog2 n 1 = Nat.log2 n := by
  have one : Nat.log2 1 = 0 := by decide
  have below : 2 ^ Nat.log2 n ≤ n := Nat.log2_self_le h
  have none : (-(Nat.log2 n : Int)).toNat = 0 := by omega
  simp only [floorLog2, one, Int.natCast_zero, Int.sub_zero, Int.toNat_natCast, none, Nat.pow_eq,
    Nat.one_mul, Nat.pow_zero, Nat.mul_one]
  rw [if_pos below]

section

variable {n k : Nat}

/-- A positive integer is too large if it has too many binary digits, or if it has one less and is
rounded up to the next power of two. -/
theorem ofRatio_one_eq_infinite_iff (h : n ≠ 0) (largest : maxExponent = (k : Int) + 1)
    (negative : Bool) : (∃ sign, ofRatio negative n 1 = .infinite sign) ↔
      k + 53 < Nat.log2 n ∨ Nat.log2 n = k + 53 ∧ roundDiv n (2 ^ (k + 1)) = 2 ^ 53 := by
  have exponent : max minExponent ((Nat.log2 n : Int) - 52) = (Nat.log2 n : Int) - 52 := by
    rw [minExponent]
    omega
  have mantissa : Nat.log2 n = k + 53 →
      roundDiv (n * Nat.pow 2 (-((Nat.log2 n : Int) - 52)).toNat)
        (1 * Nat.pow 2 ((Nat.log2 n : Int) - 52).toNat) = roundDiv n (2 ^ (k + 1)) := by
    intro digits
    have none : (-((Nat.log2 n : Int) - 52)).toNat = 0 := by omega
    have unit : ((Nat.log2 n : Int) - 52).toNat = k + 1 := by omega
    rw [none, unit, Nat.one_mul, Nat.pow_eq, Nat.pow_eq, Nat.pow_zero, Nat.mul_one]
  have outcome (e : Int) (m : Nat) : (∃ sign, (if e > maxExponent then infinite negative
      else finite negative m e) = infinite sign) ↔ (k : Int) + 1 < e := by
    rw [largest]
    split_ifs with large
    · exact ⟨fun _ => large, fun _ => ⟨negative, rfl⟩⟩
    · refine ⟨?_, fun above => (large above).elim⟩
      rintro ⟨sign, ⟨⟩⟩
  simp only [ofRatio, if_neg h, floorLog2_one h, exponent]
  generalize roundDiv (n * Nat.pow 2 (-((Nat.log2 n : Int) - 52)).toNat)
    (1 * Nat.pow 2 ((Nat.log2 n : Int) - 52).toNat) = m at mantissa
  by_cases carry : m = Nat.pow 2 53
  · rw [if_pos carry, outcome]
    constructor
    · intro large
      by_cases digits : Nat.log2 n = k + 53
      · exact Or.inr ⟨digits, (mantissa digits).symm.trans carry⟩
      · omega
    · omega
  · rw [if_neg carry, outcome]
    constructor
    · omega
    · rintro (large | ⟨digits, full⟩)
      · omega
      · exact (carry ((mantissa digits).trans full)).elim

theorem digits_iff (h : n ≠ 0) :
    (k + 53 < Nat.log2 n ∨ Nat.log2 n = k + 53 ∧ roundDiv n (2 ^ (k + 1)) = 2 ^ 53) ↔
      2 ^ (k + 54) - 2 ^ k ≤ n := by
  have half : 0 < 2 ^ k := Nat.two_pow_pos k
  have unit : 2 ^ (k + 1) = 2 * 2 ^ k := Nat.pow_succ'
  have before : 2 ^ (k + 53) = 2 ^ 53 * 2 ^ k := by rw [Nat.pow_add, Nat.mul_comm]
  have power : 2 ^ (k + 54) = 2 ^ 54 * 2 ^ k := by rw [Nat.pow_add, Nat.mul_comm]
  have least : 2 ^ Nat.log2 n ≤ n := Nat.log2_self_le h
  have greatest : n < 2 ^ (Nat.log2 n + 1) := Nat.lt_log2_self
  rcases Nat.lt_trichotomy (Nat.log2 n) (k + 53) with fewer | digits | more
  · have small : 2 ^ (Nat.log2 n + 1) ≤ 2 ^ (k + 53) :=
      Nat.pow_le_pow_right (by decide) fewer
    omega
  · have reached : 2 ^ 53 ≤ roundDiv n (2 ^ (k + 1)) ↔ _ :=
      le_roundDiv_iff (Nat.two_pow_pos (k + 1)) (by decide)
    have above := two_mul_roundDiv_le n (2 ^ (k + 1)) (Nat.two_pow_pos (k + 1))
    rw [digits, power] at greatest
    have most : roundDiv n (2 ^ (k + 1)) ≤ 2 ^ 53 := by
      by_contra more
      have := Nat.mul_le_mul_left (2 ^ (k + 1)) (Nat.lt_of_not_le more)
      omega
    omega
  · have large : 2 ^ (k + 54) ≤ 2 ^ Nat.log2 n := Nat.pow_le_pow_right (by decide) more
    omega

end

/-- Half a unit below `2 ^ 1024`: the unit of the largest doubles is `2 ^ 971`. -/
def overflow : Nat := 2 ^ 1024 - 2 ^ 970

theorem overflow_eq : overflow = 2 ^ (970 + 54) - 2 ^ 970 := by
  decide +kernel

/-- **An integer is too large** for a double from half a unit below `2 ^ 1024` on. -/
theorem ofInt_eq_infinite_iff {i : Int} :
    (∃ negative, ofInt i = .infinite negative) ↔ overflow ≤ i.natAbs := by
  rw [ofInt]
  by_cases zero : i.natAbs = 0
  · have positive : 0 < overflow := by decide +kernel
    rw [zero, ofRatio, if_pos rfl]
    refine ⟨?_, fun large => absurd large (Nat.not_le_of_lt positive)⟩
    rintro ⟨sign, ⟨⟩⟩
  · rw [ofRatio_one_eq_infinite_iff zero (k := 970) rfl, digits_iff zero, overflow_eq]

end ExamPress.Double
