import ExamPress.Number.Double
import Mathlib.Algebra.Order.Field.Power
import Mathlib.Data.Int.Log
import Mathlib.Data.Rat.Floor
import Mathlib.Tactic.FieldSimp
import Mathlib.Tactic.Linarith

/-! # Rounding

A ratio is rounded to a whole number of units, and the units are powers of a base. What a rounding
gives depends on the ratio alone, and not on how it is written as a quotient: `roundDiv` and
`floorLog2` are functions of the rational number (`roundDiv_eq`, `floorLog2_eq`). Rounding keeps the
order of ratios (`roundTo_le_roundTo`), because a power of the base between two ratios is a whole
number of the units of both. -/

namespace ExamPress

namespace Double

/-! ### Rounding to whole numbers -/

/-- A whole number that is nearest to a ratio, and even if it is half a unit away. -/
structure IsNearest (q : ℚ) (n : Nat) : Prop where
  near : |(n : ℚ) - q| ≤ 1 / 2
  even : |(n : ℚ) - q| = 1 / 2 → n % 2 = 0

/-- **Rounding keeps the order** of ratios. -/
theorem IsNearest.le {q q' : ℚ} {n n' : Nat} (h : IsNearest q n) (h' : IsNearest q' n')
    (le : q ≤ q') : n ≤ n' := by
  by_contra less
  have below := abs_le.mp h.near
  have above := abs_le.mp h'.near
  have step : (n' : ℚ) + 1 ≤ n := by exact_mod_cast Nat.lt_of_not_le less
  -- both ratios are half a unit away from two neighbours, and one of these is odd
  have tie : (n : ℚ) - q = 1 / 2 := by linarith
  have tie' : (n' : ℚ) - q' = -(1 / 2) := by linarith
  have next : n = n' + 1 := by
    have : (n : ℚ) = n' + 1 := by linarith
    exact_mod_cast this
  have even := h.even (by rw [tie]; norm_num)
  have even' := h'.even (by rw [tie']; norm_num)
  omega

theorem IsNearest.unique {q : ℚ} {n n' : Nat} (h : IsNearest q n) (h' : IsNearest q n') : n = n' :=
  Nat.le_antisymm (h.le h' le_rfl) (h'.le h le_rfl)

theorem isNearest_of_lt {q : ℚ} {n : Nat} (h : |(n : ℚ) - q| < 1 / 2) : IsNearest q n :=
  ⟨h.le, fun tie => absurd tie h.ne⟩

section

variable {num den : Nat}

theorem two_mul_mod {n : Nat} (hden : 0 < den)
    (h : 2 * (den * n) = 2 * num + den ∨ 2 * num = 2 * (den * n) + den) :
    2 * (num % den) = den := by
  have split := Nat.div_add_mod num den
  have rest := Nat.mod_lt num hden
  generalize num / den = k at split
  generalize num % den = r at split rest
  subst split
  rcases h with h | h
  · -- `r` is `n - k` denominators and half a one less
    have whole : n = k + 1 := by
      have least : k < n := by
        refine Nat.lt_of_mul_lt_mul_left (a := den) ?_
        omega
      have greatest : n < k + 2 := by
        refine Nat.lt_of_mul_lt_mul_left (a := den) ?_
        rw [Nat.mul_add]
        omega
      omega
    rw [whole, Nat.mul_add] at h
    omega
  · have whole : n = k := by
      have least : k < n + 1 := by
        refine Nat.lt_of_mul_lt_mul_left (a := den) ?_
        rw [Nat.mul_add]
        omega
      have greatest : n < k + 1 := by
        refine Nat.lt_of_mul_lt_mul_left (a := den) ?_
        rw [Nat.mul_add]
        omega
      omega
    rw [whole] at h
    omega

theorem isNearest_roundDiv (hden : 0 < den) :
    IsNearest ((num : ℚ) / den) (roundDiv num den) := by
  have positive : (0 : ℚ) < den := by exact_mod_cast hden
  have below : (2 * (den * roundDiv num den) : ℚ) ≤ 2 * num + den := by
    exact_mod_cast two_mul_roundDiv_le num den hden
  have above : (2 * num : ℚ) ≤ 2 * (den * roundDiv num den) + den := by
    exact_mod_cast le_two_mul_roundDiv num den hden
  have scaled : ((roundDiv num den : ℚ) - num / den) =
      (2 * (den * roundDiv num den) - 2 * num) / (2 * den) := by
    field_simp
  constructor
  · rw [scaled, abs_le, le_div_iff₀ (by linarith), div_le_iff₀ (by linarith)]
    constructor <;> linarith
  · intro tie
    refine roundDiv_mod_two (two_mul_mod (n := roundDiv num den) hden ?_)
    rw [scaled, abs_eq (by norm_num), div_eq_iff (by linarith), div_eq_iff (by linarith)] at tie
    rcases tie with tie | tie
    · left
      have : (2 * (den * roundDiv num den) : ℚ) = 2 * num + den := by linarith
      exact_mod_cast this
    · right
      have : (2 * num : ℚ) = 2 * (den * roundDiv num den) + den := by linarith
      exact_mod_cast this

end

/-- The whole number nearest to a ratio that is not negative, ties to even. -/
def roundEven (q : ℚ) : Nat := roundDiv q.num.natAbs q.den

theorem natAbs_num_div_den {q : ℚ} (h : 0 ≤ q) : (q.num.natAbs : ℚ) / q.den = q := by
  have whole : (q.num.natAbs : ℤ) = q.num := Int.natAbs_of_nonneg (Rat.num_nonneg.mpr h)
  rw [← Int.cast_natCast q.num.natAbs, whole, Rat.num_div_den]

theorem isNearest_roundEven {q : ℚ} (h : 0 ≤ q) : IsNearest q (roundEven q) := by
  have nearest : IsNearest ((q.num.natAbs : ℚ) / q.den) (roundEven q) :=
    isNearest_roundDiv q.den_pos
  rwa [natAbs_num_div_den h] at nearest

theorem roundDiv_eq {num den : Nat} (hden : 0 < den) :
    roundDiv num den = roundEven ((num : ℚ) / den) :=
  (isNearest_roundDiv hden).unique (isNearest_roundEven (by positivity))

theorem roundEven_eq {q : ℚ} {n : Nat} (hq : 0 ≤ q) (h : |(n : ℚ) - q| < 1 / 2) :
    roundEven q = n :=
  (isNearest_roundEven hq).unique (isNearest_of_lt h)

theorem roundEven_natCast (n : Nat) : roundEven n = n :=
  roundEven_eq (Nat.cast_nonneg n) (by norm_num)

theorem roundEven_le_roundEven {q q' : ℚ} (h : 0 ≤ q) (le : q ≤ q') :
    roundEven q ≤ roundEven q' :=
  (isNearest_roundEven h).le (isNearest_roundEven (h.trans le)) le

/-! ### Rounding to units -/

/-- The ratio rounded to a whole number of units, which are a power of a base. -/
def roundTo (base : Nat) (unit : Int) (q : ℚ) : ℚ :=
  roundEven (q / (base : ℚ) ^ unit) * (base : ℚ) ^ unit

section

variable {base : Nat} {unit unit' : Int} {q q' : ℚ}

theorem div_zpow (num den : Nat) (hbase : 0 < base) (unit : Int) :
    ((num * base ^ (-unit).toNat : Nat) : ℚ) / (den * base ^ unit.toNat : Nat) =
      (num : ℚ) / den / (base : ℚ) ^ unit := by
  have positive : (base : ℚ) ≠ 0 := by exact_mod_cast hbase.ne'
  push_cast
  rcases Int.le_total 0 unit with h | h
  · obtain ⟨k, rfl⟩ := Int.eq_ofNat_of_zero_le h
    have none : (-(k : Int)).toNat = 0 := by omega
    rw [none, Int.toNat_natCast, pow_zero, mul_one, zpow_natCast, div_div]
  · obtain ⟨k, hk⟩ := Int.eq_ofNat_of_zero_le (Int.neg_nonneg_of_nonpos h)
    obtain rfl : unit = -(k : Int) := by omega
    have none : (-(k : Int)).toNat = 0 := by omega
    rw [none, neg_neg, Int.toNat_natCast, pow_zero, mul_one, zpow_neg, zpow_natCast, div_inv_eq_mul,
      mul_div_right_comm]

theorem mul_zpow_eq (n : Nat) (hbase : 0 < base) (unit : Int) :
    ((n * base ^ unit.toNat : Nat) : ℚ) / (base ^ (-unit).toNat : Nat) = n * (base : ℚ) ^ unit := by
  have := div_zpow n 1 hbase (-unit)
  rwa [neg_neg, one_mul, Nat.cast_one, div_one, zpow_neg, div_inv_eq_mul] at this

theorem roundTo_nonneg (base : Nat) (unit : Int) (q : ℚ) : 0 ≤ roundTo base unit q := by
  unfold roundTo
  positivity

theorem roundTo_zero (base : Nat) (unit : Int) : roundTo base unit 0 = 0 := by
  have none : roundEven 0 = 0 := by exact_mod_cast roundEven_natCast 0
  rw [roundTo, zero_div, none, Nat.cast_zero, zero_mul]

theorem roundTo_zpow (hbase : 0 < base) (h : unit ≤ unit') :
    roundTo base unit ((base : ℚ) ^ unit') = (base : ℚ) ^ unit' := by
  have positive : (base : ℚ) ≠ 0 := by exact_mod_cast hbase.ne'
  obtain ⟨k, hk⟩ := Int.eq_ofNat_of_zero_le (Int.sub_nonneg_of_le h)
  have whole : (base : ℚ) ^ unit' / (base : ℚ) ^ unit = ((base ^ k : Nat) : ℚ) := by
    rw [← zpow_sub₀ positive, hk]
    push_cast
    exact zpow_natCast _ k
  rw [roundTo, whole, roundEven_natCast, ← whole, div_mul_cancel₀ _ (zpow_ne_zero _ positive)]

theorem roundTo_mono (hq : 0 ≤ q) (le : q ≤ q') :
    roundTo base unit q ≤ roundTo base unit q' := by
  have positive : (0 : ℚ) ≤ (base : ℚ) ^ unit := zpow_nonneg (Nat.cast_nonneg base) unit
  refine mul_le_mul_of_nonneg_right ?_ positive
  exact_mod_cast roundEven_le_roundEven (div_nonneg hq positive)
    (div_le_div_of_nonneg_right le positive)

/-- **Rounding keeps the order** of two ratios that are rounded to the same units, or that have a
power of the base between them which is a whole number of the units of both. -/
theorem roundTo_le_roundTo (hbase : 0 < base) (hq : 0 ≤ q) (le : q ≤ q')
    (h : unit = unit' ∨ ∃ k : Int, unit ≤ k ∧ unit' ≤ k ∧ q ≤ (base : ℚ) ^ k ∧
      (base : ℚ) ^ k ≤ q') : roundTo base unit q ≤ roundTo base unit' q' := by
  rcases h with rfl | ⟨k, whole, whole', below, above⟩
  · exact roundTo_mono hq le
  · calc roundTo base unit q ≤ roundTo base unit ((base : ℚ) ^ k) := roundTo_mono hq below
      _ = roundTo base unit' ((base : ℚ) ^ k) := by
        rw [roundTo_zpow hbase whole, roundTo_zpow hbase whole']
      _ ≤ roundTo base unit' q' := roundTo_mono (hq.trans below) above

theorem roundTo_natCast_mul (hbase : 0 < base) (n : Nat) :
    roundTo base unit (n * (base : ℚ) ^ unit) = n * (base : ℚ) ^ unit := by
  have positive : (base : ℚ) ^ unit ≠ 0 := zpow_ne_zero _ (by exact_mod_cast hbase.ne')
  rw [roundTo, mul_div_cancel_right₀ _ positive, roundEven_natCast]

end

/-! ### The doubles near a ratio -/

theorem log_eq {base : Nat} (hbase : 1 < base) {k : Int} {q : ℚ} (least : (base : ℚ) ^ k ≤ q)
    (greatest : q < (base : ℚ) ^ (k + 1)) : Int.log base q = k := by
  have positive : 0 < q := lt_of_lt_of_le (zpow_pos (by positivity) k) least
  have below := (Int.zpow_le_iff_le_log hbase positive).mp least
  have above := (Int.lt_zpow_iff_log_lt hbase positive).mp greatest
  omega

theorem floorLog2_eq {num den : Nat} (hnum : num ≠ 0) (hden : den ≠ 0) :
    floorLog2 num den = Int.log 2 ((num : ℚ) / den) := by
  have positive : (0 : ℚ) < den := by positivity
  have numLeast : (2 : ℚ) ^ (Nat.log2 num : Int) ≤ num := by
    exact_mod_cast Nat.log2_self_le hnum
  have numGreatest : (num : ℚ) < 2 ^ ((Nat.log2 num : Int) + 1) := by
    exact_mod_cast (Nat.lt_log2_self : num < 2 ^ (Nat.log2 num + 1))
  have denLeast : (2 : ℚ) ^ (Nat.log2 den : Int) ≤ den := by
    exact_mod_cast Nat.log2_self_le hden
  have denGreatest : (den : ℚ) < 2 ^ ((Nat.log2 den : Int) + 1) := by
    exact_mod_cast (Nat.lt_log2_self : den < 2 ^ (Nat.log2 den + 1))
  generalize hg : (Nat.log2 num : Int) - (Nat.log2 den : Int) = guess
  have least : (2 : ℚ) ^ (guess - 1) ≤ (num : ℚ) / den := by
    rw [le_div_iff₀ positive]
    calc (2 : ℚ) ^ (guess - 1) * den ≤ 2 ^ (guess - 1) * 2 ^ ((Nat.log2 den : Int) + 1) :=
          mul_le_mul_of_nonneg_left denGreatest.le (by positivity)
      _ = 2 ^ (Nat.log2 num : Int) := by
        rw [← zpow_add₀ (by norm_num)]
        congr 1
        omega
      _ ≤ num := numLeast
  have greatest : (num : ℚ) / den < 2 ^ (guess + 1) := by
    rw [div_lt_iff₀ positive]
    calc (num : ℚ) < 2 ^ ((Nat.log2 num : Int) + 1) := numGreatest
      _ = 2 ^ (guess + 1) * 2 ^ (Nat.log2 den : Int) := by
        rw [← zpow_add₀ (by norm_num)]
        congr 1
        omega
      _ ≤ 2 ^ (guess + 1) * den := mul_le_mul_of_nonneg_left denLeast (by positivity)
  have test : den * 2 ^ guess.toNat ≤ num * 2 ^ (-guess).toNat ↔
      (2 : ℚ) ^ guess ≤ (num : ℚ) / den := by
    have units := div_zpow num den (by decide : 0 < 2) guess
    rw [Nat.cast_ofNat] at units
    rw [← one_le_div (by positivity : (0 : ℚ) < 2 ^ guess), ← units, one_le_div (by positivity)]
    exact_mod_cast Iff.rfl
  simp only [floorLog2, hg, Nat.pow_eq, test]
  split_ifs with full
  · exact (log_eq (by decide) full greatest).symm
  · refine (log_eq (by decide) least ?_).symm
    rw [sub_add_cancel]
    exact lt_of_not_ge full

/-- The exponent of the unit of the doubles near a ratio. -/
def unitOf (q : ℚ) : Int := max minExponent (Int.log 2 q - 52)

/-- The double of a whole number of units. One with 54 digits is a power of two, and is carried to
the next unit. -/
def ofUnits (negative : Bool) (mantissa : Nat) (exponent : Int) : Double :=
  let (mantissa, exponent) :=
    if mantissa = 2 ^ 53 then (2 ^ 52, exponent + 1) else (mantissa, exponent)
  if exponent > maxExponent then infinite negative else finite negative mantissa exponent

/-- **The double of a quotient** depends on the ratio alone. -/
theorem ofRatio_eq (negative : Bool) {num den : Nat} (hnum : num ≠ 0) (hden : den ≠ 0) :
    ofRatio negative num den =
      ofUnits negative (roundEven ((num : ℚ) / den / 2 ^ unitOf ((num : ℚ) / den)))
        (unitOf ((num : ℚ) / den)) := by
  have units := div_zpow num den (by decide : 0 < 2) (unitOf ((num : ℚ) / den))
  rw [Nat.cast_ofNat] at units
  rw [ofRatio, if_neg hnum, floorLog2_eq hnum hden, ← units, ← roundDiv_eq (by positivity)]
  rfl

theorem ofRatio_congr (negative : Bool) {num den num' den' : Nat} (hden : den ≠ 0)
    (hden' : den' ≠ 0) (h : (num : ℚ) / den = num' / den') :
    ofRatio negative num den = ofRatio negative num' den' := by
  by_cases hnum : num = 0
  · have hnum' : num' = 0 := by
      rw [hnum, Nat.cast_zero, zero_div, eq_comm, div_eq_zero_iff] at h
      exact_mod_cast h.resolve_right (by exact_mod_cast hden')
    rw [ofRatio, ofRatio, if_pos hnum, if_pos hnum']
  · have hnum' : num' ≠ 0 := by
      rintro rfl
      rw [Nat.cast_zero, zero_div, div_eq_zero_iff] at h
      exact hnum (by exact_mod_cast h.resolve_right (by exact_mod_cast hden))
    rw [ofRatio_eq negative hnum hden, ofRatio_eq negative hnum' hden', h]

/-! ### Finite doubles -/

/-- The mantissa and the exponent of a finite double: the mantissa has 53 digits, or the exponent is
the least one. -/
structure Canonical (mantissa : Nat) (exponent : Int) : Prop where
  bounded : mantissa < 2 ^ 53
  least : minExponent ≤ exponent
  greatest : exponent ≤ maxExponent
  full : exponent = minExponent ∨ 2 ^ 52 ≤ mantissa

/-- The doubles of the format: a finite one is canonical. -/
def IsCanonical : Double → Prop
  | finite _ mantissa exponent => Canonical mantissa exponent
  | _ => True

theorem canonical_zero : Canonical 0 minExponent := ⟨by decide, le_rfl, by decide, Or.inl rfl⟩

theorem ofUnits_eq_finite {negative negative' : Bool} {n m : Nat} {u e : Int}
    (h : ofUnits negative n u = finite negative' m e) : negative' = negative ∧ e ≤ maxExponent ∧
      (n ≠ 2 ^ 53 ∧ m = n ∧ e = u ∨ n = 2 ^ 53 ∧ m = 2 ^ 52 ∧ e = u + 1) := by
  unfold ofUnits at h
  split_ifs at h with carry <;> dsimp only at h <;> split_ifs at h with large <;> cases h
  · exact ⟨rfl, not_lt.mp large, Or.inr ⟨carry, rfl, rfl⟩⟩
  · exact ⟨rfl, not_lt.mp large, Or.inl ⟨carry, rfl, rfl⟩⟩

section

variable {q : ℚ}

theorem le_unitOf (q : ℚ) : minExponent ≤ unitOf q := le_max_left _ _

/-- A ratio has at most 53 digits before the point in the unit of its doubles. -/
theorem div_unitOf_lt (q : ℚ) : q / 2 ^ unitOf q < 2 ^ 53 := by
  rw [div_lt_iff₀ (by positivity)]
  calc q < 2 ^ (Int.log 2 q + 1) := by
        exact_mod_cast Int.lt_zpow_succ_log_self (by decide : 1 < 2) q
    _ ≤ 2 ^ (53 + unitOf q) := by
      refine zpow_le_zpow_right₀ (by norm_num) ?_
      have := le_max_right minExponent (Int.log 2 q - 52)
      rw [unitOf]
      omega
    _ = 2 ^ 53 * 2 ^ unitOf q := by
      rw [zpow_add₀ (by norm_num)]
      norm_num

theorem le_div_unitOf (hq : 0 < q) (h : unitOf q ≠ minExponent) : 2 ^ 52 ≤ q / 2 ^ unitOf q := by
  have unit : Int.log 2 q = 52 + unitOf q := by
    unfold unitOf at h ⊢
    rcases max_choice minExponent (Int.log 2 q - 52) with same | same
    · exact (h same).elim
    · omega
  rw [le_div_iff₀ (by positivity)]
  calc (2 ^ 52 * 2 ^ unitOf q : ℚ) = 2 ^ Int.log 2 q := by
        rw [unit, zpow_add₀ (by norm_num)]
        norm_num
    _ ≤ q := by exact_mod_cast Int.zpow_log_le_self (by decide : 1 < 2) hq

theorem bounds_roundEven_unitOf (hq : 0 < q) : roundEven (q / 2 ^ unitOf q) ≤ 2 ^ 53 ∧
    (unitOf q ≠ minExponent → 2 ^ 52 ≤ roundEven (q / 2 ^ unitOf q)) := by
  have positive : 0 ≤ q / 2 ^ unitOf q := by positivity
  constructor
  · have le : roundEven (q / 2 ^ unitOf q) ≤ roundEven ((2 ^ 53 : Nat) : ℚ) :=
      roundEven_le_roundEven positive (by exact_mod_cast (div_unitOf_lt q).le)
    rwa [roundEven_natCast] at le
  · intro h
    have le : roundEven ((2 ^ 52 : Nat) : ℚ) ≤ roundEven (q / 2 ^ unitOf q) :=
      roundEven_le_roundEven (by positivity) (by exact_mod_cast le_div_unitOf hq h)
    rwa [roundEven_natCast] at le

/-- **A finite double of a ratio** has a canonical mantissa and exponent, and the ratio rounded to
its units as its magnitude. -/
theorem ofRatio_eq_finite {negative negative' : Bool} {num den m : Nat} {e : Int} (hden : den ≠ 0)
    (h : ofRatio negative num den = finite negative' m e) :
    negative' = negative ∧ Canonical m e ∧
      (m : ℚ) * 2 ^ e = roundTo 2 (unitOf ((num : ℚ) / den)) ((num : ℚ) / den) := by
  by_cases hnum : num = 0
  · rw [ofRatio, if_pos hnum] at h
    cases h
    refine ⟨rfl, canonical_zero, ?_⟩
    rw [hnum, Nat.cast_zero, zero_div, roundTo_zero, zero_mul]
  · rw [ofRatio_eq negative hnum hden] at h
    obtain ⟨bounded, full⟩ := bounds_roundEven_unitOf (q := (num : ℚ) / den) (by positivity)
    have least := le_unitOf ((num : ℚ) / den)
    obtain ⟨sign, greatest, ⟨fewer, rfl, rfl⟩ | ⟨carry, rfl, rfl⟩⟩ := ofUnits_eq_finite h
    · refine ⟨sign, ⟨lt_of_le_of_ne bounded fewer, least, greatest, ?_⟩, ?_⟩
      · exact or_iff_not_imp_left.mpr full
      · rw [roundTo, Nat.cast_ofNat]
    · refine ⟨sign, ⟨by norm_num, by omega, greatest, Or.inr le_rfl⟩, ?_⟩
      rw [roundTo, Nat.cast_ofNat, carry, zpow_add₀ (by norm_num)]
      push_cast
      ring

end

/-! ### Ratios near a double -/

section

variable {m num den : Nat} {e : Int} {q : ℚ}

/-- A change of the seventeenth decimal digit is less than half a unit. -/
theorem Canonical.small (c : Canonical m e) : (m : ℚ) / (2 * 10 ^ 16) < 1 / 2 := by
  have bounded : (m : ℚ) < 2 ^ 53 := by exact_mod_cast c.bounded
  rw [div_lt_iff₀ (by norm_num)]
  refine bounded.trans ?_
  norm_num

/-- **The units near a double.** A ratio that differs from a double in the seventeenth decimal digit
is rounded to the units of the double, or to half of these below a power of two. -/
theorem unitOf_near (c : Canonical m e) (hq : 0 < q)
    (near : |(m : ℚ) - q / 2 ^ e| ≤ m / (2 * 10 ^ 16)) :
    unitOf q = e ∨ m = 2 ^ 52 ∧ unitOf q = e - 1 := by
  have positive : (0 : ℚ) < 2 ^ e := by positivity
  have bounded : (m : ℚ) + 1 ≤ 2 ^ 53 := by exact_mod_cast c.bounded
  obtain ⟨above, below⟩ := abs_lt.mp (near.trans_lt c.small)
  have split (k : Int) : (2 : ℚ) ^ (k + e) = 2 ^ k * 2 ^ e := zpow_add₀ (by norm_num) k e
  have digits : Int.log 2 q < 53 + e := by
    refine (Int.lt_zpow_iff_log_lt (by decide) hq).mp ?_
    rw [Nat.cast_ofNat, split, ← div_lt_iff₀ positive]
    refine lt_of_lt_of_le ?_ bounded
    linarith
  have least := c.least
  unfold unitOf
  rcases c.full with smallest | full
  · left
    omega
  · have full : (2 : ℚ) ^ 52 ≤ m := by exact_mod_cast full
    by_cases reached : (2 : ℚ) ^ 52 ≤ q / 2 ^ e
    · left
      have : 52 + e ≤ Int.log 2 q := by
        refine (Int.zpow_le_iff_le_log (by decide) hq).mp ?_
        rw [Nat.cast_ofNat, split, ← le_div_iff₀ positive]
        exact_mod_cast reached
      omega
    · -- the ratio is below the power of two that the double is
      have power : m = 2 ^ 52 := by
        have : (m : ℚ) < 2 ^ 52 + 1 := by linarith
        have : m < 2 ^ 52 + 1 := by exact_mod_cast this
        have : 2 ^ 52 ≤ m := by exact_mod_cast full
        omega
      have : 51 + e ≤ Int.log 2 q := by
        refine (Int.zpow_le_iff_le_log (by decide) hq).mp ?_
        rw [Nat.cast_ofNat, split, ← le_div_iff₀ positive]
        refine le_trans ?_ (sub_lt_comm.mp below).le
        rw [power]
        norm_num
      have : Int.log 2 q < 52 + e := by
        refine (Int.lt_zpow_iff_log_lt (by decide) hq).mp ?_
        rw [Nat.cast_ofNat, split, ← div_lt_iff₀ positive]
        exact_mod_cast not_le.mp reached
      omega

/-- **A ratio near a double**, which differs from it at most in the seventeenth decimal digit, has
this double as the nearest one. -/
theorem ofRatio_near (negative : Bool) (c : Canonical m e) (hnum : num ≠ 0) (hden : den ≠ 0)
    (near : |(m : ℚ) * 2 ^ e - num / den| ≤ m * 2 ^ e / (2 * 10 ^ 16)) :
    ofRatio negative num den = finite negative m e := by
  have positive : (0 : ℚ) < 2 ^ e := by positivity
  have hq : (0 : ℚ) < (num : ℚ) / den := by positivity
  rw [ofRatio_eq negative hnum hden]
  generalize (num : ℚ) / den = q at near hq
  have near : |(m : ℚ) - q / 2 ^ e| ≤ m / (2 * 10 ^ 16) := by
    have scaled : (m : ℚ) * 2 ^ e - q = (m - q / 2 ^ e) * 2 ^ e := by field_simp
    rw [scaled, abs_mul, abs_of_pos positive, mul_div_right_comm] at near
    exact le_of_mul_le_mul_right near positive
  rcases unitOf_near c hq near with unit | ⟨rfl, unit⟩
  · have units : roundEven (q / 2 ^ e) = m :=
      roundEven_eq (by positivity) (near.trans_lt c.small)
    rw [unit, units, ofUnits, if_neg (Nat.ne_of_lt c.bounded)]
    exact if_neg (not_lt.mpr c.greatest)
  · have units : roundEven (q / 2 ^ (e - 1)) = 2 ^ 53 := by
      have double : q / 2 ^ (e - 1) = 2 * (q / 2 ^ e) := by
        rw [zpow_sub_one₀ (by norm_num)]
        field_simp
      refine roundEven_eq (by positivity) ?_
      rw [double, abs_lt]
      rw [abs_le] at near
      norm_num at near ⊢
      constructor <;> linarith
    rw [unit, units, ofUnits, if_pos rfl]
    dsimp only
    rw [sub_add_cancel]
    exact if_neg (not_lt.mpr c.greatest)

end

/-! ### The order of doubles -/

/-- Two ratios have as many digits, or a power of the base between them. -/
theorem log_eq_or_between {base : Nat} (hbase : 1 < base) {q q' : ℚ} (hq : 0 < q) (le : q ≤ q') :
    Int.log base q = Int.log base q' ∨
      Int.log base q < Int.log base q' ∧ q ≤ (base : ℚ) ^ Int.log base q' ∧
        (base : ℚ) ^ Int.log base q' ≤ q' := by
  rcases (Int.log_mono_right (b := base) hq le).eq_or_lt with same | fewer
  · exact Or.inl same
  · refine Or.inr ⟨fewer, ?_, Int.zpow_log_le_self hbase (hq.trans_le le)⟩
    exact ((Int.lt_zpow_iff_log_lt hbase hq).mpr fewer).le

/-- **Doubles keep the order** of the ratios that are rounded to them. -/
theorem roundTo_unitOf_mono {q q' : ℚ} (hq : 0 ≤ q) (le : q ≤ q') :
    roundTo 2 (unitOf q) q ≤ roundTo 2 (unitOf q') q' := by
  rcases hq.eq_or_lt with rfl | hq
  · rw [roundTo_zero]
    exact roundTo_nonneg _ _ _
  refine roundTo_le_roundTo (by decide) hq.le le ?_
  rcases log_eq_or_between (by decide : 1 < 2) hq le with same | ⟨fewer, below, above⟩
  · rw [unitOf, unitOf, same]
    exact Or.inl rfl
  · by_cases smallest : Int.log 2 q' - 52 ≤ minExponent
    · rw [unitOf, unitOf, max_eq_left smallest, max_eq_left (by omega)]
      exact Or.inl rfl
    · exact Or.inr ⟨Int.log 2 q', max_le (by omega) (by omega), max_le (by omega) (by omega),
        below, above⟩

theorem roundTo_natCast {base : Nat} (hbase : 0 < base) {unit : Int} (h : unit ≤ 0) (n : Nat) :
    roundTo base unit n = n := by
  obtain ⟨k, hk⟩ := Int.eq_ofNat_of_zero_le (Int.neg_nonneg_of_nonpos h)
  have positive : (base : ℚ) ≠ 0 := by exact_mod_cast hbase.ne'
  have whole : (n : ℚ) = (n * base ^ k : Nat) * (base : ℚ) ^ unit := by
    have inverse : unit = -(k : Int) := by omega
    push_cast
    rw [inverse, zpow_neg, zpow_natCast]
    field_simp
  rw [whole, roundTo_natCast_mul hbase]

end Double

end ExamPress
