import ExamPress.Number.Decimal
import ExamPress.Proofs.Number.Rounding
import ExamPress.Proofs.Text.Numbers
import Mathlib.Algebra.Order.Floor.Semifield
import Mathlib.Data.List.DropRight
import Mathlib.Tactic.Linarith

/-! # Decimals of doubles

A decimal stands for a rational number (`Decimal.value`). Which double a decimal reads back as
depends on this number alone (`nearest_eq`). Rounding to some digits keeps the order of doubles
(`roundTo_lastPower_mono`), and a whole number with no more digits than that is rounded to itself.
The fewest digits of a double read back as the double (`exists_shortest`): seventeen digits always
do, because they differ from it only in a digit that its rounding passes over. -/

namespace ExamPress

/-! ### Digits -/

namespace Text

theorem toNat_append (a b : Text) : toNat (a ++ b) = toNat a * 10 ^ b.length + toNat b := by
  have shift (n : Nat) : b.foldl (fun n c => 10 * n + c.digitValue) n =
      n * 10 ^ b.length + toNat b := by
    induction b generalizing n with
    | nil => simp [toNat]
    | cons c b ih =>
      have one := ih (10 * 0 + c.digitValue)
      have all : toNat (c :: b) = (10 * 0 + c.digitValue) * 10 ^ b.length + toNat b := one
      rw [List.foldl_cons, ih, all, List.length_cons]
      ring
  rw [toNat, List.foldl_append, shift]
  rfl

@[simp]
theorem length_zeros (k : Nat) : (Decimal.zeros k).length = k := List.length_replicate

@[simp]
theorem toNat_zeros (k : Nat) : toNat (Decimal.zeros k) = 0 := by
  induction k with
  | zero => rfl
  | succ k ih =>
    rw [Decimal.zeros, List.replicate_succ, ← List.singleton_append, toNat_append,
      ← Decimal.zeros, ih]
    simp [toNat, CodePoint.digitValue, CodePoint.toNat]

theorem length_ofNat (n : Nat) : (ofNat n).length = Nat.log 10 n + 1 := by
  have bound (k : Nat) : (ofNat n).length ≤ k + 1 ↔ Nat.log 10 n ≤ k := by
    rw [ofNat, List.length_map, Nat.length_toDigits_le_iff (by decide) (Nat.succ_pos k)]
    by_cases h : n = 0
    · simp [h]
    · rw [← Nat.log_lt_iff_lt_pow (by decide) h, Nat.lt_succ_iff]
  have least := (bound (Nat.log 10 n)).mpr le_rfl
  have some : (ofNat n).length ≠ 0 := by
    rw [ne_eq, List.length_eq_zero_iff]
    exact ofNat_ne_nil n
  have greatest := (bound ((ofNat n).length - 1)).mp (by omega)
  omega

theorem ofNat_step {n d : Nat} (hn : n ≠ 0) (hd : d < 10) : ofNat (10 * n + d) =
    ofNat n ++ [.char d.digitChar] := by
  rw [ofNat, ← Nat.toDigits_append_toDigits (by decide) (Nat.pos_of_ne_zero hn) hd,
    Nat.toDigits_of_lt_base hd, List.map_append]
  rfl

theorem toNat_lt (s : Text) : toNat s < 10 ^ s.length := by
  induction s using List.reverseRecOn with
  | nil => decide
  | append_singleton s c ih =>
    have digit : c.digitValue ≤ 9 := by
      unfold CodePoint.digitValue
      split_ifs with h
      · have := CodePoint.bounds_of_isDigit h
        omega
      · decide
    have last : toNat [c] = c.digitValue := Nat.zero_add _
    rw [toNat_append, last, List.length_append, List.length_singleton, pow_succ]
    omega

theorem length_ofNat_toNat {s : Text} (h : s ≠ []) :
    (ofNat (toNat s)).length ≤ s.length := by
  have some := List.length_pos_of_ne_nil h
  rw [length_ofNat]
  by_cases zero : toNat s = 0
  · rw [zero, Nat.log_zero_right]
    exact some
  · exact (Nat.log_lt_iff_lt_pow (by decide) zero).mpr (toNat_lt s)

theorem ofNat_mul_pow {n : Nat} (hn : n ≠ 0) (k : Nat) :
    ofNat (n * 10 ^ k) = ofNat n ++ Decimal.zeros k := by
  induction k with
  | zero => simp [Decimal.zeros]
  | succ k ih =>
    have split : n * 10 ^ (k + 1) = 10 * (n * 10 ^ k) + 0 := by ring
    rw [split, ofNat_step (by positivity) (by decide), ih, Decimal.zeros, Decimal.zeros,
      List.replicate_succ', List.append_assoc]
    rfl

theorem head_ofNat {n : Nat} (hn : n ≠ 0) : ∀ c ∈ (ofNat n).head?, c ≠ '0' := by
  induction n using Nat.strongRecOn with
  | ind n ih =>
    by_cases small : n < 10
    · rw [ofNat, Nat.toDigits_of_lt_base small]
      rintro _ ⟨⟩ zero
      exact hn (Nat.digitChar_eq_zero.mp (CodePoint.char.inj zero))
    · have split := Nat.div_add_mod n 10
      have rest : n / 10 ≠ 0 := by omega
      rw [← split, ofNat_step rest (Nat.mod_lt n (by decide)),
        List.head?_append_of_ne_nil _ (ofNat_ne_nil _)]
      exact ih (n / 10) (by omega) rest

end Text

namespace Decimal

open Double

theorem exists_zeros (s : Text) :
    ∃ k, s = Text.dropRightWhile (· == '0') s ++ zeros k := by
  refine ⟨(s.rtakeWhile (· == .char '0')).length, ?_⟩
  have all : s.rtakeWhile (· == .char '0') =
      zeros (s.rtakeWhile (· == .char '0')).length := by
    refine List.eq_replicate_iff.mpr ⟨rfl, fun c hc => ?_⟩
    simpa using List.mem_rtakeWhile_imp hc
  rw [← all]
  exact List.rdropWhile_append_rtakeWhile.symm

theorem floorLog10_eq {num den : Nat} (hnum : num ≠ 0) (hden : den ≠ 0) :
    floorLog10 num den = Int.log 10 ((num : ℚ) / den) := by
  have positive : (0 : ℚ) < den := by positivity
  unfold floorLog10
  split_ifs with one impossible
  · have least : 1 ≤ (num : ℚ) / den := by
      rw [one_le_div positive]
      exact_mod_cast one
    rw [Int.log_of_one_le_right 10 least, Nat.floor_div_eq_div, Text.length_ofNat]
    omega
  · omega
  · rw [Text.length_ofNat]
    generalize hk : Nat.log 10 ((den - 1) / num) = k
    have greatest : den ≤ num * 10 ^ (k + 1) := by
      have : (den - 1) / num < 10 ^ (k + 1) := hk ▸ Nat.lt_pow_succ_log_self (by decide) _
      have := (Nat.div_lt_iff_lt_mul (Nat.pos_of_ne_zero hnum)).mp this
      rw [Nat.mul_comm]
      omega
    have least : num * 10 ^ k < den := by
      have some : (den - 1) / num ≠ 0 := by
        have := Nat.div_pos (by omega : num ≤ den - 1) (Nat.pos_of_ne_zero hnum)
        omega
      have : 10 ^ k ≤ (den - 1) / num := hk ▸ Nat.pow_log_le_self 10 some
      have := (Nat.le_div_iff_mul_le (Nat.pos_of_ne_zero hnum)).mp this
      rw [Nat.mul_comm]
      omega
    have greatest : (den : ℚ) ≤ num * 10 ^ (k + 1) := by exact_mod_cast greatest
    have least : (num : ℚ) * 10 ^ k < den := by exact_mod_cast least
    refine (log_eq (by decide) ?_ ?_).symm
    · rw [zpow_neg, zpow_natCast, inv_le_comm₀ (by positivity) (by positivity), inv_div,
        div_le_iff₀ (by positivity), mul_comm]
      exact_mod_cast greatest
    · have power : -((k + 1 : Nat) : Int) + 1 = -(k : Int) := by omega
      rw [power, zpow_neg, zpow_natCast, lt_inv_comm₀ (by positivity) (by positivity), inv_div,
        lt_div_iff₀ (by positivity), mul_comm]
      exact_mod_cast least

/-! ### The number of a decimal -/

/-- The number that a decimal stands for. -/
def value (x : Decimal) : ℚ :=
  Text.toNat x.digits * 10 ^ (x.power - x.digits.length + 1)

/-- Digits that write a decimal: the first one is not zero. -/
structure WellFormed (x : Decimal) : Prop where
  digits : ∀ c ∈ x.digits, c.isDigit = true
  first : ∀ c ∈ x.digits.head?, c ≠ '0'
  some : x.digits ≠ []

section

variable {count : Nat} {unit : Int}

theorem exists_zeros_ofCount (count : Nat) (unit : Int) :
    ∃ k, Text.ofNat count = (ofCount count unit).digits ++ zeros k :=
  exists_zeros (Text.ofNat count)

theorem wellFormed_ofCount (h : count ≠ 0) (unit : Int) : (ofCount count unit).WellFormed := by
  obtain ⟨k, split⟩ := exists_zeros_ofCount count unit
  have first := Text.head_ofNat h
  have some : (ofCount count unit).digits ≠ [] := by
    intro none
    rw [none, List.nil_append] at split
    have zero : count = 0 := by rw [← Text.toNat_ofNat count, split, Text.toNat_zeros]
    exact h zero
  rw [split, List.head?_append_of_ne_nil _ some] at first
  refine ⟨fun c hc => Text.isDigit_of_mem_ofNat (n := count) ?_, first, some⟩
  rw [split]
  exact List.mem_append_left _ hc

theorem value_ofCount (count : Nat) (unit : Int) :
    (ofCount count unit).value = count * 10 ^ unit := by
  obtain ⟨k, split⟩ := exists_zeros_ofCount count unit
  have number : count = Text.toNat (ofCount count unit).digits * 10 ^ k := by
    have := congrArg Text.toNat split
    rwa [Text.toNat_ofNat, Text.toNat_append, Text.toNat_zeros, Text.length_zeros] at this
  have power : (ofCount count unit).power = unit + (ofCount count unit).digits.length + k - 1 := by
    have := congrArg List.length split
    rw [List.length_append, Text.length_zeros] at this
    simp only [ofCount] at this ⊢
    omega
  have exponent : (ofCount count unit).power - (ofCount count unit).digits.length + 1 =
      k + unit := by omega
  rw [value, exponent, zpow_add₀ (by norm_num), zpow_natCast, ← mul_assoc]
  congr 1
  exact_mod_cast number.symm

end

/-! ### Reading decimals -/

/-- The double that a number is read as. -/
def nearestTo (negative : Bool) (q : ℚ) : Double :=
  if q = 0 then .zero negative
  else if 400 < Int.log 10 q + 1 then .infinite negative
  else if Int.log 10 q + 1 < -400 then .zero negative
  else .ofRatio negative q.num.natAbs q.den

theorem log_mul_zpow {base : Nat} (hbase : 1 < base) {q : ℚ} (hq : 0 < q) (k : Int) :
    Int.log base (q * (base : ℚ) ^ k) = Int.log base q + k := by
  have positive : (0 : ℚ) < (base : ℚ) ^ k := zpow_pos (by positivity) k
  have split (i : Int) : (base : ℚ) ^ (i + k) = (base : ℚ) ^ i * (base : ℚ) ^ k :=
    zpow_add₀ (by positivity) i k
  refine log_eq hbase ?_ ?_
  · rw [split]
    exact mul_le_mul_of_nonneg_right (Int.zpow_log_le_self hbase hq) positive.le
  · rw [add_right_comm, split]
    exact mul_lt_mul_of_pos_right (Int.lt_zpow_succ_log_self hbase q) positive

/-- **The double of a decimal** depends on the number alone that the decimal stands for. -/
theorem nearest_eq (negative : Bool) (digits : Nat) (exponent : Int) :
    nearest negative digits exponent = nearestTo negative (digits * 10 ^ exponent) := by
  by_cases h : digits = 0
  · simp [nearest, nearestTo, h]
  · have positive : (digits : ℚ) * 10 ^ exponent ≠ 0 := by positivity
    have size : ((Text.ofNat digits).length : Int) + exponent =
        Int.log 10 ((digits : ℚ) * 10 ^ exponent) + 1 := by
      have := log_mul_zpow (by decide : 1 < 10) (q := digits) (by positivity) exponent
      rw [Nat.cast_ofNat, Int.log_natCast] at this
      rw [this, Text.length_ofNat]
      omega
    have ratio := mul_zpow_eq digits (by decide : 0 < 10) exponent
    rw [Nat.cast_ofNat] at ratio
    rw [nearest, nearestTo, if_neg h, if_neg positive, size]
    refine if_congr Iff.rfl rfl (if_congr Iff.rfl rfl ?_)
    refine ofRatio_congr negative (by simp [Nat.pow_eq]) (Rat.den_nz _) ?_
    rw [natAbs_num_div_den (by positivity), ← ratio]
    rfl

/-- A finite double that is read has the sign that it is read with, and is canonical. -/
theorem nearest_eq_finite {negative negative' : Bool} {digits m : Nat} {exponent e : Int}
    (h : nearest negative digits exponent = .finite negative' m e) :
    negative' = negative ∧ Canonical m e := by
  have zero (same : Double.zero negative = .finite negative' m e) :
      negative' = negative ∧ Canonical m e := by
    cases same
    exact ⟨rfl, canonical_zero⟩
  unfold nearest at h
  dsimp only at h
  split_ifs at h
  · exact zero h
  · exact zero h
  · obtain ⟨sign, canonical, -⟩ := ofRatio_eq_finite (by simp [Nat.pow_eq]) h
    exact ⟨sign, canonical⟩

theorem isCanonical_nearest (negative : Bool) (digits : Nat) (exponent : Int) :
    (nearest negative digits exponent).IsCanonical := by
  cases h : nearest negative digits exponent with
  | finite _ _ _ => exact (nearest_eq_finite h).2
  | _ => trivial

theorem nearest_sign {digits m : Nat} {exponent e : Int}
    (h : nearest false digits exponent = .finite false m e) (negative : Bool) :
    nearest negative digits exponent = .finite negative m e := by
  unfold nearest Double.ofRatio at h ⊢
  dsimp only at h ⊢
  split_ifs at h ⊢ <;> cases h <;> rfl

theorem log_near {m : Nat} {e : Int} {q : ℚ} (c : Canonical m e) (hm : m ≠ 0)
    (below : m * 2 ^ e ≤ 2 * q) (above : q ≤ 2 * (m * 2 ^ e)) :
    Int.log 10 q + 1 ≤ 400 ∧ -400 ≤ Int.log 10 q + 1 := by
  have greatest : (m : ℚ) * 2 ^ e < 2 ^ 1024 := by
    calc (m : ℚ) * 2 ^ e < 2 ^ 53 * 2 ^ e :=
          mul_lt_mul_of_pos_right (by exact_mod_cast c.bounded) (by positivity)
      _ ≤ 2 ^ 53 * 2 ^ ((971 : Nat) : Int) :=
        mul_le_mul_of_nonneg_left (zpow_le_zpow_right₀ (by norm_num) c.greatest) (by positivity)
      _ = 2 ^ 1024 := by rw [zpow_natCast, ← pow_add]
  have least : (2 ^ 1074 : ℚ)⁻¹ ≤ m * 2 ^ e := by
    calc (2 ^ 1074 : ℚ)⁻¹ = 1 * 2 ^ (-((1074 : Nat) : Int)) := by
          rw [one_mul, zpow_neg, zpow_natCast]
      _ ≤ m * 2 ^ e := by
        refine mul_le_mul ?_ (zpow_le_zpow_right₀ (by norm_num) c.least) (by positivity)
          (by positivity)
        exact_mod_cast Nat.one_le_iff_ne_zero.mpr hm
  have positive : (0 : ℚ) < m * 2 ^ e := by positivity
  have hq : 0 < q := by linarith only [positive, below]
  constructor
  · refine (Int.lt_zpow_iff_log_lt (by decide) hq).mp ?_
    have power : (2 * 2 ^ 1024 : ℚ) ≤ 10 ^ 400 := by
      exact_mod_cast (by decide +kernel : 2 * 2 ^ 1024 ≤ 10 ^ 400)
    calc q < 2 * 2 ^ 1024 := above.trans_lt (mul_lt_mul_of_pos_left greatest two_pos)
      _ ≤ 10 ^ 400 := power
  · have : -401 ≤ Int.log 10 q := by
      refine (Int.zpow_le_iff_le_log (by decide) hq).mp ?_
      have power : (2 * 2 ^ 1074 : ℚ) ≤ 10 ^ 401 := by
        exact_mod_cast (by decide +kernel : 2 * 2 ^ 1074 ≤ 10 ^ 401)
      calc ((10 : Nat) : ℚ) ^ (-((401 : Nat) : Int)) = (10 ^ 401)⁻¹ := by
            rw [zpow_neg, zpow_natCast, Nat.cast_ofNat]
        _ ≤ (2 * 2 ^ 1074)⁻¹ := inv_anti₀ (by positivity) power
        _ ≤ q := by
          rw [mul_inv]
          exact (inv_mul_le_iff₀ two_pos).mpr (least.trans below)
    omega

/-- **A number near a double** is read as the double. -/
theorem nearestTo_near (negative : Bool) {m : Nat} {e : Int} {q : ℚ} (c : Canonical m e)
    (hm : m ≠ 0) (near : |(m : ℚ) * 2 ^ e - q| ≤ m * 2 ^ e / (2 * 10 ^ 16)) :
    nearestTo negative q = .finite negative m e := by
  have positive : (0 : ℚ) < m * 2 ^ e := by positivity
  have half : (m : ℚ) * 2 ^ e / (2 * 10 ^ 16) ≤ m * 2 ^ e / 2 :=
    div_le_div_of_nonneg_left positive.le (by norm_num) (by norm_num)
  obtain ⟨above, below⟩ := abs_le.mp (near.trans half)
  have hq : 0 < q := by linarith
  obtain ⟨most, least⟩ := log_near (q := q) c hm (by linarith) (by linarith)
  rw [nearestTo, if_neg hq.ne', if_neg (not_lt.mpr most), if_neg (not_lt.mpr least)]
  refine ofRatio_near negative c ?_ q.den_nz ?_
  · rw [Int.natAbs_ne_zero]
    exact Rat.num_ne_zero.mpr hq.ne'
  · rwa [natAbs_num_div_den hq.le]

/-! ### Rounding to some digits -/

section

variable {num den places : Nat}

/-- The exponent of the last of some digits of a ratio. -/
def lastPower (q : ℚ) (places : Nat) : Int := Int.log 10 q - places + 1

theorem rounded_eq (hnum : num ≠ 0) (hden : den ≠ 0) (places : Nat) :
    rounded num den places =
      ofCount (roundEven ((num : ℚ) / den / 10 ^ lastPower ((num : ℚ) / den) places))
        (lastPower ((num : ℚ) / den) places) := by
  have units := div_zpow num den (by decide : 0 < 10) (lastPower ((num : ℚ) / den) places)
  rw [Nat.cast_ofNat] at units
  simp only [rounded, inUnits, floorLog10_eq hnum hden, Nat.pow_eq]
  rw [← units, ← roundDiv_eq (by positivity)]
  rfl

theorem one_le_div_lastPower {q : ℚ} (hq : 0 < q) (hp : 1 ≤ places) :
    1 ≤ q / 10 ^ lastPower q places := by
  rw [one_le_div (by positivity)]
  calc (10 : ℚ) ^ lastPower q places ≤ 10 ^ Int.log 10 q := by
        refine zpow_le_zpow_right₀ (by norm_num) ?_
        rw [lastPower]
        omega
    _ ≤ q := by exact_mod_cast Int.zpow_log_le_self (by decide : 1 < 10) hq

theorem roundEven_lastPower_ne_zero {q : ℚ} (hq : 0 < q) (hp : 1 ≤ places) :
    roundEven (q / 10 ^ lastPower q places) ≠ 0 := by
  have := roundEven_le_roundEven (q := (1 : Nat)) (by norm_num)
    (by exact_mod_cast one_le_div_lastPower hq hp)
  rw [roundEven_natCast] at this
  omega

theorem wellFormed_rounded (hnum : num ≠ 0) (hden : den ≠ 0) (hp : 1 ≤ places) :
    (rounded num den places).WellFormed := by
  rw [rounded_eq hnum hden]
  exact wellFormed_ofCount (roundEven_lastPower_ne_zero (by positivity) hp) _

theorem value_rounded (hnum : num ≠ 0) (hden : den ≠ 0) (places : Nat) :
    (rounded num den places).value =
      roundTo 10 (lastPower ((num : ℚ) / den) places) ((num : ℚ) / den) := by
  rw [rounded_eq hnum hden, value_ofCount, roundTo, Nat.cast_ofNat]

/-- **Rounding to some digits keeps the order** of ratios. -/
theorem roundTo_lastPower_mono {q q' : ℚ} (hq : 0 ≤ q) (le : q ≤ q') (hp : 1 ≤ places) :
    roundTo 10 (lastPower q places) q ≤ roundTo 10 (lastPower q' places) q' := by
  rcases hq.eq_or_lt with rfl | hq
  · rw [roundTo_zero]
    exact roundTo_nonneg _ _ _
  refine roundTo_le_roundTo (by decide) hq.le le ?_
  rcases log_eq_or_between (by decide : 1 < 10) hq le with same | ⟨fewer, below, above⟩
  · rw [lastPower, lastPower, same]
    exact Or.inl rfl
  · refine Or.inr ⟨Int.log 10 q', ?_, ?_, below, above⟩ <;> rw [lastPower] <;> omega

/-- **A whole number with no more digits** is rounded to itself. -/
theorem rounded_natCast {n : Nat} (hn : n ≠ 0) (hden : den ≠ 0)
    (whole : (num : ℚ) / den = n) (few : n < 10 ^ places) :
    rounded num den places = ⟨Text.dropRightWhile (· == '0') (Text.ofNat n),
      ((Text.ofNat n).length : Int) - 1⟩ := by
  have hnum : num ≠ 0 := by
    rintro rfl
    rw [Nat.cast_zero, zero_div] at whole
    exact hn (by exact_mod_cast whole.symm)
  have digits : Nat.log 10 n < places := (Nat.log_lt_iff_lt_pow (by decide) hn).mpr few
  obtain ⟨k, hk⟩ : ∃ k : Nat, lastPower (n : ℚ) places = -(k : Int) := by
    refine ⟨places - 1 - Nat.log 10 n, ?_⟩
    rw [lastPower, Int.log_natCast]
    omega
  have units : (n : ℚ) / 10 ^ (-(k : Int)) = ((n * 10 ^ k : Nat) : ℚ) := by
    rw [zpow_neg, zpow_natCast, div_inv_eq_mul]
    push_cast
    rfl
  obtain ⟨j, split⟩ := exists_zeros (Text.ofNat n)
  have drop : Text.dropRightWhile (· == .char '0') (Text.ofNat n ++ zeros k) =
      Text.dropRightWhile (· == .char '0') (Text.ofNat n) := by
    have zero : ∀ c ∈ (zeros k).reverse, (c == .char '0') = true := by simp [zeros]
    rw [Text.dropRightWhile, List.reverse_append, List.dropWhile_append_of_pos zero]
    rfl
  rw [rounded_eq hnum hden, whole, hk, units, roundEven_natCast, ofCount, Text.ofNat_mul_pow hn,
    drop, List.length_append, Text.length_zeros]
  congr 1
  omega

/-- The sixteen digits of a whole number that has no more are written as its decimal text. -/
theorem write_rounded_natCast {n : Nat} (hn : n ≠ 0) (hden : den ≠ 0)
    (whole : (num : ℚ) / den = n) (few : n < 10 ^ 16) :
    (rounded num den 16).write false = Text.ofNat n := by
  have least := Text.length_ofNat n
  have most : Nat.log 10 n < 16 := (Nat.log_lt_iff_lt_pow (by decide) hn).mpr few
  obtain ⟨k, split⟩ := exists_zeros (Text.ofNat n)
  have lengths := congrArg List.length split
  rw [List.length_append, Text.length_zeros] at lengths
  rw [rounded_natCast hn hden whole few, write]
  generalize Text.dropRightWhile (· == '0') (Text.ofNat n) = digits at split lengths
  dsimp only
  rw [if_pos (by omega), if_neg (by omega)]
  have places : ((((Text.ofNat n).length : Int) - 1).toNat + 1) = (Text.ofNat n).length := by omega
  have fill : (Text.ofNat n).length - digits.length = k := by omega
  rw [places, fill, List.take_of_length_le (by omega), List.drop_of_length_le (by omega)]
  exact split.symm

end

/-! ### The fewest digits that read back -/

section

variable {d : Double} {num den : Nat}

theorem exists_of_mem_readingBack {places : Nat} {x : Decimal}
    (h : x ∈ readingBack d num den places) :
    ∃ count unit, x = ofCount count unit ∧ nearest false count unit = d := by
  obtain ⟨count, hc, rfl⟩ := List.mem_map.mp h
  exact ⟨count, _, rfl, of_decide_eq_true (List.mem_filter.mp hc).2⟩

/-- **Seventeen digits** of a double read back as the double. -/
theorem readingBack_seventeen {m : Nat} {e : Int} (c : Canonical m e) (hm : m ≠ 0) (hnum : num ≠ 0)
    (hden : den ≠ 0) (magnitude : (num : ℚ) / den = m * 2 ^ e) :
    readingBack (.finite false m e) num den 17 ≠ [] := by
  have positive : (0 : ℚ) < (num : ℚ) / den := by positivity
  have units := div_zpow num den (by decide : 0 < 10) (lastPower ((num : ℚ) / den) 17)
  rw [Nat.cast_ofNat] at units
  generalize hu : lastPower ((num : ℚ) / den) 17 = unit at units
  have unitPositive : (0 : ℚ) < 10 ^ unit := by positivity
  have unitSmall : (10 : ℚ) ^ unit * 10 ^ 16 ≤ num / den := by
    calc (10 : ℚ) ^ unit * 10 ^ 16 = 10 ^ Int.log 10 ((num : ℚ) / den) := by
          have sum : Int.log 10 ((num : ℚ) / den) = unit + (16 : Nat) := by
            rw [← hu, lastPower]
            omega
          rw [sum, zpow_add₀ (by norm_num), zpow_natCast]
      _ ≤ num / den := by exact_mod_cast Int.zpow_log_le_self (by decide : 1 < 10) positive
  have near := (isNearest_roundEven (q := (num : ℚ) / den / 10 ^ unit) (by positivity)).near
  have reads : nearest false (roundEven ((num : ℚ) / den / 10 ^ unit)) unit =
      .finite false m e := by
    rw [nearest_eq]
    refine nearestTo_near false c hm ?_
    rw [← magnitude, abs_sub_comm]
    calc |(roundEven ((num : ℚ) / den / 10 ^ unit) : ℚ) * 10 ^ unit - num / den| =
          |(roundEven ((num : ℚ) / den / 10 ^ unit) : ℚ) - num / den / 10 ^ unit| * 10 ^ unit := by
          rw [← abs_of_pos unitPositive, ← abs_mul, abs_of_pos unitPositive, sub_mul,
            div_mul_cancel₀ _ unitPositive.ne']
      _ ≤ 1 / 2 * 10 ^ unit := mul_le_mul_of_nonneg_right near unitPositive.le
      _ ≤ num / den / (2 * 10 ^ 16) := by
        rw [le_div_iff₀ (by norm_num)]
        linarith
  have first : ofCount (roundEven ((num : ℚ) / den / 10 ^ unit)) unit ∈
      readingBack (.finite false m e) num den 17 := by
    have power : floorLog10 num den - ((17 : Nat) : Int) + 1 = unit := by
      rw [floorLog10_eq hnum hden, ← hu, lastPower]
    simp only [readingBack, inUnits, power, Nat.pow_eq]
    rw [← units, ← roundDiv_eq (by positivity)] at reads ⊢
    exact List.mem_map_of_mem (List.mem_filter.mpr ⟨List.mem_cons_self, decide_eq_true reads⟩)
  exact List.ne_nil_of_mem first

/-- **The fewest digits of a double** read back as the double. -/
theorem exists_shortest {m : Nat} {e : Int} (c : Canonical m e) (hm : m ≠ 0) (hnum : num ≠ 0)
    (hden : den ≠ 0) (magnitude : (num : ℚ) / den = m * 2 ^ e) :
    ∃ count unit, count ≠ 0 ∧ shortest (.finite false m e) num den = ofCount count unit ∧
      nearest false count unit = .finite false m e := by
  have found : ((List.range 17).findSome? fun i =>
      (readingBack (.finite false m e) num den (i + 1)).head?) ≠ none := by
    intro none
    have last := List.findSome?_eq_none_iff.mp none 16 (by decide)
    exact readingBack_seventeen c hm hnum hden magnitude (List.head?_eq_none_iff.mp last)
  obtain ⟨x, hx⟩ := Option.ne_none_iff_exists'.mp found
  obtain ⟨i, -, head⟩ := List.exists_of_findSome?_eq_some hx
  obtain ⟨count, unit, rfl, reads⟩ := exists_of_mem_readingBack (List.mem_of_mem_head? head)
  refine ⟨count, unit, ?_, ?_, reads⟩
  · rintro rfl
    cases reads
    exact hm rfl
  · rw [shortest, hx, Option.getD_some]

end

end Decimal

end ExamPress
