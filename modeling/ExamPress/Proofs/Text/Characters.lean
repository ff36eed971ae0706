import ExamPress.Proofs.Text.Numbers
import ExamPress.Text.Percent
import Mathlib.Data.List.TakeWhile
import Mathlib.Tactic.Common

/-! # Characters of bytes

Bytes that are read as UTF-8 never stand for a surrogate (`isSurrogate_of_decodeFirst`): the bounds
of the second byte keep its numbers out. Percent signs and digits in ASCII stand for bytes. -/

namespace ExamPress

/-! ### UTF-8 -/

theorem CodePoint.isSurrogate_ofNat {n : Nat} (h : n < 0xd800 ∨ 0xe000 ≤ n) :
    (ofNat n).isSurrogate = false := by
  have other : ¬ (firstSurrogate ≤ n ∧ n < firstSurrogate + 2048) := by
    simp only [firstSurrogate]
    omega
  rw [ofNat, dif_neg other]
  rfl

namespace Text.Utf8

theorem forall_of_takeWhile {α : Type} {p : α → Bool} {l : List α}
    (h : ¬ (l.takeWhile p).length < l.length) : ∀ a ∈ l, p a = true :=
  List.takeWhile_eq_self_iff.mp ((List.takeWhile_prefix p).eq_of_length
    (Nat.le_antisymm (List.takeWhile_prefix p).length_le (Nat.not_lt.mp h)))

theorem bounds_of_isContinuation {b : Nat} (h : isContinuation b = true) :
    0x80 ≤ b ∧ b < 0xc0 := by
  simpa [isContinuation] using h

/-- The bounds of a second byte, where they are not those of any byte that continues. -/
theorem bounds_second {first b : Nat}
    (h : ((secondBounds first).1 ≤ b && b ≤ (secondBounds first).2) = true) :
    (0x80 ≤ b ∧ b < 0xc0) ∧ (first = 0xed → b < 0xa0) ∧ (first = 0xf0 → 0x90 ≤ b) := by
  obtain ⟨least, greatest⟩ := (Bool.and_eq_true _ _).mp h
  replace least := of_decide_eq_true least
  replace greatest := of_decide_eq_true greatest
  unfold secondBounds at least greatest
  split_ifs at least greatest <;> dsimp only at least greatest <;> omega

/-- **A code point that is read from bytes** is no surrogate. -/
theorem isSurrogate_of_decodeFirst {first : Nat} {rest : List Nat} {c : CodePoint} {size : Nat}
    (h : decodeFirst first rest = .ok (c, size)) : c.isSurrogate = false := by
  unfold decodeFirst at h
  split at h
  · cases h
  rename_i size' announces
  dsimp only at h
  split at h
  · cases h
  rename_i fits
  split at h
  · cases h
  rename_i full
  obtain ⟨rfl, rfl⟩ := Prod.mk.inj (Except.ok.inj h)
  refine CodePoint.isSurrogate_ofNat ?_
  replace fits := forall_of_takeWhile (by rwa [List.length_zipIdx])
  rw [List.length_take] at full
  unfold announced at announces
  split_ifs at announces with one two three four <;> cases announces <;> clear h
  · -- one byte
    simp [payload, if_pos one]
    omega
  · -- two bytes
    rcases rest with _ | ⟨b, rest⟩
    · simp at full
    have second := bounds_second (fits (b, 0) (by simp))
    simp [payload, if_neg one, if_pos two.2]
    omega
  · -- three bytes: the second one keeps the number below or above the surrogates
    rcases rest with _ | ⟨b, _ | ⟨c, rest⟩⟩
    · simp at full
    · simp at full
    have second := bounds_second (fits (b, 0) (by simp))
    have third := bounds_of_isContinuation (fits (c, 1) (by simp))
    have above : ¬ first < 0xe0 := by omega
    simp [payload, if_neg one, if_neg above, if_pos three.2]
    omega
  · -- four bytes: the second one keeps the number above them
    rcases rest with _ | ⟨b, _ | ⟨c, _ | ⟨d, rest⟩⟩⟩
    · simp at full
    · simp at full
    · simp at full
    have second := bounds_second (fits (b, 0) (by simp))
    have third := bounds_of_isContinuation (fits (c, 1) (by simp))
    have fourth := bounds_of_isContinuation (fits (d, 2) (by simp))
    have above : ¬ first < 0xe0 ∧ ¬ first < 0xf0 := by omega
    simp [payload, if_neg one, if_neg above.1, if_neg above.2]
    omega

end Text.Utf8

/-! ### Percent signs -/

namespace Text.Percent

theorem lt_of_hexValue {c : CodePoint} {n : Nat} (h : hexValue? c = some n) : n < 16 := by
  unfold hexValue? at h
  simp only [CodePoint.isBetween, Bool.and_eq_true, decide_eq_true_eq] at h
  split_ifs at h with one two three
  · have : '9'.toNat = 57 := rfl
    cases h
    omega
  · have : 'f'.toNat = 102 := rfl
    cases h
    omega
  · have : 'F'.toNat = 70 := rfl
    cases h
    omega

/-- Percent signs in ASCII stand for bytes. -/
theorem lt_of_mem_decodeBytes {s : Text} (h : ∀ c ∈ s, c.toNat < 0x80) :
    ∀ b ∈ decodeBytes s, b < 256 := by
  have plain {c : CodePoint} (hc : c.toNat < 0x80) : ∀ b ∈ Utf8.encodeChar c, b < 256 := by
    rw [Utf8.encodeChar, if_pos hc]
    intro b hb
    rw [List.mem_singleton.mp hb]
    omega
  fun_induction decodeBytes s with
  | case1 => exact List.forall_mem_nil _
  | case2 c => exact plain (h c (by simp))
  | case3 c d =>
    exact List.forall_mem_append.mpr ⟨plain (h c (by simp)), plain (h d (by simp))⟩
  | case4 high low rest m n hm hn ih =>
    have := lt_of_hexValue hm
    have := lt_of_hexValue hn
    exact List.forall_mem_cons.mpr ⟨by omega, ih fun c hc => h c (by simp [hc])⟩
  | case5 high low rest c _ ih =>
    exact List.forall_mem_append.mpr
      ⟨plain (h c (List.mem_cons_self ..)), ih fun d hd => h d (List.mem_cons_of_mem _ hd)⟩

end Text.Percent

end ExamPress
