import ExamPress.Text.Base64

/-! # Bytes in base 64

The text of bytes tells the bytes, whatever their number (`decode_encode`). -/

namespace ExamPress.Text.Base64

theorem value_digit : ∀ n < 64, value? (digit n) = some n ∧ digit n ≠ '=' := by
  decide

section

variable {w x y z : Nat}

theorem decode_group (hw : w < 64) (hx : x < 64) (hy : y < 64) (hz : z < 64) (rest : Text) :
    decode (digit w :: digit x :: digit y :: digit z :: rest) =
      (decode rest).map fun bytes =>
        (w * 4 + x / 16) :: (x % 16 * 16 + y / 4) :: (y % 4 * 64 + z) :: bytes := by
  obtain ⟨value, full⟩ := value_digit z hz
  rw [decode.eq_4 _ _ _ _ _ (fun _ e _ => full e) fun e _ => full e, (value_digit w hw).1,
    (value_digit x hx).1, (value_digit y hy).1, value]
  cases decode rest <;> rfl

theorem decode_group_three (hw : w < 64) (hx : x < 64) (hy : y < 64) :
    decode [digit w, digit x, digit y, '='] = some [w * 4 + x / 16, x % 16 * 16 + y / 4] := by
  obtain ⟨value, full⟩ := value_digit y hy
  rw [decode.eq_3 _ _ _ full, (value_digit w hw).1, (value_digit x hx).1, value]
  rfl

theorem decode_group_two (hw : w < 64) (hx : x < 64) :
    decode [digit w, digit x, '=', '='] = some [w * 4 + x / 16] := by
  rw [decode, (value_digit w hw).1, (value_digit x hx).1]
  rfl

end

/-- **Bytes in base 64** are read back. -/
theorem decode_encode {bytes : List Nat} (h : ∀ b ∈ bytes, b < 256) :
    decode (encode bytes) = some bytes := by
  fun_induction encode bytes with
  | case1 => rfl
  | case2 a =>
    have ha := h a (by simp)
    rw [decode_group_two (by omega) (by omega)]
    have first : a / 4 * 4 + a % 4 * 16 / 16 = a := by omega
    rw [first]
  | case3 a b =>
    have ha := h a (by simp)
    have hb := h b (by simp)
    rw [decode_group_three (by omega) (by omega) (by omega)]
    have first : a / 4 * 4 + (a % 4 * 16 + b / 16) / 16 = a := by omega
    have second : (a % 4 * 16 + b / 16) % 16 * 16 + b % 16 * 4 / 4 = b := by omega
    rw [first, second]
  | case4 a b c rest ih =>
    have ha := h a (by simp)
    have hb := h b (by simp)
    have hc := h c (by simp)
    rw [decode_group (by omega) (by omega) (by omega) (by omega),
      ih fun d hd => h d (by simp [hd])]
    have first : a / 4 * 4 + (a % 4 * 16 + b / 16) / 16 = a := by omega
    have second : (a % 4 * 16 + b / 16) % 16 * 16 + (b % 16 * 4 + c / 64) / 4 = b := by omega
    have third : (b % 16 * 4 + c / 64) % 4 * 64 + c % 64 = c := by omega
    rw [Option.map_some, first, second, third]

end ExamPress.Text.Base64
