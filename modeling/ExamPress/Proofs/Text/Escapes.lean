import ExamPress.Proofs.Text.Characters

/-! # Texts read back from their bytes

The bytes of a text without surrogates tell the text (`Utf8.decode_encode`), and so do they when
they are escaped by percent signs (`Percent.decode_encode`): an escape is made of characters that
stand for themselves and of percent signs with two digits. -/

namespace ExamPress.Text

/-! ### UTF-8 -/

namespace Utf8

/-- A first byte and bytes that continue it as it announces make a code point. -/
theorem decodeFirst_append {c : CodePoint} {first : Nat} {follow : List Nat}
    (announces : announced first = some (follow.length + 1))
    (second : ∀ b ∈ follow.head?, (secondBounds first).1 ≤ b ∧ b ≤ (secondBounds first).2)
    (others : ∀ b ∈ follow.tail, 0x80 ≤ b ∧ b < 0xc0)
    (number : follow.foldl (fun n b => n * 0x40 + (b - 0x80)) (payload first) = c.toNat)
    (rest : List Nat) : decodeFirst first (follow ++ rest) = .ok (c, follow.length + 1) := by
  have all : (follow.zipIdx.takeWhile fun entry =>
      if entry.2 = 0 then (secondBounds first).1 ≤ entry.1 && entry.1 ≤ (secondBounds first).2
      else isContinuation entry.1) = follow.zipIdx := by
    refine List.takeWhile_eq_self_iff.mpr fun entry he => ?_
    rcases follow with _ | ⟨b, follow⟩
    · cases he
    rw [List.zipIdx_cons, List.mem_cons] at he
    rcases he with rfl | he
    · simpa using second b rfl
    · have position := List.le_snd_of_mem_zipIdx he
      have continues := others entry.1 (List.fst_mem_of_mem_zipIdx he)
      rw [if_neg (by omega)]
      simpa [isContinuation] using continues
  simp only [decodeFirst, announces, Nat.add_sub_cancel, List.take_left, all, List.length_zipIdx,
    Nat.lt_irrefl, if_false, number, CodePoint.ofNat_toNat]

/-- **The bytes of a character** are read as the character. -/
theorem decodeFirst_encodeChar {c : CodePoint} (h : c.isSurrogate = false) :
    ∃ first follow, encodeChar c = first :: follow ∧
      ∀ rest, decodeFirst first (follow ++ rest) = .ok (c, follow.length + 1) := by
  have bounds : c.toNat < 0xd800 ∨ 0xdfff < c.toNat ∧ c.toNat < 0x110000 := by
    cases c with
    | char c => exact c.valid
    | surrogate _ => cases h
  unfold encodeChar
  dsimp only
  -- the number of bytes is the one that the first byte announces
  split_ifs with one two three
  · refine ⟨_, _, rfl, decodeFirst_append ?_ (by simp) (by simp) ?_⟩
    · simp [announced, one]
    · simp [payload, one]
  · refine ⟨_, _, rfl, decodeFirst_append ?_ ?_ (by simp) ?_⟩
    · simp only [announced, List.length_singleton]
      rw [if_neg (by omega), if_pos (by omega)]
    · simp only [secondBounds, List.head?_cons, Option.mem_some_iff, forall_eq']
      split_ifs <;> dsimp only <;> omega
    · simp only [payload, List.foldl_cons, List.foldl_nil]
      split_ifs <;> omega
  · refine ⟨_, _, rfl, decodeFirst_append ?_ ?_ ?_ ?_⟩
    · simp only [announced, List.length_cons, List.length_nil]
      rw [if_neg (by omega), if_neg (by omega), if_pos (by omega)]
    · simp only [secondBounds, List.head?_cons, Option.mem_some_iff, forall_eq']
      split_ifs <;> dsimp only <;> omega
    · simp only [List.tail_cons, List.forall_mem_singleton]
      omega
    · simp only [payload, List.foldl_cons, List.foldl_nil]
      split_ifs <;> omega
  · refine ⟨_, _, rfl, decodeFirst_append ?_ ?_ ?_ ?_⟩
    · simp only [announced, List.length_cons, List.length_nil]
      rw [if_neg (by omega), if_neg (by omega), if_neg (by omega), if_pos (by omega)]
    · simp only [secondBounds, List.head?_cons, Option.mem_some_iff, forall_eq']
      split_ifs <;> dsimp only <;> omega
    · simp only [List.tail_cons, List.forall_mem_cons]
      exact ⟨by omega, by omega, List.forall_mem_nil _⟩
    · simp only [payload, List.foldl_cons, List.foldl_nil]
      split_ifs <;> omega

theorem lt_of_mem_encode (s : Text) : ∀ b ∈ encode s, b < 256 := by
  intro b hb
  obtain ⟨c, -, hb⟩ := List.mem_flatMap.mp hb
  have bound : c.toNat < 0x110000 := by
    cases c with
    | char c =>
      have : c.toNat < 0xd800 ∨ 0xdfff < c.toNat ∧ c.toNat < 0x110000 := c.valid
      simp only [CodePoint.toNat]
      omega
    | surrogate index =>
      simp only [CodePoint.toNat, CodePoint.firstSurrogate]
      omega
  unfold encodeChar at hb
  dsimp only at hb
  split_ifs at hb
  all_goals
    simp only [List.mem_cons, List.not_mem_nil, or_false] at hb
    omega

theorem decodeFrom_skip (position : Nat) (follow rest : List Nat) :
    decodeFrom false position follow.length (follow ++ rest) =
      decodeFrom false (position + follow.length) 0 rest := by
  induction follow generalizing position with
  | nil => rfl
  | cons b follow ih =>
    rw [List.length_cons, List.cons_append, decodeFrom, ih, Nat.add_right_comm, Nat.add_assoc]

/-- **A text without surrogates** is read back from its bytes. -/
theorem decode_encode {s : Text} (h : ∀ c ∈ s, c.isSurrogate = false) :
    decode (encode s) = .ok s := by
  have anywhere (position : Nat) : decodeFrom false position 0 (encode s) = .ok s := by
    induction s generalizing position with
    | nil => rfl
    | cons c s ih =>
      obtain ⟨hc, hs⟩ := List.forall_mem_cons.mp h
      obtain ⟨first, follow, bytes, read⟩ := decodeFirst_encodeChar hc
      have front : encode (c :: s) = first :: (follow ++ encode s) := by
        rw [encode, List.flatMap_cons, bytes]
        rfl
      simp only [front, decodeFrom, Bool.false_eq_true, if_false, read, Nat.add_sub_cancel,
        decodeFrom_skip, ih hs, Except.map]
  exact anywhere 0

end Utf8

/-! ### Percent signs -/

namespace Percent

/-- Whether a text is made of characters that stand for themselves and of percent signs with two
digits. -/
inductive IsEscaped (safe : CodePoint → Bool) : Text → Prop
  | nil : IsEscaped safe []
  | plain {c : CodePoint} {s : Text} (stays : safe c = true) (rest : IsEscaped safe s) :
      IsEscaped safe (c :: s)
  | byte {high low : CodePoint} {m n : Nat} {s : Text} (hhigh : hexValue? high = some m)
      (hlow : hexValue? low = some n) (rest : IsEscaped safe s) :
      IsEscaped safe ('%' :: high :: low :: s)

theorem hexValue_hexDigit : ∀ n < 16, hexValue? (hexDigit n) = some n := by
  decide

theorem exists_encodeByte {b : Nat} (h : b < 256) : ∃ high low : CodePoint,
    encodeByte b = [.char '%', high, low] ∧ hexValue? high = some (b / 16) ∧
      hexValue? low = some (b % 16) :=
  ⟨_, _, rfl, hexValue_hexDigit _ (by omega), hexValue_hexDigit _ (by omega)⟩

theorem decodeBytes_byte {high low : CodePoint} {m n : Nat} (hhigh : hexValue? high = some m)
    (hlow : hexValue? low = some n) (rest : Text) :
    decodeBytes ('%' :: high :: low :: rest) = (16 * m + n) :: decodeBytes rest :=
  decodeBytes.eq_4 high low rest m n hhigh hlow

theorem decodeBytes_plain {c : CodePoint} (h : c ≠ '%') (rest : Text) :
    decodeBytes (c :: rest) = Utf8.encodeChar c ++ decodeBytes rest := by
  rcases rest with _ | ⟨d, _ | ⟨e, rest⟩⟩
  · exact (List.append_nil _).symm
  · rfl
  · exact decodeBytes.eq_5 d e rest c fun _ _ percent _ _ => h percent

section

variable {safe : CodePoint → Bool} {s : Text}

/-- The bytes of a text that are escaped. -/
def escapeBytes (safe : CodePoint → Bool) (bytes : List Nat) : Text :=
  bytes.flatMap fun b => if b < 0x80 ∧ safe (.ofNat b) then [.ofNat b] else encodeByte b

theorem isEscaped_escapeBytes {bytes : List Nat} (h : ∀ b ∈ bytes, b < 256) :
    IsEscaped safe (escapeBytes safe bytes) := by
  induction bytes with
  | nil => exact .nil
  | cons b bytes ih =>
    obtain ⟨hb, hbs⟩ := List.forall_mem_cons.mp h
    rw [escapeBytes, List.flatMap_cons]
    split
    · rename_i stays
      exact .plain stays.2 (ih hbs)
    · obtain ⟨high, low, escape, hhigh, hlow⟩ := exists_encodeByte hb
      rw [escape]
      exact .byte hhigh hlow (ih hbs)

theorem decodeBytes_escapeBytes {bytes : List Nat} (h : ∀ b ∈ bytes, b < 256)
    (percent : safe '%' = false) : decodeBytes (escapeBytes safe bytes) = bytes := by
  induction bytes with
  | nil => rfl
  | cons b bytes ih =>
    obtain ⟨hb, hbs⟩ := List.forall_mem_cons.mp h
    rw [escapeBytes, List.flatMap_cons]
    split
    · rename_i stays
      have number : (CodePoint.ofNat b).toNat = b := CodePoint.toNat_ofNat (by omega)
      have other : CodePoint.ofNat b ≠ '%' := by
        intro same
        rw [same, percent] at stays
        cases stays.2
      rw [List.singleton_append, decodeBytes_plain other, Utf8.encodeChar, number,
        if_pos stays.1]
      exact congrArg (b :: ·) (ih hbs)
    · obtain ⟨high, low, escape, hhigh, hlow⟩ := exists_encodeByte hb
      have value : 16 * (b / 16) + b % 16 = b := by omega
      rw [escape]
      refine (decodeBytes_byte hhigh hlow _).trans ?_
      rw [value]
      exact congrArg (b :: ·) (ih hbs)

/-- **A text without surrogates** is read back from its escape, which is made of characters that
stand for themselves and of percent signs with digits. -/
theorem decode_encode (percent : safe '%' = false) (h : ∀ c ∈ s, c.isSurrogate = false) :
    IsEscaped safe (encode safe s) ∧ decode (encode safe s) = .ok s := by
  have bytes := Utf8.lt_of_mem_encode s
  refine ⟨isEscaped_escapeBytes bytes, ?_⟩
  rw [decode, encode, ← escapeBytes, decodeBytes_escapeBytes bytes percent,
    Utf8.decode_encode h]

end

end Percent

end ExamPress.Text
