import ExamPress.Proofs.Json.Numbers
import Mathlib.Data.List.Nodup

/-! # Written JSON is read back

The values that can be read are the ones with doubles of the format, integers that do not have too
many digits, and objects whose names are different (`readable_iff`). Each of them is read back from
the text that is written of it (`read_write`): names keep their order, and integers and doubles stay
apart. -/

namespace ExamPress.Json

/-! ### Values that can be read -/

/-- A value as it can be read: its doubles are of the format, its integers do not have too many
digits, and the names of each of its objects are different. -/
inductive WellFormed : Json → Prop
  | null : WellFormed null
  | bool (b : Bool) : WellFormed (bool b)
  | int {i : Int} (few : (Text.ofNat i.natAbs).length ≤ Whole.maxDigits) : WellFormed (int i)
  | float {d : Double} (canonical : d.IsCanonical) : WellFormed (float d)
  | str (s : Text) : WellFormed (str s)
  | arr {items : List Json} (values : ∀ v ∈ items, WellFormed v) : WellFormed (arr items)
  | obj {fields : List (Text × Json)} (names : (fields.map Prod.fst).Nodup)
      (values : ∀ entry ∈ fields, WellFormed entry.2) : WellFormed (obj fields)

/-! Objects -/

theorem nodup_insertField {name : Text} {v : Json} {fields : List (Text × Json)}
    (h : (fields.map Prod.fst).Nodup) : ((insertField name v fields).map Prod.fst).Nodup := by
  rw [map_fst_insertField]
  split_ifs with there
  · exact h
  · exact List.nodup_append.mpr ⟨h, List.nodup_singleton name, fun a ha b hb same =>
      there (List.mem_singleton.mp hb ▸ same ▸ ha)⟩

theorem mem_insertField {name : Text} {v : Json} {fields : List (Text × Json)}
    {entry : Text × Json} (h : entry ∈ insertField name v fields) :
    entry.2 = v ∨ entry ∈ fields := by
  induction fields with
  | nil =>
    rw [List.mem_singleton.mp h]
    exact Or.inl rfl
  | cons first fields ih =>
    unfold insertField at h
    split_ifs at h
    · rcases List.mem_cons.mp h with rfl | h
      · exact Or.inl rfl
      · exact Or.inr (List.mem_cons_of_mem _ h)
    · rcases List.mem_cons.mp h with rfl | h
      · exact Or.inr List.mem_cons_self
      · exact (ih h).imp_right (List.mem_cons_of_mem _)

theorem wellFormed_addEntries {fields entries : List (Text × Json)}
    (names : (fields.map Prod.fst).Nodup) (old : ∀ entry ∈ fields, WellFormed entry.2)
    (new : ∀ entry ∈ entries, WellFormed entry.2) :
    WellFormed (.obj (addEntries fields entries)) := by
  induction entries generalizing fields with
  | nil => exact .obj names old
  | cons entry entries ih =>
    obtain ⟨first, rest⟩ := List.forall_mem_cons.mp new
    refine ih (nodup_insertField names) (fun e he => ?_) rest
    rcases mem_insertField he with same | there
    · rw [same]
      exact first
    · exact old e there

theorem addEntries_eq {fields entries : List (Text × Json)}
    (names : ((fields ++ entries).map Prod.fst).Nodup) :
    addEntries fields entries = fields ++ entries := by
  induction entries generalizing fields with
  | nil => exact (List.append_nil fields).symm
  | cons entry entries ih =>
    obtain ⟨name, v⟩ := entry
    have last (fields : List (Text × Json)) (new : name ∉ fields.map Prod.fst) :
        insertField name v fields = fields ++ [(name, v)] := by
      induction fields with
      | nil => rfl
      | cons first fields ih =>
        obtain ⟨other, rest⟩ := not_or.mp (mt List.mem_cons.mpr new)
        rw [insertField, if_neg (Ne.symm other), ih rest, List.cons_append]
    have new : name ∉ fields.map Prod.fst := by
      rw [List.map_append, List.nodup_append] at names
      exact fun there => names.2.2 _ there _ List.mem_cons_self rfl
    have step : addEntries fields ((name, v) :: entries) =
        addEntries (fields ++ [(name, v)]) entries := by
      rw [← last fields new]
      rfl
    rw [step, ih (by rwa [List.append_assoc, List.singleton_append]), List.append_assoc,
      List.singleton_append]

/-! Numbers -/

theorem wellFormed_of_readMagnitude {negative : Bool} {s r : Text} {v : Json}
    (h : readMagnitude negative s = .ok (some (v, r))) : WellFormed v := by
  dsimp only [readMagnitude] at h
  split_ifs at h with empty integer long negative
  · cases h
  all_goals
    obtain ⟨rfl, -⟩ := Prod.mk.inj (Option.some.inj (Except.ok.inj h))
    have some : wholePart s ≠ [] := fun none => empty (List.isEmpty_iff.mpr none)
    have digits := Text.length_ofNat_toNat some
  · refine .int ?_
    rw [Int.natAbs_neg, Int.natAbs_natCast]
    omega
  · refine .int ?_
    rw [Int.natAbs_natCast]
    omega
  · exact .float (Decimal.isCanonical_nearest _ _ _)

theorem wellFormed_words : ∀ word ∈ words, WellFormed word.2 := by
  simp only [words, List.forall_mem_cons]
  exact ⟨.null, .bool _, .bool _, .float trivial, .float trivial, .float trivial,
    List.forall_mem_nil _⟩

theorem wellFormed_of_readScalar {s r : Text} {v : Json} (h : readScalar s = .ok (v, r)) :
    WellFormed v := by
  rcases readScalar_eq_ok h with ⟨word, hw, -, rfl⟩ | ⟨t, -, number⟩ | number
  · exact wellFormed_words word hw
  · exact wellFormed_of_readMagnitude number
  · exact wellFormed_of_readMagnitude number

/-- What stands at a place of a text is well formed. -/
def Part.WellFormed : Part → Prop
  | value v => v.WellFormed
  | items values => ∀ v ∈ values, Json.WellFormed v
  | entries fields => ∀ entry ∈ fields, Json.WellFormed entry.2

/-- **What is read is well formed**, along the rules. -/
theorem Reads.wellFormed {s r : Text} {part : Part} (h : Reads s part r) : part.WellFormed := by
  induction h with
  | string _ => exact .str _
  | simple _ h => exact wellFormed_of_readScalar h
  | emptyArray _ => exact .arr nofun
  | array _ ih => exact .arr ih
  | emptyObject _ => exact .obj .nil nofun
  | object _ ih => exact wellFormed_addEntries .nil nofun ih
  | lastItem _ _ ih => exact List.forall_mem_singleton.mpr ih
  | item _ _ _ ih rest => exact List.forall_mem_cons.mpr ⟨ih, rest⟩
  | lastEntry _ _ _ ih => exact List.forall_mem_singleton.mpr ih
  | entry _ _ _ _ ih rest => exact List.forall_mem_cons.mpr ⟨ih, rest⟩

theorem wellFormed_of_read {s : Text} {v : Json} (h : read s = .ok v) : WellFormed v := by
  obtain ⟨r, value, -⟩ := read_eq_ok_iff.mp h
  exact value.wellFormed

/-! ### Strings -/

theorem hex4_control {n : Nat} (hn : n < 0x20) : Text.Wide.isHigh n = false ∧
    ∃ a b c d, Text.Quoted.hex 4 n = [a, b, c, d] ∧ hex4 a b c d = some n := by
  have digits : ∀ n < 0x20, Text.Wide.isHigh n = false ∧
      ∃ c ∈ "01".toText, ∃ d ∈ "0123456789abcdef".toText,
        Text.Quoted.hex 4 n = [.char '0', .char '0', c, d] ∧ hex4 '0' '0' c d = some n := by
    decide
  obtain ⟨high, c, -, d, -, text, number⟩ := digits n hn
  exact ⟨high, _, _, c, d, text, number⟩

/-- A character is written behind a backslash, by its number if it is another control character, or
as itself. -/
theorem escape_cases (c : CodePoint) :
    (∃ d, escape c = [.char '\\', d] ∧ escaped? d = some c) ∨
      (c.toNat < 0x20 ∧
        escape c = .char '\\' :: .char 'u' :: Text.Quoted.hex 4 c.toNat) ∨
      (c ≠ '"' ∧ c ≠ '\\' ∧ 0x20 ≤ c.toNat ∧ escape c = [c]) := by
  unfold escape
  split_ifs with mark backslash newline return' tab backspace feed control
  iterate 7
    · subst_vars
      exact Or.inl ⟨_, rfl, rfl⟩
  · exact Or.inr (Or.inl ⟨control, rfl⟩)
  · exact Or.inr (Or.inr ⟨mark, backslash, Nat.not_lt.mp control, rfl⟩)

/-- **A character** that is written is read as itself, if the string goes on. -/
theorem exists_readString_escape {t : Text} (goes : t ≠ []) (seen : Nat) (acc : Text)
    (c : CodePoint) :
    ∃ seen', readString seen acc 0 (escape c ++ t) = readString seen' (c :: acc) 0 t := by
  rcases escape_cases c with ⟨d, text, known⟩ | ⟨control, text⟩ | ⟨mark, backslash, least, text⟩
  · rw [text]
    exact ⟨_, readString_escape known⟩
  · obtain ⟨high, a, b, d, e, hex, number⟩ := hex4_control control
    obtain ⟨f, t, rfl⟩ := List.exists_cons_of_ne_nil goes
    have unicode : readUnicode (a :: b :: d :: e :: f :: t) = .ok (c, 4) := by
      simp [readUnicode, number, high, CodePoint.ofNat_toNat]
    rw [text, hex]
    exact ⟨_, (readString_unicode unicode).trans (readString_skip _ _ [a, b, d, e] (f :: t))⟩
  · rw [text]
    exact ⟨_, readString_plain mark backslash least⟩

/-- **A string** that is written is read back up to its closing quotation mark. -/
theorem readString_flatMap_escape (seen : Nat) (acc s r : Text) :
    readString seen acc 0 (s.flatMap escape ++ .char '"' :: r) = .ok (acc.reverse ++ s, r) := by
  induction s generalizing seen acc with
  | nil => rw [List.flatMap_nil, List.nil_append, readString_close, List.append_nil]
  | cons c s ih =>
    obtain ⟨seen', step⟩ := exists_readString_escape
      (List.append_ne_nil_of_right_ne_nil (s.flatMap escape) (List.cons_ne_nil (.char '"') r))
      seen acc c
    rw [List.flatMap_cons, List.append_assoc, step, ih, List.reverse_cons, List.append_assoc,
      List.singleton_append]

theorem readString_writeText (s r : Text) :
    ∃ t : Text, writeText s ++ r = .char '"' :: t ∧ readString 1 [] 0 t = .ok (s, r) := by
  refine ⟨s.flatMap escape ++ .char '"' :: r, ?_, readString_flatMap_escape 1 [] s r⟩
  rw [writeText, List.cons_append, List.append_assoc]
  rfl

/-! ### Blanks -/

theorem not_isSpace_of_isScalarChar {c : CodePoint} (h : IsScalarChar c) : isSpace c = false := by
  have := h.bounds.1
  by_contra space
  simp only [isSpace, Bool.not_eq_false, Bool.or_eq_true, beq_iff_eq] at space
  rcases space with ((rfl | rfl) | rfl) | rfl <;> revert this <;> decide

theorem skipSpace_cons {c : CodePoint} {s : Text} (h : isSpace c = false) :
    skipSpace (c :: s) = c :: s :=
  List.dropWhile_cons_of_neg (by simp [h])

theorem exists_head_of_readScalar {s r : Text} {v : Json} (h : readScalar s = .ok (v, r)) :
    ∃ c t, s = c :: t ∧ IsScalarChar c := by
  obtain ⟨a, rfl, some, chars, -⟩ := exists_scalar h
  obtain ⟨c, a, rfl⟩ := List.exists_cons_of_ne_nil some
  exact ⟨c, a ++ r, rfl, chars c List.mem_cons_self⟩

theorem beginsSimple_of_readScalar {s r : Text} {v : Json} (h : readScalar s = .ok (v, r)) :
    BeginsSimple s := by
  obtain ⟨c, t, rfl, scalar⟩ := exists_head_of_readScalar h
  rintro _ ⟨⟩
  refine ⟨?_, ?_, ?_⟩ <;> rintro rfl <;> revert scalar <;> decide

theorem Reads.skipSpace {s r : Text} {part : Part} (h : Reads s part r) : skipSpace s = s := by
  induction h with
  | simple _ h =>
    obtain ⟨c, t, rfl, scalar⟩ := exists_head_of_readScalar h
    exact skipSpace_cons (not_isSpace_of_isScalarChar scalar)
  | lastItem _ _ ih => exact ih
  | item _ _ _ ih _ => exact ih
  | lastEntry named _ _ _ =>
    obtain ⟨string, colon⟩ := named
    exact skipSpace_cons rfl
  | entry named _ _ _ _ _ =>
    obtain ⟨string, colon⟩ := named
    exact skipSpace_cons rfl
  | _ => exact skipSpace_cons rfl

/-! ### Written values -/

theorem noNumber_cons {c : CodePoint} {s : Text}
    (h : c.isDigit = false ∧ c ≠ '.' ∧ c ≠ 'e' ∧ c ≠ 'E') : NoNumber (c :: s) := by
  rintro _ ⟨⟩
  exact h

/-- A text stands for a value, whatever stands behind it, if only that does not go on with a
number. -/
def Means (s : Text) (v : Json) : Prop := ∀ r, NoNumber r → Reads (s ++ r) (.value v) r

theorem means_of_readScalar {s : Text} {v : Json}
    (h : ∀ r, NoNumber r → readScalar (s ++ r) = .ok (v, r)) : Means s v :=
  fun r hr => .simple (beginsSimple_of_readScalar (h r hr)) (h r hr)

theorem means_word (word : String × Json) (h : word ∈ words) : Means word.1.toText word.2 :=
  means_of_readScalar fun r _ => readScalar_word r word h

/-- The texts of values, one after the other, are read as the items of an array. -/
theorem reads_joinWith_items {texts : List Text} {values : List Json}
    (h : List.Forall₂ Means texts values) (some : values ≠ []) (r : Text) :
    Reads (Text.joinWith ", ".toText texts ++ .char ']' :: r) (.items values) r := by
  induction h with
  | nil => exact (some rfl).elim
  | cons first rest ih =>
    cases rest with
    | nil => exact .lastItem (first _ (noNumber_cons (by decide))) rfl
    | cons second rest =>
      have later := ih (List.cons_ne_nil _ _)
      rw [Text.joinWith, List.append_assoc, List.append_assoc]
      refine .item (first _ (noNumber_cons (by decide))) rfl ?_
      exact later.skipSpace.symm ▸ later

/-- The text of a field: its name and the text of its value. -/
def MeansField (s : Text) (field : Text × Json) : Prop :=
  ∃ t, s = writeText field.1 ++ ": ".toText ++ t ∧ Means t field.2

/-- The texts of fields, one after the other, are read as the entries of an object. -/
theorem reads_joinWith_entries {texts : List Text} {fields : List (Text × Json)}
    (h : List.Forall₂ MeansField texts fields) (some : fields ≠ []) (r : Text) :
    Reads (Text.joinWith ", ".toText texts ++ .char '}' :: r) (.entries fields) r := by
  have named (name t r : Text) (v : Json) (value : Reads t (.value v) r) :
      Named (writeText name ++ (": ".toText ++ t)) name t := by
    obtain ⟨u, front, string⟩ := readString_writeText name (": ".toText ++ t)
    rw [front]
    have named : Named (.char '"' :: u) name (skipSpace (.char ' ' :: t)) := .intro string rfl
    have blank : skipSpace (.char ' ' :: t) = skipSpace t := rfl
    rwa [blank, value.skipSpace] at named
  induction h with
  | nil => exact (some rfl).elim
  | cons first rest ih =>
    obtain ⟨t, rfl, means⟩ := first
    cases rest with
    | nil =>
      have value := means (.char '}' :: r) (noNumber_cons (by decide))
      rw [Text.joinWith, List.append_assoc, List.append_assoc]
      exact .lastEntry (named _ _ _ _ value) value rfl
    | cons second rest =>
      have later := ih (List.cons_ne_nil _ _)
      rw [Text.joinWith, List.append_assoc, List.append_assoc, List.append_assoc,
        List.append_assoc]
      have value (rest : Text) := means (", ".toText ++ rest) (noNumber_cons (by decide))
      refine .entry (named _ _ _ _ (value _)) (value _) rfl ?_
      exact later.skipSpace.symm ▸ later

theorem forall₂_writeItems {items : List Json} (h : ∀ v ∈ items, Means v.write v) :
    List.Forall₂ Means (writeItems ", ".toText ": ".toText items) items := by
  induction items with
  | nil => exact .nil
  | cons v items ih =>
    obtain ⟨first, rest⟩ := List.forall_mem_cons.mp h
    exact .cons first (ih rest)

theorem forall₂_writeFields {fields : List (Text × Json)}
    (h : ∀ field ∈ fields, Means field.2.write field.2) :
    List.Forall₂ MeansField (writeFields ", ".toText ": ".toText fields) fields := by
  induction fields with
  | nil => exact .nil
  | cons field fields ih =>
    obtain ⟨first, rest⟩ := List.forall_mem_cons.mp h
    exact .cons ⟨_, rfl, first⟩ (ih rest)

/-- **What is written of a value** stands for the value. -/
theorem WellFormed.means {v : Json} (h : v.WellFormed) : Means v.write v := by
  induction h with
  | null => exact means_word ("null", .null) (by simp [words])
  | bool b =>
    cases b with
    | false => exact means_word ("false", .bool false) (by simp [words])
    | true => exact means_word ("true", .bool true) (by simp [words])
  | int few => exact means_of_readScalar fun r => readScalar_ofInt few
  | float canonical => exact means_of_readScalar fun r => readScalar_writeDouble canonical
  | str s =>
    intro r _
    obtain ⟨t, front, string⟩ := readString_writeText s r
    exact front ▸ .string string
  | @arr items _ ih =>
    intro r _
    cases items with
    | nil => exact .emptyArray rfl
    | cons v items =>
      have reads := reads_joinWith_items (forall₂_writeItems ih) (List.cons_ne_nil _ _) r
      rw [write, writeWith, List.cons_append, List.append_assoc]
      exact .array (reads.skipSpace.symm ▸ reads)
  | @obj fields names _ ih =>
    intro r _
    cases fields with
    | nil => exact .emptyObject rfl
    | cons field fields =>
      have reads := reads_joinWith_entries (forall₂_writeFields ih) (List.cons_ne_nil _ _) r
      have object := Reads.object (reads.skipSpace.symm ▸ reads)
      rw [addEntries_eq names, List.nil_append] at object
      rw [write, writeWith, List.cons_append, List.append_assoc]
      exact object

/-- **A value that can be read** is read back from what is written of it. -/
theorem read_write {v : Json} (h : v.WellFormed) : read v.write = .ok v := by
  have value := h.means [] nofun
  rw [List.append_nil] at value
  exact read_eq_ok_iff.mpr ⟨[], value.skipSpace.symm ▸ value, rfl⟩

/-- The values that can be read are the well formed ones. -/
theorem readable_iff {v : Json} : (∃ s, read s = .ok v) ↔ v.WellFormed :=
  ⟨fun ⟨_, h⟩ => wellFormed_of_read h, fun h => ⟨_, read_write h⟩⟩

end ExamPress.Json
