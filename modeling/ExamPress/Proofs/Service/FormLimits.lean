import ExamPress.Proofs.Service.FormTexts

/-! # The size of a form

A form in parts is read only if it has not too many files, not too many texts, and no text of too
many bytes; a form beyond these limits is a fault. Files come in parts only. So any form with a file
in it is within the limits (`isWithinLimits_of_ofBody`). -/

namespace ExamPress

/-! ### Texts of bytes -/

theorem Text.Utf8.length_decodeFrom_le {bytes : List Nat} {position skipped : Nat} {s : Text}
    (h : decodeFrom false position skipped bytes = .ok s) : s.length ≤ bytes.length := by
  induction bytes generalizing position skipped s with
  | nil =>
    cases h
    exact Nat.le_refl _
  | cons b rest ih =>
    cases skipped with
    | succ skipped => exact Nat.le_succ_of_le (ih h)
    | zero =>
      simp only [decodeFrom, Bool.false_eq_true, if_false] at h
      split at h
      · rename_i loose
        cases loose
      · cases h
      · obtain ⟨s, hs, rfl⟩ := map_eq_ok.mp h
        exact Nat.succ_le_succ (ih hs)

namespace Form

open Multipart (fileCount)

/-- Whether a form has not too many files, not too many texts, and no text that is too long. -/
structure IsWithinLimits (form : Form) : Prop where
  files : fileCount form ≤ maxFiles
  texts : form.length - fileCount form ≤ maxTexts
  sizes : ∀ name s, (name, .text s) ∈ form → s.length ≤ maxTextBytes

theorem fileCount_le_length (form : Form) : fileCount form ≤ form.length := List.countP_le_length

namespace Multipart

theorem length_decode_le (coding : Text) (bytes : List Nat) :
    (decode coding bytes).length ≤ bytes.length := by
  unfold decode
  dsimp only
  split
  · cases h : Text.Utf8.decode bytes with
    | error stretch => exact Nat.le_of_eq (List.length_map _)
    | ok s => exact Text.Utf8.length_decodeFrom_le h
  · exact Nat.le_of_eq (List.length_map _)

theorem fileCount_append (form form' : Form) :
    fileCount (form ++ form') = fileCount form + fileCount form' := List.countP_append

/-- Whether there is room in a form for the value of a part. -/
structure Part.HasRoom (part : Part) (form : Form) : Prop where
  file : part.fileName.isSome → fileCount form < maxFiles
  text : part.fileName = none → form.length - fileCount form < maxTexts

/-- A value that is not too long and finds room keeps a form within its limits. -/
theorem Part.isWithinLimits_entry {part : Part} {form : Form} (h : form.IsWithinLimits)
    (room : part.HasRoom form) {bytes : List Nat} (size : part.checkSize bytes = .ok ())
    (coding : Text) : IsWithinLimits (form ++ [part.entry coding bytes]) := by
  have least := fileCount_le_length form
  unfold Part.entry
  cases hn : part.fileName with
  | some name =>
    have one : fileCount [(part.name, .file ⟨name, part.mediaType, bytes⟩)] = 1 := rfl
    have few := room.file (hn ▸ rfl)
    have texts := h.texts
    refine ⟨?_, ?_, fun name s mem => ?_⟩
    · rw [fileCount_append, one]
      exact few
    · rw [fileCount_append, one, List.length_append, List.length_singleton]
      omega
    · rcases List.mem_append.mp mem with mem | mem
      · exact h.sizes name s mem
      · cases List.mem_singleton.mp mem
  | none =>
    have one : fileCount [(part.name, .text (decode coding bytes))] = 0 := rfl
    have few := room.text hn
    have files := h.files
    have short : bytes.length ≤ maxTextBytes := by
      unfold Part.checkSize at size
      split at size
      · cases size
      · rename_i fits
        rw [hn] at fits
        exact Nat.le_of_not_lt fun long => fits ⟨rfl, long⟩
    refine ⟨?_, ?_, fun name s mem => ?_⟩
    · rw [fileCount_append, one]
      exact files
    · rw [fileCount_append, one, List.length_append, List.length_singleton]
      omega
    · rcases List.mem_append.mp mem with mem | mem
      · exact h.sizes name s mem
      · cases List.mem_singleton.mp mem
        exact Nat.le_trans (length_decode_le coding bytes) short

/-! ### Reading -/

namespace Reading

/-- Whether what is read so far is within the limits, and there is room for the part that is being
read. -/
structure IsWithinLimits (r : Reading) : Prop where
  entries : Form.IsWithinLimits r.entries
  room : ∀ part, r.expected = .value part → part.HasRoom r.entries

/-- **What another byte does** to the entries: nothing, unless it ends the lines in front of a part
or the value of a part. -/
theorem step_cases {boundary : List Nat} {coding : Text} {r r' : Reading} {b : Nat}
    (hr : r.step boundary coding b = .ok r') :
    (r'.entries = r.entries ∧ ∀ part, r'.expected = .value part →
      ∃ before, r.expected = .value before ∧ part.fileName = before.fileName) ∨
    r.openPart coding = .ok r' ∨
    ∃ part bytes expected, r.expected = .value part ∧ (∀ next, expected ≠ .value next) ∧
      r.close coding part bytes expected = .ok r' := by
  unfold step at hr
  cases he : r.expected <;> rw [he] at hr <;> dsimp only at hr
  case linesEnd =>
    split_ifs at hr
    exact Or.inr (Or.inl hr)
  case value part =>
    unfold extend at hr
    dsimp only at hr
    split at hr
    · exact Or.inr (Or.inr ⟨part, _, .name [], rfl, fun _ => nofun, hr⟩)
    · exact Or.inr (Or.inr ⟨part, _, .nothing, rfl, fun _ => nofun, hr⟩)
    · cases hr
      refine Or.inl ⟨rfl, fun next same => ⟨part, rfl, ?_⟩⟩
      cases same
      rfl
  case boundary rest =>
    cases rest <;> dsimp only at hr <;> split_ifs at hr <;> cases hr <;> exact Or.inl ⟨rfl, nofun⟩
  case nothing =>
    cases hr
    exact Or.inl ⟨rfl, fun part same => nomatch he.symm.trans same⟩
  all_goals
    split_ifs at hr <;> cases hr <;> exact Or.inl ⟨rfl, nofun⟩

theorem isWithinLimits_openPart {coding : Text} {r r' : Reading} (h : r.IsWithinLimits)
    (hr : r.openPart coding = .ok r') : r'.IsWithinLimits := by
  obtain ⟨part, -, rest⟩ := bind_eq_ok.mp hr
  dsimp only at rest
  split at rest
  · cases rest
  · rename_i files
    split at rest
    · cases rest
    · rename_i texts
      obtain rfl := pure_eq_ok.mp rest
      refine ⟨h.entries, fun part' same => ?_⟩
      cases same
      exact ⟨fun file => Nat.lt_of_not_le fun full => files ⟨file, full⟩,
        fun text => Nat.lt_of_not_le fun full => texts ⟨text ▸ rfl, full⟩⟩

/-- **Another byte** keeps what is read within the limits. -/
theorem isWithinLimits_step {boundary : List Nat} {coding : Text} {r r' : Reading} {b : Nat}
    (h : r.IsWithinLimits) (hr : r.step boundary coding b = .ok r') : r'.IsWithinLimits := by
  rcases step_cases hr with ⟨same, goesOn⟩ | opened | ⟨part, bytes, expected, value, other, closed⟩
  · refine ⟨same ▸ h.entries, fun part expects => ?_⟩
    obtain ⟨before, there, name⟩ := goesOn part expects
    have room := h.room before there
    rw [same]
    exact ⟨fun file => room.file (name ▸ file), fun text => room.text (name ▸ text)⟩
  · exact isWithinLimits_openPart h opened
  · obtain ⟨_, size, rest⟩ := bind_eq_ok.mp closed
    obtain rfl := pure_eq_ok.mp rest
    exact ⟨Part.isWithinLimits_entry h.entries (h.room part value) size coding,
      fun next expects => (other next expects).elim⟩

end Reading

/-- **A form in parts** is read only within its limits. -/
theorem isWithinLimits_read {boundary coding : Text} {bytes : List Nat} {form : Form}
    (h : read boundary coding bytes = .ok form) : form.IsWithinLimits := by
  have start : Reading.IsWithinLimits {} :=
    ⟨⟨Nat.zero_le _, Nat.zero_le _, fun _ _ mem => nomatch mem⟩, fun _ same => nomatch same⟩
  obtain ⟨r, within, rfl⟩ := exists_reading start
    (fun _ _ _ _ within step => Reading.isWithinLimits_step within step) h
  exact within.entries

end Multipart

/-- **A form with a file** is within the limits. -/
theorem isWithinLimits_of_ofBody {mediaType : Text} {bytes : List Nat} {form : Form}
    (h : ofBody mediaType bytes = .ok form) {name : Text} {file : File}
    (mem : (name, .file file) ∈ form) : form.IsWithinLimits := by
  unfold ofBody at h
  split at h
  · cases h
  · split_ifs at h
    · split at h
      · cases h
      · exact Multipart.isWithinLimits_read h
    · cases h
      obtain ⟨_, -, other⟩ := List.mem_map.mp mem
      cases other
    · cases h
      cases mem

end Form

end ExamPress
