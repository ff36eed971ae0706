import ExamPress.Proofs.Document.Source
import ExamPress.Proofs.Service.TwoSteps
import ExamPress.Proofs.Text.Characters
import Mathlib.Data.List.Infix
import Mathlib.Data.List.SplitBy

/-! # The texts of a form

What a form holds comes from the bytes of a body: the bytes of its files are bytes of the body, and
its texts and the names of its files have a UTF-8 form, whatever the body is (`isProper_of_ofBody`).
No bytes are read as a surrogate, and a byte that is a character by itself is none. -/

namespace ExamPress

open Service (HasUtf8Form)

/-! ### Texts of bytes -/

theorem hasUtf8Form_bytes {bytes : List Nat} (h : ∀ b ∈ bytes, b < 256) :
    HasUtf8Form (bytes.map CodePoint.ofNat) := fun c hc => by
  obtain ⟨b, hb, rfl⟩ := List.mem_map.mp hc
  have := h b hb
  exact CodePoint.isSurrogate_ofNat (by omega)

namespace Text

namespace Utf8

theorem hasUtf8Form_decodeFrom {bytes : List Nat} {position skipped : Nat} {s : Text}
    (h : decodeFrom false position skipped bytes = .ok s) : HasUtf8Form s := by
  induction bytes generalizing position skipped s with
  | nil =>
    cases h
    exact nofun
  | cons b rest ih =>
    cases skipped with
    | succ skipped => exact ih h
    | zero =>
      simp only [decodeFrom, Bool.false_eq_true, if_false] at h
      split at h
      · rename_i loose
        cases loose
      · cases h
      · rename_i c size hc
        obtain ⟨s, hs, rfl⟩ := map_eq_ok.mp h
        exact .cons (isSurrogate_of_decodeFirst hc) (ih hs)

theorem hasUtf8Form_replaceFrom (bytes : List Nat) (skipped : Nat) :
    HasUtf8Form (replaceFrom skipped bytes) := by
  induction bytes generalizing skipped with
  | nil => exact nofun
  | cons b rest ih =>
    cases skipped with
    | succ skipped => exact ih skipped
    | zero =>
      simp only [replaceFrom]
      split
      · exact .cons rfl (ih _)
      · rename_i c size hc
        exact .cons (isSurrogate_of_decodeFirst hc) (ih _)

end Utf8

/-- A text with its stretches of ASCII replaced by others has a UTF-8 form if these do. -/
theorem Percent.hasUtf8Form_stretches {s : Text} (hs : HasUtf8Form s) {f : Text → Text}
    (h : ∀ stretch : Text, (∀ c ∈ stretch, c.toNat < 0x80) → HasUtf8Form (f stretch))
    (p : CodePoint → CodePoint → Bool) :
    HasUtf8Form ((s.splitBy p).flatMap fun stretch =>
      if stretch.all Repertoire.ascii.contains then f stretch else stretch) := by
  intro c hc
  obtain ⟨stretch, hstretch, hc⟩ := List.mem_flatMap.mp hc
  split at hc
  · rename_i ascii
    refine h stretch (fun d hd => ?_) c hc
    simpa [Repertoire.contains] using List.all_eq_true.mp ascii d hd
  · have flat := List.flatten_splitBy p s
    exact hs c (flat ▸ List.mem_flatten.mpr ⟨stretch, hstretch, hc⟩)

end Text

/-! ### Parameters of headers -/

namespace Form.Header

theorem mem_of_mem_splitPieces {afterBackslash quoted : Bool} {s : Text} :
    ∀ piece ∈ splitPieces afterBackslash quoted s, ∀ c ∈ piece, c ∈ s := by
  fun_induction splitPieces afterBackslash quoted s with
  | case1 => simp
  | case2 afterBackslash quoted c rest _ ih =>
    refine List.forall_mem_cons.mpr ⟨nofun, fun piece hp d hd => ?_⟩
    exact List.mem_cons_of_mem _ (ih piece hp d hd)
  | case3 afterBackslash quoted c rest _ quoted' piece pieces hp ih =>
    simp only [hp, List.forall_mem_cons] at ih ⊢
    obtain ⟨first, others⟩ := ih
    exact ⟨⟨List.mem_cons_self .., fun d hd => List.mem_cons_of_mem _ (first d hd)⟩,
      fun piece hp d hd => List.mem_cons_of_mem _ (others piece hp d hd)⟩
  | case4 => simp

theorem mem_of_mem_strip {s : Text} {c : CodePoint} (h : c ∈ Text.strip s) : c ∈ s := by
  have h := (List.dropWhile_sublist _).subset (List.mem_reverse.mp h)
  exact (List.dropWhile_sublist _).subset (List.mem_reverse.mp h)

theorem mem_of_mem_splitPiece {piece : Text} {c : CodePoint} (h : c ∈ (splitPiece piece).2) :
    c ∈ piece := by
  unfold splitPiece at h
  dsimp only at h
  split at h
  · rename_i d rest hd
    exact List.mem_of_mem_drop (hd ▸ List.mem_cons_of_mem d (mem_of_mem_strip h))
  · cases h

theorem mem_of_mem_dropFirstOf {first second : CodePoint} {s : Text} :
    ∀ c ∈ dropFirstOf first second s, c ∈ s := by
  fun_induction dropFirstOf first second s with
  | case1 => simp
  | case2 => simp
  | case3 => simp_all
  | case4 => simp_all

theorem mem_of_mem_unquote {s : Text} {c : CodePoint} (h : c ∈ unquote s) : c ∈ s := by
  have inside {c : CodePoint} (hc : c ∈ s.tail.dropLast) : c ∈ s :=
    List.mem_of_mem_tail (List.mem_of_mem_dropLast hc)
  unfold unquote at h
  dsimp only at h
  split_ifs at h
  · exact h
  · exact inside (mem_of_mem_dropFirstOf c (mem_of_mem_dropFirstOf c h))
  · exact inside h
  · exact h

theorem mem_of_mem_dropCoding {s : Text} {c : CodePoint} (h : c ∈ dropCoding s) : c ∈ s := by
  unfold dropCoding at h
  dsimp only at h
  split at h
  · exact h
  · exact (List.dropWhile_sublist _).subset (List.mem_of_mem_drop
      ((List.dropWhile_sublist _).subset (List.mem_of_mem_drop h)))

theorem hasUtf8Form_resolve {s : Text} (h : HasUtf8Form s) : HasUtf8Form (resolve s) :=
  Text.Percent.hasUtf8Form_stretches h (fun _ ascii =>
    hasUtf8Form_bytes (Text.Percent.lt_of_mem_decodeBytes ascii)) _

theorem hasUtf8Form_joinPieces {pieces : List Piece} (h : ∀ p ∈ pieces, HasUtf8Form p.content)
    {content : Text} (hc : joinPieces pieces = some content) : HasUtf8Form content := by
  have joined : HasUtf8Form ((pieces.mergeSort Piece.isLess).flatMap fun p =>
      if p.encoded then resolve p.content else p.content) := fun c hc => by
    obtain ⟨p, hp, hc⟩ := List.mem_flatMap.mp hc
    have form := h p (List.mem_mergeSort.mp hp)
    split at hc
    · exact hasUtf8Form_resolve form c hc
    · exact form c hc
  unfold joinPieces at hc
  dsimp only at hc
  split at hc
  · cases hc
  · cases hc
    split
    · exact fun c hc => joined c (mem_of_mem_dropCoding hc)
    · exact joined

theorem content_of_piece {name content word : Text} {p : Piece}
    (h : piece? name content = some (word, p)) : p.content = content := by
  unfold piece? at h
  dsimp only at h
  split at h
  · cases h
    rfl
  · split at h <;> cases h <;> rfl
  · cases h

theorem exists_of_mem_mapM {α β : Type} {f : α → Option β} {l : List α} {results : List β}
    (h : l.mapM f = some results) : ∀ b ∈ results, ∃ a ∈ l, f a = some b := by
  induction l generalizing results with
  | nil =>
    cases h
    exact nofun
  | cons a l ih =>
    rw [List.mapM_cons] at h
    obtain ⟨b, hb, h⟩ := Option.bind_eq_some_iff.mp h
    obtain ⟨others, ho, h⟩ := Option.bind_eq_some_iff.mp h
    obtain rfl := Option.some.inj h
    refine List.forall_mem_cons.mpr ⟨⟨a, List.mem_cons_self .., hb⟩, fun b hb => ?_⟩
    obtain ⟨a', ha, hf⟩ := ih ho b hb
    exact ⟨a', List.mem_cons_of_mem _ ha, hf⟩

theorem hasUtf8Form_gather {parameters all : List (Text × Text)}
    (h : ∀ entry ∈ parameters, HasUtf8Form entry.2) (hg : gather parameters = some all) :
    ∀ entry ∈ all, HasUtf8Form entry.2 := by
  obtain ⟨joined, hj, rest⟩ := Option.bind_eq_some_iff.mp hg
  obtain rfl := Option.some.inj rest
  refine List.forall_mem_append.mpr ⟨fun entry he => h entry (List.mem_filter.mp he).1,
    fun entry he => ?_⟩
  obtain ⟨name, -, hname⟩ := exists_of_mem_mapM hj entry he
  obtain ⟨content, hc, rest⟩ := Option.bind_eq_some_iff.mp hname
  obtain rfl := Option.some.inj rest
  refine hasUtf8Form_joinPieces (fun p hp => ?_) hc
  obtain ⟨⟨word, p'⟩, found, rfl⟩ := List.mem_map.mp hp
  obtain ⟨parameter, hmem, hpiece⟩ := List.mem_filterMap.mp (List.mem_filter.mp found).1
  rw [content_of_piece hpiece]
  exact h parameter hmem

theorem hasUtf8Form_dropDirectories {name : Text} (h : HasUtf8Form name) :
    HasUtf8Form (dropDirectories name) := by
  unfold dropDirectories
  split
  · cases hl : (Text.splitOn '\\' name).getLast? with
    | none => exact nofun
    | some piece =>
      have pieces : ∀ piece ∈ Text.splitOn '\\' name, HasUtf8Form piece :=
        (forall_mem_splitOn (p := fun c => c.isSurrogate = false) rfl name).mpr h
      exact pieces piece (List.mem_of_getLast? hl)
  · exact h

/-- **What the parameters of a header say** has a UTF-8 form if the header has one. -/
theorem hasUtf8Form_of_ofText {s : Text} {header : Header} (h : HasUtf8Form s)
    (hh : ofText? s = some header) {name : String} {content : Text}
    (hc : header.parameter? name = some content) : HasUtf8Form content := by
  have entries : ∀ entry ∈ header.parameters, HasUtf8Form entry.2 := by
    unfold ofText? at hh
    split at hh
    · cases hh
      exact nofun
    · split at hh
      · cases hh
        exact nofun
      · rename_i value first parameters hparts
        obtain ⟨all, hg, rfl⟩ := Option.map_eq_some_iff.mp hh
        have parts : ∀ entry ∈ parameters, HasUtf8Form entry.2 := fun entry he c hc => by
          have mem : entry ∈ (splitPieces false false s).map splitPiece :=
            hparts ▸ List.mem_cons_of_mem _ he
          obtain ⟨piece, hp, rfl⟩ := List.mem_map.mp mem
          exact h c (mem_of_mem_splitPieces piece hp c (mem_of_mem_splitPiece hc))
        have gathered := hasUtf8Form_gather (fun entry he => by
          obtain ⟨part, hp, rfl⟩ := List.mem_map.mp he
          exact fun c hc => parts part hp c (mem_of_mem_unquote hc)) hg
        intro entry he
        obtain ⟨part, hp, rfl⟩ := List.mem_map.mp he
        dsimp only
        split
        · exact hasUtf8Form_dropDirectories (gathered part hp)
        · exact gathered part hp
  have mem := List.mem_of_getLast? hc
  obtain ⟨entry, hentry, rfl⟩ := List.mem_map.mp mem
  exact entries entry (List.mem_filter.mp hentry).1

end Form.Header

/-! ### Values from bytes -/

namespace Form

/-- Whether a value can come from the bytes of a body: a text and the name of a file have a UTF-8
form, and a file has bytes. -/
def Value.IsProper : Value → Prop
  | .text s => HasUtf8Form s
  | .file f => HasUtf8Form f.name ∧ ∀ b ∈ f.bytes, b < 256

/-- Whether all values of a form can come from the bytes of a body. -/
def IsProper (form : Form) : Prop := ∀ entry ∈ form, entry.2.IsProper

/-! ### Forms in one line -/

namespace UrlEncoded

theorem hasUtf8Form_decode {s : Text} (h : HasUtf8Form s) : HasUtf8Form (decode s) := by
  refine Text.Percent.hasUtf8Form_stretches (fun c hc => ?_)
    (fun stretch _ => Text.Utf8.hasUtf8Form_replaceFrom _ 0) _
  obtain ⟨d, hd, rfl⟩ := List.mem_map.mp hc
  split
  · rfl
  · exact h d hd

theorem mem_of_mem_splitPiece {s : Text} {c : CodePoint} (h : c ∈ (splitPiece s).1) : c ∈ s := by
  unfold splitPiece at h
  dsimp only at h
  split at h <;> exact (List.takeWhile_prefix _).subset h

theorem mem_of_splitPiece {s rest : Text} (h : (splitPiece s).2 = some rest) {c : CodePoint}
    (hc : c ∈ rest) : c ∈ s := by
  unfold splitPiece at h
  dsimp only at h
  split at h
  · rename_i d tail ht
    cases h
    exact List.mem_of_mem_drop (ht ▸ List.mem_cons_of_mem d hc)
  · cases h

theorem hasUtf8Form_readPieces {s : Text} (h : HasUtf8Form s) :
    ∀ entry ∈ readPieces s, HasUtf8Form entry.2 := by
  have front {s : Text} (h : HasUtf8Form s) : HasUtf8Form
      (s.dropWhile fun (c : CodePoint) => c == '&' || c == ';') := fun c hc =>
    h c ((List.dropWhile_sublist _).subset hc)
  have said {s : Text} (h : HasUtf8Form s) (n : Nat) :
      HasUtf8Form (decode ((splitPiece s).1.drop n)) :=
    hasUtf8Form_decode fun c hc => h c (mem_of_mem_splitPiece (List.mem_of_mem_drop hc))
  fun_induction readPieces s with
  | case1 s s' piece name content rest hrest _ ih =>
    exact List.forall_mem_cons.mpr ⟨said (front h) _,
      ih fun c hc => front h c (mem_of_splitPiece hrest hc)⟩
  | case2 s s' piece name content _ _ => exact List.forall_mem_singleton.mpr (said (front h) _)
  | case3 => exact nofun

theorem isProper_read {bytes : List Nat} (h : ∀ b ∈ bytes, b < 256) : (read bytes).IsProper := by
  intro entry he
  obtain ⟨⟨name, content⟩, hp, rfl⟩ := List.mem_map.mp he
  exact hasUtf8Form_readPieces (hasUtf8Form_bytes h) (name, content) hp

end UrlEncoded

/-! ### Forms in parts -/

namespace Multipart

theorem hasUtf8Form_decode {bytes : List Nat} (h : ∀ b ∈ bytes, b < 256) (coding : Text) :
    HasUtf8Form (decode coding bytes) := by
  unfold decode
  dsimp only
  split
  · cases hd : Text.Utf8.decode bytes with
    | error stretch => exact hasUtf8Form_bytes h
    | ok s => exact Text.Utf8.hasUtf8Form_decodeFrom hd
  · exact hasUtf8Form_bytes h

/-- A text of the lines in front of a value has a UTF-8 form, and so has what its bytes say in
another coding. -/
theorem hasUtf8Form_recode {s : Text} (h : HasUtf8Form s) (coding : Text) :
    HasUtf8Form (decode coding (s.map CodePoint.toNat)) := by
  have single : (s.map CodePoint.toNat).map CodePoint.ofNat = s := by
    rw [List.map_map]
    exact (List.map_congr_left fun c _ => CodePoint.ofNat_toNat c).trans (List.map_id s)
  unfold decode
  dsimp only
  rw [single]
  split
  · cases hd : Text.Utf8.decode (s.map CodePoint.toNat) with
    | error stretch => exact h
    | ok s => exact Text.Utf8.hasUtf8Form_decodeFrom hd
  · exact h

/-- Whether the name of the file of a part has a UTF-8 form, and its value consists of bytes. -/
structure Part.IsProper (part : Part) : Prop where
  fileName : ∀ name, part.fileName = some name → HasUtf8Form name
  reversed : ∀ b ∈ part.reversed, b < 256

/-- Whether what is read of the next piece can come from bytes. -/
def Expected.IsProper : Expected → Prop
  | .content _ reversed => ∀ b ∈ reversed, b < 256
  | .contentEnd _ s => HasUtf8Form s
  | .value part => part.IsProper
  | _ => True

/-- Whether what is read so far can come from bytes. -/
structure Reading.IsProper (r : Reading) : Prop where
  entries : Form.IsProper r.entries
  lines : ∀ line ∈ r.lines, HasUtf8Form line.2
  expected : r.expected.IsProper

theorem Part.isProper_of_ofLines {coding : Text} {lines : List Line} {part : Part}
    (h : ∀ line ∈ lines, HasUtf8Form line.2) (hp : Part.ofLines coding lines = .ok part) :
    part.IsProper := by
  have all {name : String} {line : Text}
      (hl : line ∈ (lines.filter fun line => line.1 = name.toText).map Prod.snd) :
      HasUtf8Form line := by
    obtain ⟨entry, he, rfl⟩ := List.mem_map.mp hl
    exact h entry (List.mem_filter.mp he).1
  unfold Part.ofLines at hp
  dsimp only at hp
  split at hp
  · rename_i header hh
    split at hp
    · obtain rfl := pure_eq_ok.mp hp
      refine ⟨fun name hn => ?_, nofun⟩
      obtain ⟨s, hs, rfl⟩ := Option.map_eq_some_iff.mp hn
      refine hasUtf8Form_recode (Header.hasUtf8Form_of_ofText ?_ hh hs) coding
      cases hl : ((lines.filter fun line =>
          line.1 = "content-disposition".toText).map Prod.snd).getLast? with
      | none => exact nofun
      | some line => exact all (List.mem_of_getLast? hl)
    · cases hp
  · cases hp

theorem Part.isProper_entry {part : Part} (h : part.IsProper) (coding : Text) {bytes : List Nat}
    (hb : ∀ b ∈ bytes, b < 256) : (part.entry coding bytes).2.IsProper := by
  unfold Part.entry
  cases hn : part.fileName with
  | none => exact hasUtf8Form_decode hb coding
  | some name => exact ⟨h.fileName name hn, hb⟩

theorem mem_of_closed {boundary : List Nat} {ending : Text} {reversed bytes : List Nat}
    (h : closed? boundary ending reversed = some bytes) : ∀ b ∈ bytes, b ∈ reversed := by
  unfold closed? at h
  dsimp only at h
  split at h
  · cases h
    exact fun b hb => List.mem_of_mem_drop (List.mem_reverse.mp hb)
  · cases h

namespace Reading

theorem IsProper.next {r : Reading} (h : r.IsProper) {expected : Expected}
    (he : expected.IsProper) : IsProper { r with expected } := ⟨h.entries, h.lines, he⟩

theorem isProper_openPart {coding : Text} {r r' : Reading} (h : r.IsProper)
    (hr : r.openPart coding = .ok r') : r'.IsProper := by
  unfold openPart at hr
  obtain ⟨part, hp, rest⟩ := bind_eq_ok.mp hr
  dsimp only at rest
  split at rest
  · cases rest
  · split at rest
    · cases rest
    · obtain rfl := pure_eq_ok.mp rest
      exact ⟨h.entries, nofun, Part.isProper_of_ofLines h.lines hp⟩

theorem isProper_close {coding : Text} {r r' : Reading} (h : r.IsProper) {part : Part}
    (hp : part.IsProper) {bytes : List Nat} (hb : ∀ b ∈ bytes, b < 256) {expected : Expected}
    (he : expected.IsProper) (hr : r.close coding part bytes expected = .ok r') : r'.IsProper := by
  obtain ⟨_, -, rest⟩ := bind_eq_ok.mp hr
  obtain rfl := pure_eq_ok.mp rest
  exact ⟨List.forall_mem_append.mpr ⟨h.entries,
    List.forall_mem_singleton.mpr (Part.isProper_entry hp coding hb)⟩, h.lines, he⟩

theorem isProper_extend {boundary : List Nat} {coding : Text} {r r' : Reading} (h : r.IsProper)
    {part : Part} (hp : part.IsProper) {b : Nat} (hb : b < 256)
    (hr : r.extend boundary coding part b = .ok r') : r'.IsProper := by
  have reversed : ∀ c ∈ b :: part.reversed, c < 256 :=
    List.forall_mem_cons.mpr ⟨hb, hp.reversed⟩
  unfold extend at hr
  dsimp only at hr
  split at hr
  · rename_i bytes _ hc
    exact isProper_close h hp (fun c hm => reversed c (mem_of_closed hc c hm))
      (by trivial) hr
  · rename_i bytes _ hc
    exact isProper_close h hp (fun c hm => reversed c (mem_of_closed hc c hm))
      (by trivial) hr
  · cases hr
    exact h.next ⟨hp.fileName, reversed⟩

/-- **Another byte** keeps what is read such as can come from bytes. -/
theorem isProper_step {boundary : List Nat} {coding : Text} {r r' : Reading} (h : r.IsProper)
    {b : Nat} (hb : b < 256) (hr : r.step boundary coding b = .ok r') : r'.IsProper := by
  have expected := h.expected
  unfold step at hr
  cases he : r.expected <;> rw [he] at hr expected <;> dsimp only at hr
  case blanks =>
    split_ifs at hr <;> cases hr
    · exact h.next trivial
    · exact h.next nofun
    · exact h.next (List.forall_mem_singleton.mpr hb)
  case content name reversed =>
    split_ifs at hr <;> cases hr
    · exact h.next (hasUtf8Form_bytes fun c hc => expected c (List.mem_reverse.mp hc))
    · exact h.next (List.forall_mem_cons.mpr ⟨hb, expected⟩)
  case contentEnd name content =>
    split_ifs at hr
    cases hr
    exact ⟨h.entries, List.forall_mem_append.mpr
      ⟨h.lines, List.forall_mem_singleton.mpr expected⟩, trivial⟩
  case linesEnd =>
    split_ifs at hr
    exact isProper_openPart h hr
  case value => exact isProper_extend h expected hb hr
  case nothing =>
    cases hr
    exact h
  case boundary rest =>
    cases rest <;> dsimp only at hr <;> split_ifs at hr <;> cases hr <;> exact h.next trivial
  -- between the lines and in their names nothing is kept
  all_goals
    split_ifs at hr <;> cases hr <;> exact h.next trivial

/-- What holds of a reading and is kept by each of some bytes holds behind them. -/
theorem foldlM_induction {P : Reading → Prop} {boundary : List Nat} {coding : Text}
    {bytes : List Nat} {r r' : Reading} (start : P r)
    (keeps : ∀ r r' b, b ∈ bytes → P r → step boundary coding r b = .ok r' → P r')
    (hr : bytes.foldlM (step boundary coding) r = .ok r') : P r' := by
  induction bytes generalizing r with
  | nil =>
    obtain rfl := pure_eq_ok.mp hr
    exact start
  | cons b bytes ih =>
    rw [List.foldlM_cons] at hr
    obtain ⟨next, hn, rest⟩ := bind_eq_ok.mp hr
    have first := keeps r next b List.mem_cons_self start hn
    exact ih first (fun r r' b hb => keeps r r' b (List.mem_cons_of_mem _ hb)) rest

end Reading

/-- **A form in parts** is what is read at the end, where all holds that holds at the start and is
kept by each byte. -/
theorem exists_reading {P : Reading → Prop} {boundary coding : Text} {bytes : List Nat}
    {form : Form} (start : P {})
    (keeps : ∀ r r' b, b ∈ bytes → P r →
      r.step (boundary.map CodePoint.toNat) coding b = .ok r' → P r')
    (h : read boundary coding bytes = .ok form) : ∃ r, P r ∧ r.entries = form := by
  obtain ⟨r, hr, rest⟩ := bind_eq_ok.mp h
  refine ⟨r, Reading.foldlM_induction start keeps hr, ?_⟩
  split at rest
  · obtain ⟨_, -, rest⟩ := bind_eq_ok.mp rest
    exact pure_eq_ok.mp rest
  · exact pure_eq_ok.mp rest

theorem isProper_read {boundary coding : Text} {bytes : List Nat} {form : Form}
    (hb : ∀ b ∈ bytes, b < 256) (h : read boundary coding bytes = .ok form) : form.IsProper := by
  have start : Reading.IsProper {} := ⟨nofun, nofun, trivial⟩
  obtain ⟨r, proper, rfl⟩ := exists_reading start
    (fun _ _ b hm proper step => Reading.isProper_step proper (hb b hm) step) h
  exact proper.entries

end Multipart

/-- **A form in the bytes of a body** has texts with a UTF-8 form, and files of bytes. -/
theorem isProper_of_ofBody {mediaType : Text} {bytes : List Nat} {form : Form}
    (hb : ∀ b ∈ bytes, b < 256) (h : ofBody mediaType bytes = .ok form) : form.IsProper := by
  unfold ofBody at h
  split at h
  · cases h
  · split_ifs at h
    · split at h
      · cases h
      · exact Multipart.isProper_read hb h
    · cases h
      exact UrlEncoded.isProper_read hb
    · cases h
      exact nofun

end Form

end ExamPress
