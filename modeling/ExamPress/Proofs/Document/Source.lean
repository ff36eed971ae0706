import ExamPress.Document.Assembly
import Mathlib.Data.List.TakeWhile
import Mathlib.Tactic.SplitIfs

/-! # The source of a document

A document is written as a text again: a heading behind its mark, any other paragraph as its runs
with dollar signs around the formulas. The document of a text is written as the text, apart from the
carriage returns at the ends of its lines. So two texts give the same document exactly if they
differ in these only (`ofText_eq_iff`). -/

namespace ExamPress

/-- A text without the carriage returns at the ends of its lines. -/
def Text.trimReturns (t : Text) : Text :=
  joinWith ['\n'] ((splitOn '\n' t).map (dropRightWhile (· == '\r')))

/-- The source of a run: a formula stands between dollar signs. -/
def Run.source : Run → Text
  | .text content => content
  | .formula source _ => '$' :: (source ++ "$".toText)

/-- The source of a paragraph. -/
def Paragraph.source (p : Paragraph) : Text :=
  if p.heading then headingMark ++ p.plainText else p.content.flatMap Run.source

/-- The source of a document. -/
def Document.source (d : Document) : Text :=
  Text.joinWith ['\n'] (d.paragraphs.map Paragraph.source)

/-! ### Lines -/

theorem linesOf_ne_nil (t : Text) : linesOf t ≠ [] := by
  unfold linesOf
  rw [Ne, List.map_eq_nil_iff]
  exact Text.splitOn_ne_nil '\n' t

theorem not_mem_of_mem_linesOf {t line : Text} (h : line ∈ linesOf t) :
    (.char '\n' : CodePoint) ∉ line := by
  obtain ⟨piece, hp, rfl⟩ := List.mem_map.mp h
  intro hc
  rw [Text.dropRightWhile, List.mem_reverse] at hc
  have hm := (List.dropWhile_sublist _).subset hc
  exact Text.not_mem_of_mem_splitOn hp (List.mem_reverse.mp hm)

/-- The text without the returns at the ends of its lines still has the same lines. -/
theorem splitOn_trimReturns (t : Text) : Text.splitOn '\n' t.trimReturns = linesOf t :=
  Text.splitOn_joinWith (linesOf_ne_nil t) fun _ => not_mem_of_mem_linesOf

theorem forall_mem_splitOn {p : CodePoint → Prop} {separator : CodePoint} (h : p separator)
    (s : Text) :
    (∀ piece ∈ Text.splitOn separator s, ∀ c ∈ piece, p c) ↔ ∀ c ∈ s, p c := by
  induction s with
  | nil => simp [Text.splitOn]
  | cons c s ih =>
    obtain ⟨piece, pieces, hs⟩ := List.exists_cons_of_ne_nil (Text.splitOn_ne_nil separator s)
    rw [List.forall_mem_cons, ← ih, Text.splitOn, hs]
    dsimp only
    split_ifs with hc
    · simp [hc, h]
    · simp only [List.forall_mem_cons, and_assoc]

theorem forall_mem_dropRightWhile {p : CodePoint → Prop} {q : CodePoint → Bool}
    (h : ∀ c, q c = true → p c) (s : Text) :
    (∀ c ∈ Text.dropRightWhile q s, p c) ↔ ∀ c ∈ s, p c := by
  have hs : Text.dropRightWhile q s ++ (s.reverse.takeWhile q).reverse = s := by
    rw [Text.dropRightWhile, ← List.reverse_append, List.takeWhile_append_dropWhile,
      List.reverse_reverse]
  have dropped : ∀ c ∈ (s.reverse.takeWhile q).reverse, p c := fun c hc =>
    h c (List.mem_takeWhile_imp (List.mem_reverse.mp hc))
  have parts : (∀ c ∈ Text.dropRightWhile q s ++ (s.reverse.takeWhile q).reverse, p c) ↔ _ :=
    List.forall_mem_append
  rw [hs, and_iff_left dropped] at parts
  exact parts.symm

/-- **The lines of a text** have its characters, apart from line ends. -/
theorem forall_mem_linesOf {p : CodePoint → Prop} (hn : p '\n') (hr : p '\r') (t : Text) :
    (∀ line ∈ linesOf t, ∀ c ∈ line, p c) ↔ ∀ c ∈ t, p c := by
  have returns (c : CodePoint) (h : (c == '\r') = true) : p c := by rwa [beq_iff_eq.mp h]
  rw [linesOf, List.forall_mem_map, ← forall_mem_splitOn hn t]
  exact forall₂_congr fun line _ => forall_mem_dropRightWhile returns line

theorem linesOf_append (a b : Text) :
    linesOf (a ++ ('\n' :: b : Text)) = linesOf a ++ linesOf b := by
  rw [linesOf, Text.splitOn_append, List.map_append, linesOf, linesOf]

theorem exists_splitOn_concat {separator c : CodePoint} (h : c ≠ separator) (s : Text) :
    ∃ (pieces : List Text) (last : Text), Text.splitOn separator s = pieces ++ [last] ∧
      Text.splitOn separator (s ++ [c]) = pieces ++ [last ++ [c]] := by
  induction s with
  | nil => exact ⟨[], [], rfl, by simp [Text.splitOn, h]⟩
  | cons d s ih =>
    obtain ⟨pieces, last, hs, hc⟩ := ih
    by_cases hd : d = separator
    · refine ⟨[] :: pieces, last, ?_, ?_⟩
      · cases pieces <;> simp [Text.splitOn, hs, hd]
      · cases pieces <;> simp [Text.splitOn, hc, hd]
    · rcases pieces with _ | ⟨first, pieces⟩
      · exact ⟨[], d :: last, by simp [Text.splitOn, hs, hd], by simp [Text.splitOn, hc, hd]⟩
      · exact ⟨(d :: first) :: pieces, last, by simp [Text.splitOn, hs, hd],
          by simp [Text.splitOn, hc, hd]⟩

theorem linesOf_concat_return (s : Text) : linesOf (s ++ [.char '\r']) = linesOf s := by
  obtain ⟨pieces, last, hs, hr⟩ := @exists_splitOn_concat '\n' '\r' (by decide) s
  have hlast : Text.dropRightWhile (· == '\r') (last ++ [.char '\r']) =
      Text.dropRightWhile (· == '\r') last := by
    simp [Text.dropRightWhile]
  rw [linesOf, hr, linesOf, hs, List.map_append, List.map_append, List.map_singleton,
    List.map_singleton, hlast]

/-! ### Runs -/

theorem source_consText (content : Text) (runs : List Run) :
    (Run.consText content runs).flatMap Run.source = content ++ runs.flatMap Run.source := by
  unfold Run.consText
  split_ifs with h
  · rw [List.isEmpty_iff.mp h, List.nil_append]
  · rfl

theorem append_dollar_eq {s body : Text} (hb : body = s.takeWhile fun (c : CodePoint) => c != '$')
    (hd : s.drop body.length ≠ []) : body ++ ('$' :: s.drop (body.length + 1) : Text) = s := by
  have hs : body ++ s.dropWhile (fun (c : CodePoint) => c != '$') = s := by
    rw [hb, List.takeWhile_append_dropWhile]
  have hdrop : s.drop body.length = s.dropWhile fun (c : CodePoint) => c != '$' := by
    have hl : (body ++ s.dropWhile fun (c : CodePoint) => c != '$').drop body.length =
        s.dropWhile fun (c : CodePoint) => c != '$' := List.drop_left
    rwa [hs] at hl
  obtain ⟨c, rest, hc⟩ := List.exists_cons_of_ne_nil hd
  have hdollar := List.head?_dropWhile_not (fun (c : CodePoint) => c != '$') s
  rw [← hdrop, hc] at hdollar
  obtain rfl : c = '$' := by simpa using hdollar
  rw [← List.drop_drop, hc, List.drop_one, List.tail_cons, ← hc, hdrop, hs]

/-- **The runs of a line** are written as the line. -/
theorem source_splitFrom (acc line : Text) :
    (splitFrom acc line).flatMap Run.source = acc.reverse ++ line := by
  fun_induction splitFrom acc line with
  | case1 acc => rw [source_consText, List.flatMap_nil]
  | case2 acc c rest hc ih => rw [ih, List.reverse_cons, List.append_assoc, List.singleton_append]
  | case3 acc c rest hc body hb ih =>
    rw [ih, List.reverse_cons, List.append_assoc, List.singleton_append]
  | case4 acc c rest hc body hb ih =>
    have hclosed : rest.drop body.length ≠ [] := fun h => hb (Or.inr (List.isEmpty_iff.mpr h))
    have hrest : body ++ ('$' :: rest.drop (body.length + 1) : Text) = rest :=
      append_dollar_eq rfl hclosed
    obtain rfl : c = '$' := not_not.mp hc
    rw [source_consText, List.flatMap_cons, ih, Run.ofSource, Run.source]
    simpa [String.toText] using hrest

/-! ### Paragraphs -/

/-- **The paragraph of a line** is written as the line. -/
theorem source_ofLine (line : Text) : (Paragraph.ofLine line).source = line := by
  unfold Paragraph.ofLine
  split_ifs with h
  · obtain ⟨rest, rfl⟩ := List.isPrefixOf_iff_prefix.mp h
    rw [List.drop_left]
    simp [Paragraph.ofHeading, Paragraph.source, Paragraph.plainText]
  · exact source_splitFrom [] line

/-! ### Documents -/

theorem source_ofText (t : Text) : (Document.ofText t).source = t.trimReturns := by
  have hlines : (linesOf t).map (Paragraph.source ∘ Paragraph.ofLine) = linesOf t :=
    (List.map_congr_left fun line _ => source_ofLine line).trans (List.map_id _)
  rw [Document.source, Document.ofText, List.map_map, hlines]
  rfl

/-- A line may end with CR LF as well as with LF. -/
theorem ofText_return (a b : Text) :
    Document.ofText (a ++ ('\r' :: '\n' :: b : Text)) =
      Document.ofText (a ++ ('\n' :: b : Text)) := by
  have hlines : linesOf (a ++ ('\r' :: '\n' :: b : Text)) = linesOf (a ++ ('\n' :: b : Text)) := by
    have hs : a ++ ('\r' :: '\n' :: b : Text) = a ++ [.char '\r'] ++ ('\n' :: b : Text) := by simp
    rw [hs, linesOf_append, linesOf_concat_return, linesOf_append]
  rw [Document.ofText, hlines, Document.ofText]

/-- A text in which every carriage return stands in front of a line feed. -/
def Text.ReturnsEndLines (t : Text) : Prop :=
  ∀ i < t.length, t[i]? = some (.char '\r') → t[i + 1]? = some (.char '\n')

instance (t : Text) : Decidable t.ReturnsEndLines :=
  inferInstanceAs (Decidable (∀ i < t.length, _ → _))

theorem Text.ReturnsEndLines.tail {c : CodePoint} {t : Text}
    (h : ReturnsEndLines (c :: t : Text)) : ReturnsEndLines t :=
  fun i hi => h (i + 1) (Nat.succ_lt_succ hi)

theorem ofText_universalNewlines {t : Text} (h : t.ReturnsEndLines) (a : Text) :
    Document.ofText (a ++ Text.universalNewlines t) = Document.ofText (a ++ t) := by
  fun_induction Text.universalNewlines t generalizing a with
  | case1 => rfl
  | case2 rest ih =>
    have rest_eq := ih h.tail.tail (a ++ [.char '\n'])
    rw [List.append_assoc, List.append_assoc] at rest_eq
    exact rest_eq.trans (ofText_return a rest).symm
  | case3 c rest other ih =>
    have plain : ¬ c = '\r' := by
      rintro rfl
      have next : rest[0]? = some (.char '\n') := h 0 (Nat.succ_pos _) rfl
      rcases rest with _ | ⟨d, rest⟩
      · cases next
      · obtain rfl := Option.some.inj next
        exact other rest rfl rfl
    have rest_eq := ih h.tail (a ++ [c])
    rw [List.append_assoc, List.append_assoc] at rest_eq
    rwa [if_neg plain]

/-- **Nothing but the returns at the ends of lines is lost**: two texts give the same document
exactly if they are the same without them, and such a text is read off the document. -/
theorem ofText_eq_iff (t₁ t₂ : Text) :
    (Document.ofText t₁ = Document.ofText t₂ ↔ t₁.trimReturns = t₂.trimReturns) ∧
      (Document.ofText t₁).source = t₁.trimReturns := by
  refine ⟨⟨fun h => ?_, fun h => ?_⟩, source_ofText t₁⟩
  · rw [← source_ofText, h, source_ofText]
  · have hlines : linesOf t₁ = linesOf t₂ := by
      rw [← splitOn_trimReturns, h, splitOn_trimReturns]
    rw [Document.ofText, hlines, Document.ofText]

end ExamPress
