import ExamPress.Math.Scan
import ExamPress.Proofs.Text.Front
import Mathlib.Algebra.Order.Group.Int
import Mathlib.Tactic.SplitIfs

/-! # Matching braces

A text is well nested if its braces match. The group at the front of a source ends at the closing
brace that stands behind a well nested text (`closingBrace_one_iff`). -/

namespace ExamPress.Math

/-- How many braces a text leaves open: less than none if it closes more than it opens. -/
def depth (s : Text) : Int := (s.count (.char '{') : Int) - s.count (.char '}')

/-- **Matching braces**: no part at the front closes a brace that it did not open, and the whole
text closes all that it opens. -/
structure WellNested (s : Text) : Prop where
  nonneg : ∀ p, p <+: s → 0 ≤ depth p
  closed : depth s = 0

/-- A text in braces, in front of another. -/
def braced (s rest : Text) : Text := '{' :: (s ++ ('}' :: rest : Text))

@[simp] theorem depth_nil : depth [] = 0 := rfl

theorem depth_cons (c : CodePoint) (s : Text) :
    depth (c :: s) = (if c = '{' then 1 else if c = '}' then -1 else 0) + depth s := by
  unfold depth
  split_ifs with ho hc
  · rw [ho, List.count_cons_self, List.count_cons_of_ne (by decide)]
    omega
  · rw [hc, List.count_cons_self, List.count_cons_of_ne (by decide)]
    omega
  · rw [List.count_cons_of_ne ho, List.count_cons_of_ne hc, zero_add]

theorem depth_append (a b : Text) : depth (a ++ b) = depth a + depth b := by
  unfold depth
  rw [List.count_append, List.count_append]
  omega

theorem depth_eq_zero {s : Text} (h : ∀ c ∈ s, c ≠ '{' ∧ c ≠ '}') : depth s = 0 := by
  unfold depth
  rw [List.count_eq_zero.mpr fun hm => (h _ hm).1 rfl,
    List.count_eq_zero.mpr fun hm => (h _ hm).2 rfl]
  rfl

theorem braced_append (s rest more : Text) :
    braced s rest ++ more = braced s (rest ++ more) := by
  simp [braced]

/-! ### Putting well nested texts together -/

namespace WellNested

theorem of_plain {s : Text} (h : ∀ c ∈ s, c ≠ '{' ∧ c ≠ '}') : WellNested s where
  nonneg _ hp := (depth_eq_zero fun c hc => h c (hp.subset hc)).ge
  closed := depth_eq_zero h

theorem nil : WellNested [] := of_plain (by simp)

theorem append {a b : Text} (ha : WellNested a) (hb : WellNested b) : WellNested (a ++ b) where
  nonneg p hp := by
    rcases Text.prefix_append_cases hp with h | ⟨q, hq, rfl⟩
    · exact ha.nonneg p h
    · rw [depth_append, ha.closed, zero_add]
      exact hb.nonneg q hq
  closed := by rw [depth_append, ha.closed, hb.closed, zero_add]

theorem braced {s rest : Text} (hs : WellNested s) (hr : WellNested rest) :
    WellNested (braced s rest) where
  nonneg p hp := by
    rcases p with _ | ⟨c, p⟩
    · exact le_rfl
    obtain ⟨rfl, hp'⟩ := List.cons_prefix_cons.mp hp
    rw [depth_cons, if_pos rfl]
    rcases Text.prefix_append_cases hp' with h | ⟨q, hq, rfl⟩
    · have := hs.nonneg p h
      omega
    rw [depth_append, hs.closed]
    rcases q with _ | ⟨c, q⟩
    · decide
    obtain ⟨rfl, hq'⟩ := List.cons_prefix_cons.mp hq
    have := hr.nonneg q hq'
    rw [depth_cons, if_neg (by decide), if_pos rfl]
    omega
  closed := by
    rw [Math.braced, depth_cons, if_pos rfl, depth_append, hs.closed, depth_cons,
      if_neg (by decide), if_pos rfl, hr.closed]
    rfl

end WellNested

/-! ### The closing brace -/

/-- While a brace stays open, the search for the one that closes it goes on. -/
theorem closingBrace_append {s : Text} (r : Text) {d : Int} (h : ∀ p, p <+: s → 0 < d + depth p) :
    closingBrace d (s ++ r) = (closingBrace (d + depth s) r).map (· + s.length) := by
  induction s generalizing d with
  | nil => simp
  | cons c s ih =>
    have tail (e : Int) (he : e = d + depth [c]) : ∀ p, p <+: s → 0 < e + depth p := by
      intro p hp
      have := h ([c] ++ p) (List.cons_prefix_cons.mpr ⟨rfl, hp⟩)
      rw [depth_append] at this
      omega
    have first := h [c] (List.cons_prefix_cons.mpr ⟨rfl, List.nil_prefix⟩)
    rw [List.cons_append, closingBrace, depth_cons]
    rw [depth_cons, depth_nil] at first tail
    split_ifs at first tail ⊢ with ho hc hd
    · rw [ih (tail (d + 1) (by omega)), Option.map_map, add_assoc]
      rfl
    · omega
    · rw [ih (tail (d - 1) (by omega)), Option.map_map, Int.sub_eq_add_neg, add_assoc]
      rfl
    · rw [ih (tail d (by omega)), Option.map_map, zero_add]
      rfl

theorem closingBrace_eq_some {s : Text} {d : Int} {k : Nat} (hd : 0 < d)
    (h : closingBrace d s = some k) :
    ∃ t r : Text, s = t ++ ('}' :: r : Text) ∧ t.length = k ∧ d + depth t = 1 ∧
      ∀ p, p <+: t → 0 < d + depth p := by
  induction s generalizing d k with
  | nil => simp [closingBrace] at h
  | cons c s ih =>
    have step (e : Int) (he : e = d + depth [c]) (hpos : 0 < e)
        (hm : (closingBrace e s).map (· + 1) = some k) :
        ∃ t r : Text, c :: s = t ++ ('}' :: r : Text) ∧ t.length = k ∧ d + depth t = 1 ∧
          ∀ p, p <+: t → 0 < d + depth p := by
      obtain ⟨j, hj, rfl⟩ := Option.map_eq_some_iff.mp hm
      obtain ⟨t, r, rfl, rfl, ht, hp⟩ := ih hpos hj
      refine ⟨c :: t, r, rfl, rfl, ?_, fun q hq => ?_⟩
      · rw [← List.singleton_append, depth_append]
        omega
      · rcases q with _ | ⟨c', q⟩
        · simpa using hd
        obtain ⟨rfl, hq'⟩ := List.cons_prefix_cons.mp hq
        have := hp q hq'
        rw [← List.singleton_append, depth_append]
        omega
    rw [closingBrace] at h
    rw [depth_cons, depth_nil] at step
    split_ifs at h step with ho hc h1
    · exact step _ rfl (by omega) h
    · obtain rfl : 0 = k := by simpa using h
      refine ⟨[], s, by rw [hc]; rfl, rfl, by simpa using h1, fun p hp => ?_⟩
      rw [List.prefix_nil.mp hp, depth_nil]
      omega
    · exact step _ rfl (by omega) h
    · exact step _ (by omega) hd h

/-- **The closing brace** of a group stands behind a well nested text. -/
theorem closingBrace_one_iff {s : Text} {k : Nat} :
    closingBrace 1 s = some k ↔
      ∃ t r : Text, s = t ++ ('}' :: r : Text) ∧ t.length = k ∧ WellNested t := by
  constructor
  · intro h
    obtain ⟨t, r, rfl, rfl, ht, hp⟩ := closingBrace_eq_some (by decide) h
    refine ⟨t, r, rfl, rfl, fun p hp' => ?_, by omega⟩
    have := hp p hp'
    omega
  · rintro ⟨t, r, rfl, rfl, hn, hc⟩
    rw [closingBrace_append _ fun p hp => ?_, hc]
    · simp [closingBrace]
    · have := hn p hp
      omega

/-! ### No closing brace -/

/-- The search finds no closing brace exactly if the depth stays above zero. -/
theorem closingBrace_eq_none_iff {s : Text} {d : Int} (hd : 0 < d) :
    closingBrace d s = none ↔ ∀ p, p <+: s → 0 < d + depth p := by
  constructor
  · intro h
    induction s generalizing d with
    | nil =>
      intro p hp
      rwa [List.prefix_nil.mp hp, depth_nil, add_zero]
    | cons c s ih =>
      have step (e : Int) (he : e = d + depth [c]) (hpos : 0 < e) (hn : closingBrace e s = none) :
          ∀ p, p <+: c :: s → 0 < d + depth p := by
        intro p hp
        rcases p with _ | ⟨c', p⟩
        · rwa [depth_nil, add_zero]
        obtain ⟨rfl, hp'⟩ := List.cons_prefix_cons.mp hp
        have := ih hpos hn p hp'
        rw [← List.singleton_append, depth_append]
        omega
      rw [closingBrace] at h
      rw [depth_cons, depth_nil] at step
      split_ifs at h step with ho hc h1
      · exact step _ rfl (by omega) (Option.map_eq_none_iff.mp h)
      · exact step _ rfl (by omega) (Option.map_eq_none_iff.mp h)
      · exact step _ (by omega) hd (Option.map_eq_none_iff.mp h)
  · intro h
    have := closingBrace_append [] h
    rwa [List.append_nil] at this

theorem closingBrace_one_eq_none_iff {r : Text} :
    closingBrace 1 r = none ↔ ∀ t r' : Text, WellNested t → r ≠ t ++ ('}' :: r' : Text) := by
  rw [Option.eq_none_iff_forall_ne_some]
  constructor
  · intro h t r' ht hr
    exact h t.length (closingBrace_one_iff.mpr ⟨t, r', hr, rfl, ht⟩)
  · intro h k hk
    obtain ⟨t, r', hr, -, ht⟩ := closingBrace_one_iff.mp hk
    exact h t r' ht hr

/-- **A group stays open** if no part of what stands behind its opening brace closes more than it
opens. -/
theorem forall_ne_closing_iff {r : Text} :
    (∀ t r' : Text, WellNested t → r ≠ t ++ ('}' :: r' : Text)) ↔
      ∀ p, p <+: r → 0 ≤ depth p := by
  rw [← closingBrace_one_eq_none_iff, closingBrace_eq_none_iff one_pos]
  exact forall₂_congr fun p _ => by omega

theorem WellNested.exists_closing {a r : Text} (h : WellNested (a ++ ('{' :: r : Text))) :
    ∃ t r' : Text, WellNested t ∧ r = t ++ ('}' :: r' : Text) := by
  by_contra hn
  have stays := forall_ne_closing_iff.mp (fun t r' ht hr => hn ⟨t, r', ht, hr⟩) r List.prefix_rfl
  have front := h.nonneg a (List.prefix_append a _)
  have closed := h.closed
  rw [depth_append, depth_cons, if_pos rfl] at closed
  omega

end ExamPress.Math
