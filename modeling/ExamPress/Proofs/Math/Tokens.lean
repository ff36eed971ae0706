import ExamPress.Proofs.Math.Shape

/-! # The tokens of a formula

The source of a formula is cut into tokens from the left, and its nodes are written out as tokens in
reading order. Reading neither loses nor adds a token, nor does it change their order: the tokens of
the nodes are those of the source without spaces and braces (`linearTokens_parse`). -/

namespace ExamPress.Math

/-- A token: a text that is shown, the name of a construct, or the operator of a script. -/
inductive Token where
  | text (text : Text)
  | fraction
  | root
  | script (kind : ScriptKind)
deriving DecidableEq, Repr

/-- The token of a character that is no backslash. -/
def characterToken (c : CodePoint) : Token :=
  if c = '^' then .script .superscript
  else if c = '_' then .script .subscript
  else .text [c]

/-- The token at the front of a source that begins with `c`, and what stands behind it. A backslash
takes the name of a construct, or else all letters behind it. -/
def nextToken (c : CodePoint) (s : Text) : Token × Text :=
  if c = '\\' then
    if s.startsWith fractionName then (.fraction, s.drop fractionName.length)
    else if s.startsWith rootName then (.root, s.drop rootName.length)
    else (.text (commandText (commandName s)), s.drop (commandName s).length)
  else (characterToken c, s)

theorem length_nextToken_le (c : CodePoint) (s : Text) : (nextToken c s).2.length ≤ s.length := by
  unfold nextToken
  split_ifs <;> simp

/-- The tokens of a source. -/
def tokens : Text → List Token
  | [] => []
  | c :: s => (nextToken c s).1 :: tokens (nextToken c s).2
termination_by s => s.length
decreasing_by
  have := length_nextToken_le c s
  rw [List.length_cons]
  omega

/-- Whether a token is no space and no brace. -/
def Token.isShown (t : Token) : Bool := t ∉ [text [' '], text ['{'], text ['}']]

/-- The tokens of a source without spaces and braces. -/
def shownTokens (s : Text) : List Token := (tokens s).filter Token.isShown

mutual

/-- The tokens of a node in reading order. An empty run has none; a degree stands before the
radicand. -/
def Node.tokens : Node → List Token
  | .run text => if text.isEmpty then [] else [.text text]
  | .fraction numerator denominator =>
    .fraction :: (linearTokens numerator ++ linearTokens denominator)
  | .root radicand degree => .root :: (linearTokens degree ++ linearTokens radicand)
  | .scripted base kind script => linearTokens base ++ .script kind :: linearTokens script
  | .foreign _ => []

/-- The tokens of a sequence of nodes in reading order. -/
def linearTokens : List Node → List Token
  | [] => []
  | node :: nodes => node.tokens ++ linearTokens nodes

end

theorem linearTokens_append (a b : List Node) :
    linearTokens (a ++ b) = linearTokens a ++ linearTokens b := by
  induction a with
  | nil => simp [linearTokens]
  | cons node a ih => simp [linearTokens, ih]

/-! ### The tokens of a source -/

@[simp] theorem tokens_nil : tokens [] = [] := by rw [tokens]

theorem tokens_cons {c : CodePoint} (s : Text) (h : c ≠ '\\') :
    tokens (c :: s) = characterToken c :: tokens s := by
  rw [tokens, nextToken, if_neg h]

theorem tokens_fraction (s : Text) :
    tokens ('\\' :: (fractionName ++ s)) = .fraction :: tokens s := by
  have h : (fractionName ++ s).startsWith fractionName = true := rfl
  rw [tokens, nextToken, if_pos rfl, if_pos h]
  simp

theorem tokens_root (s : Text) : tokens ('\\' :: (rootName ++ s)) = .root :: tokens s := by
  have hf : (rootName ++ s).startsWith fractionName = false := rfl
  have hr : (rootName ++ s).startsWith rootName = true := rfl
  rw [tokens, nextToken, if_pos rfl, if_neg (by simp [hf]), if_pos hr]
  simp

theorem tokens_command {name r : Text} (hn : Letters name) (hr : EndsName r)
    (h : ∀ start ∈ structuralNames, ¬ start <+: name) :
    tokens ('\\' :: (name ++ r)) = .text (commandText name) :: tokens r := by
  have hp (start : Text) (hs : start ∈ structuralNames) :
      ¬ (name ++ r).startsWith start = true :=
    fun hp => h start hs ((startsWith_append_iff hs hr).mp hp)
  rw [tokens, nextToken, if_pos rfl, if_neg (hp _ (by decide)), if_neg (hp _ (by decide)),
    commandName_append hn hr]
  simp

/-- **Cutting between tokens**: where the second part begins with no letter, no token goes over the
cut. -/
theorem tokens_append (a : Text) {b : Text} (hb : EndsName b) :
    tokens (a ++ b) = tokens a ++ tokens b := by
  induction h : a.length using Nat.strong_induction_on generalizing a with
  | _ n ih =>
    rcases a with _ | ⟨c, a⟩
    · simp
    rw [List.length_cons] at h
    by_cases hc : c = '\\'
    · subst hc
      rcases command_cases a with ⟨start, hs, r, rfl⟩ | ⟨name, r, rfl, hn, hr, hsym⟩
      · rw [List.length_append] at h
        have ih := ih r.length (by omega) r rfl
        simp only [structuralNames, List.mem_cons, List.not_mem_nil, or_false] at hs
        rcases hs with rfl | rfl
        · rw [List.cons_append, List.append_assoc, tokens_fraction, tokens_fraction, ih,
            List.cons_append]
        · rw [List.cons_append, List.append_assoc, tokens_root, tokens_root, ih, List.cons_append]
      · rw [List.length_append] at h
        have hrb : EndsName (r ++ b) := by
          rcases r with _ | ⟨c, r⟩
          · exact hb
          · exact hr
        rw [List.cons_append, List.append_assoc, tokens_command hn hrb hsym,
          tokens_command hn hr hsym, ih r.length (by omega) r rfl, List.cons_append]
    · rw [List.cons_append, tokens_cons _ hc, tokens_cons _ hc, ih a.length (by omega) a rfl,
        List.cons_append]

/-! ### Tokens that are shown -/

@[simp] theorem shownTokens_nil : shownTokens [] = [] := by simp [shownTokens]

theorem shownTokens_append (a : Text) {b : Text} (hb : EndsName b) :
    shownTokens (a ++ b) = shownTokens a ++ shownTokens b := by
  rw [shownTokens, tokens_append a hb, List.filter_append, shownTokens, shownTokens]

theorem shownTokens_cons {c : CodePoint} (s : Text) (h : c ≠ '\\') :
    shownTokens (c :: s) = shownTokens [c] ++ shownTokens s := by
  simp only [shownTokens, tokens_cons _ h, tokens_nil]
  rw [← List.filter_append, List.singleton_append]

theorem shownTokens_skip {c : CodePoint} (s : Text) (h : c = ' ' ∨ c = '{' ∨ c = '}') :
    shownTokens (c :: s) = shownTokens s := by
  rcases h with rfl | rfl | rfl <;> rw [shownTokens, tokens_cons s (by decide)] <;> rfl

/-- **An operand** and what stands behind it keep all tokens that are shown. -/
theorem Cut.shownTokens_eq {s t r : Text} (h : Cut s t r) :
    shownTokens s = shownTokens t ++ shownTokens r := by
  cases h with
  | missing => rw [shownTokens_nil, List.nil_append]
  | group r ht =>
    have close : EndsName ('}' :: r) := fun c hc => by cases hc; decide
    rw [braced, shownTokens_skip _ (by decide), shownTokens_append _ close,
      shownTokens_skip _ (by decide)]
  | unclosed _ => rw [shownTokens_skip _ (by decide), shownTokens_nil, List.nil_append]
  | command _ hr => rw [← List.cons_append, shownTokens_append _ hr]
  | single r _ hb => exact shownTokens_cons r hb

/-- The tokens of an item: of its operands, those that are shown. -/
def Item.tokens : Item → List Token
  | .nothing => []
  | .run text => [.text text]
  | .fraction numerator denominator =>
    .fraction :: (shownTokens numerator ++ shownTokens denominator)
  | .root radicand => .root :: shownTokens radicand
  | .script kind source => .script kind :: shownTokens source

theorem RunText.isShown {text : Text} (h : RunText text) : (Token.text text).isShown = true := by
  rcases text with _ | ⟨c, _ | ⟨d, name⟩⟩
  · cases h
  · have h : c ∉ marks := h
    simp only [marks, List.mem_cons, List.not_mem_nil, or_false, not_or] at h
    simp [Token.isShown, h]
  · simp [Token.isShown]

theorem characterToken_of_not_mark {c : CodePoint} (h : c ∉ marks) :
    characterToken c = .text [c] := by
  simp only [marks, List.mem_cons, List.not_mem_nil, or_false, not_or] at h
  simp [characterToken, h]

/-- **A move** keeps all tokens that are shown. -/
theorem Move.shownTokens_eq {s r : Text} {item : Item} (h : Move s item r) :
    shownTokens s = item.tokens ++ shownTokens r := by
  cases h with
  | skip _ h => exact shownTokens_skip r h
  | @character c _ hm hb =>
    have hc : RunText [c] := hm
    rw [shownTokens, tokens_cons r hb, characterToken_of_not_mark hm,
      List.filter_cons_of_pos hc.isShown]
    rfl
  | command hn hr hsym =>
    rw [shownTokens, tokens_command hn hr hsym,
      List.filter_cons_of_pos (runText_commandText hn hsym).isShown]
    rfl
  | @fraction s _ _ _ _ hn hd =>
    calc shownTokens ('\\' :: (fractionName ++ s)) = .fraction :: shownTokens s := by
          rw [shownTokens, tokens_fraction, List.filter_cons_of_pos rfl, shownTokens]
      _ = _ := by rw [hn.shownTokens_eq, hd.shownTokens_eq, ← List.append_assoc]; rfl
  | @root s _ _ ht =>
    calc shownTokens ('\\' :: (rootName ++ s)) = .root :: shownTokens s := by
          rw [shownTokens, tokens_root, List.filter_cons_of_pos rfl, shownTokens]
      _ = _ := by rw [ht.shownTokens_eq]; rfl
  | @script s _ _ kind ht =>
    have hk : kind.operator ≠ '\\' ∧ characterToken kind.operator = .script kind := by
      cases kind <;> decide
    calc shownTokens (kind.operator :: s) = .script kind :: shownTokens s := by
          rw [shownTokens, tokens_cons s (by simpa using hk.1), hk.2, List.filter_cons_of_pos rfl,
            shownTokens]
      _ = _ := by rw [ht.shownTokens_eq]; rfl

/-! ### Reading -/

/-- What an item adds to the nodes, if the operands were read with their tokens. -/
theorem linearTokens_onto {item : Item} (acc : List Node)
    (operands : ∀ t ∈ item.operands, linearTokens (parse t) = shownTokens t)
    (run : ∀ text, item = .run text → text ≠ []) :
    linearTokens (item.onto acc).reverse = linearTokens acc.reverse ++ item.tokens := by
  cases item with
  | nothing => simp [Item.onto, Item.tokens]
  | run text =>
    have h := run text rfl
    simp [Item.onto, Item.tokens, linearTokens_append, linearTokens, Node.tokens, h]
  | fraction numerator denominator =>
    have hn := operands numerator (by simp [Item.operands])
    have hd := operands denominator (by simp [Item.operands])
    simp [Item.onto, Item.tokens, linearTokens_append, linearTokens, Node.tokens, hn, hd]
  | root radicand =>
    have hr := operands radicand (by simp [Item.operands])
    simp [Item.onto, Item.tokens, linearTokens_append, linearTokens, Node.tokens, hr]
  | script kind source =>
    have hs := operands source (by simp [Item.operands])
    -- the script takes the last node away and puts it back as its base
    rcases acc with _ | ⟨last, acc⟩
    · simp [Item.onto, Item.tokens, linearTokens, Node.tokens, hs]
    · simp [Item.onto, Item.tokens, linearTokens_append, linearTokens, Node.tokens, hs]

theorem linearTokens_parseOnto (s : Text) (acc : List Node) :
    linearTokens (parseOnto acc s).reverse = linearTokens acc.reverse ++ shownTokens s := by
  induction s using reading_induction generalizing acc with
  | nil => simp
  | move s item r h operands rest =>
    have operands : ∀ t ∈ item.operands, linearTokens (parse t) = shownTokens t := fun t ht => by
      simpa [parse, linearTokens] using operands t ht []
    have run (text : Text) (ht : item = .run text) : text ≠ [] := by
      subst ht
      exact h.runText.ne_nil
    rw [parseOnto_move h, rest, linearTokens_onto acc operands run, h.shownTokens_eq,
      List.append_assoc]

/-- **Reading keeps the tokens**: the nodes of a source have its tokens in their order, all but
spaces and braces. -/
theorem linearTokens_parse (s : Text) :
    linearTokens (parse s) = (tokens s).filter Token.isShown := by
  simpa [parse, linearTokens, shownTokens] using linearTokens_parseOnto s []

end ExamPress.Math
