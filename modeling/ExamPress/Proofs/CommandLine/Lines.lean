import ExamPress.CommandLine.Session
import ExamPress.Proofs.Outcome
import ExamPress.Proofs.Service.TwoSteps
import Mathlib.Tactic.Common

/-! # Lines on a console

The lines of a session name the input and the product as they are, so that a console may be unable
to show a name that has surrogates. All that stands in the other lines has a UTF-8 form: a character
without one is told by its number. So a console that shows the first line of a session shows all its
lines (`shows_of_mem_lines`), and only the line after the product is saved is left. -/

namespace ExamPress

open Service (HasUtf8Form hasUtf8Form_toText)

/-! ### Quoted texts -/

namespace Text

theorem Quoted.hasUtf8Form_byNumber (c : CodePoint) : HasUtf8Form (byNumber c) := by
  have digits (places n : Nat) : HasUtf8Form (hex places n) := fun d hd => by
    obtain ⟨digit, -, rfl⟩ := List.mem_map.mp hd
    rfl
  unfold byNumber
  split_ifs <;> exact .append (hasUtf8Form_toText _) (digits _ _)

theorem isPrintable_surrogate (index : Fin 2048) : isPrintable (.surrogate index) = false := by
  have stretch : (0xd7fc, 0xf8ff) ∈ unprintableStretches := by decide
  have number : (CodePoint.surrogate index).toNat = 0xd800 + index := rfl
  have there : unprintableStretches.any (fun stretch =>
      stretch.1 ≤ (CodePoint.surrogate index).toNat &&
        (CodePoint.surrogate index).toNat ≤ stretch.2) = true :=
    List.any_eq_true.mpr ⟨_, stretch, by simp; omega⟩
  rw [isPrintable, there, number, if_neg (by omega)]
  rfl

theorem Quoted.hasUtf8Form_escape {mark : CodePoint} (h : mark.isSurrogate = false)
    (c : CodePoint) : HasUtf8Form (escape mark c) := by
  have plain (same : c = mark ∨ c = '\\') : c.isSurrogate = false := by
    rcases same with rfl | rfl
    · exact h
    · rfl
  unfold escape
  split_ifs with marked _ _ _ printable
  · exact .cons rfl (.cons (plain marked) nofun)
  · exact hasUtf8Form_toText _
  · exact hasUtf8Form_toText _
  · exact hasUtf8Form_toText _
  · cases c with
    | char c => exact .cons rfl nofun
    | surrogate index => cases printable.symm.trans (isPrintable_surrogate index)
  · exact hasUtf8Form_byNumber c

/-- **A quoted text** has a UTF-8 form, whatever the text is. -/
theorem Quoted.hasUtf8Form_quote (s : Text) : HasUtf8Form (quote s) := by
  have plain : (mark s).isSurrogate = false := by
    unfold mark
    split <;> rfl
  refine .cons plain (.append (fun c hc => ?_) (.cons plain nofun))
  obtain ⟨d, -, hc⟩ := List.mem_flatMap.mp hc
  exact hasUtf8Form_escape plain d c hc

theorem Unencodable.hasUtf8Form_message (e : Unencodable) : HasUtf8Form e.message := by
  unfold Unencodable.message
  dsimp only
  refine .append (.append (hasUtf8Form_toText _) ?_) (hasUtf8Form_toText _)
  split
  · exact .append (.append (hasUtf8Form_toText _) (Quoted.hasUtf8Form_byNumber _))
      (hasUtf8Form_toText _)
  · exact hasUtf8Form_toText _

end Text

/-! ### Faults -/

theorem Word.Fault.hasUtf8Form_message (fault : Word.Fault) : HasUtf8Form fault.message := by
  cases fault with
  | unencodable stretch => exact stretch.hasUtf8Form_message
  | _ => exact hasUtf8Form_toText _

theorem Word.Event.hasUtf8Form_message (event : Word.Event) : HasUtf8Form event.message := by
  cases event with
  | failed fault => exact .append (hasUtf8Form_toText _) fault.hasUtf8Form_message
  | _ => exact hasUtf8Form_toText _

theorem Table.Fault.hasUtf8Form_summary (fault : Table.Fault) : HasUtf8Form fault.summary := by
  have message : HasUtf8Form fault.message := by
    cases fault with
    | unencodable stretch => exact stretch.hasUtf8Form_message
    | _ => exact hasUtf8Form_toText _
  unfold Table.Fault.summary
  split
  · exact .append (hasUtf8Form_toText _) message
  · exact message

theorem WorkbookProblem.hasUtf8Form_message (problem : WorkbookProblem) :
    HasUtf8Form problem.message := by
  cases problem with
  | refused refusal => exact hasUtf8Form_toText _
  | unwritable fault => exact fault.hasUtf8Form_summary

namespace CommandLine

theorem FileError.hasUtf8Form_message (e : FileError) (name : Text) :
    HasUtf8Form (e.message name) := by
  unfold FileError.message
  dsimp only
  split
  · exact .append (.append (hasUtf8Form_toText _) (hasUtf8Form_toText _))
      (Text.Quoted.hasUtf8Form_quote name)
  · exact hasUtf8Form_toText _

/-! ### Sessions -/

/-- Making a product extracts nothing, and so it has no problem with that. -/
theorem hasUtf8Form_endingOf {files : FileSettings} {format : OutputFormat} {wanted : Option Text}
    {text : Text} {problem : ConversionProblem}
    (h : (makeProduct files format wanted text).result = .error problem) :
    ∀ line ∈ (endingOf problem).1, HasUtf8Form line.text := by
  have failed {message : Text} (hm : HasUtf8Form message) :
      ∀ line ∈ [Line.failed message], HasUtf8Form line.text :=
    List.forall_mem_singleton.mpr (.append (hasUtf8Form_toText _) hm)
  cases format with
  | document =>
    obtain ⟨fault, -, rfl⟩ := mapError_eq_error.mp h
    exact failed (.append (hasUtf8Form_toText _) fault.hasUtf8Form_message)
  | workbook =>
    obtain ⟨problem, -, rfl⟩ := mapError_eq_error.mp h
    unfold endingOf
    split
    · exact nofun
    · exact nofun
    · rename_i same
      cases same
      exact failed problem.hasUtf8Form_message
    · rename_i other
      cases other
    · rename_i other
      cases other

theorem hasUtf8Form_of_mem_produce {settings : Settings} {arguments : Arguments} {text : Text} :
    ∀ line ∈ (produce settings arguments text).lines, HasUtf8Form line.text := by
  have events : ∀ line ∈ (makeProduct settings.files arguments.format arguments.output
      text).log.map Line.event, HasUtf8Form line.text := by
    intro line hl
    obtain ⟨event, -, rfl⟩ := List.mem_map.mp hl
    exact event.hasUtf8Form_message
  unfold produce
  dsimp only
  split
  · split <;> exact events
  · rename_i problem h
    exact List.forall_mem_append.mpr ⟨events, hasUtf8Form_endingOf h⟩

/-- **Of the lines of a session** the first one tells the name of the input, and all others have a
UTF-8 form. -/
theorem mem_lines_work {settings : Settings} {arguments : Arguments}
    {file : Except FileError (List Nat)} {line : Line}
    (h : line ∈ (work settings arguments file).lines) :
    line = .reading arguments.input ∨ HasUtf8Form line.text := by
  unfold work at h
  dsimp only at h
  split at h
  · exact Or.inl (List.mem_singleton.mp h)
  · rename_i e _
    rcases List.mem_cons.mp h with first | h
    · exact Or.inl first
    · obtain rfl := List.mem_singleton.mp h
      exact Or.inr (.append (hasUtf8Form_toText _) (e.hasUtf8Form_message arguments.input))
  · split at h
    · exact Or.inl (List.mem_singleton.mp h)
    · rcases List.mem_cons.mp h with first | h
      · exact Or.inl first
      · exact Or.inr (hasUtf8Form_of_mem_produce line h)

/-! ### Consoles -/

/-- Whether a console shows a line. -/
def Console.Shows (console : Console) (line : Line) : Prop := line.text.all console.shows = true

instance (console : Console) (line : Line) : Decidable (console.Shows line) :=
  inferInstanceAs (Decidable (_ = true))

section

variable {console : Console}

theorem Console.shows_of_hasUtf8Form (sign : console.shows '📄' = true) {s : Text}
    (h : HasUtf8Form s) : s.all console.shows = true :=
  List.all_eq_true.mpr fun c hc => console.shows_of_sign sign c (h c hc)

theorem Console.all_between (sign : console.shows '📄' = true) (front back : String) (name : Text) :
    (front.toText ++ name ++ back.toText).all console.shows = true ↔
      ∀ c ∈ name, console.shows c = true := by
  rw [List.all_append, List.all_append, shows_of_hasUtf8Form sign (hasUtf8Form_toText front),
    shows_of_hasUtf8Form sign (hasUtf8Form_toText back), Bool.true_and, Bool.and_true,
    List.all_eq_true]

/-- **The first line** is shown exactly if the sign that it begins with is, and the name of the
input. -/
theorem Console.shows_reading_iff {input : Text} :
    console.Shows (.reading input) ↔
      console.shows '📄' = true ∧ ∀ c ∈ input, console.shows c = true := by
  constructor
  · intro first
    have sign : console.shows '📄' = true :=
      List.all_eq_true.mp first _ (List.mem_append_left _ (List.mem_append_left _ (by decide)))
    exact ⟨sign, (all_between sign _ _ input).mp first⟩
  · rintro ⟨sign, named⟩
    exact (all_between sign _ _ input).mpr named

/-- **The last line** behind a first one that is shown is shown exactly if the name of the product
is. -/
theorem Console.shows_saved_iff {input name : Text} (first : console.Shows (.reading input)) :
    console.Shows (.saved name) ↔ ∀ c ∈ name, console.shows c = true :=
  all_between (shows_reading_iff.mp first).1 _ _ name

/-- A console that shows the first line of a session shows all its lines. -/
theorem Console.shows_of_mem_lines {settings : Settings} {arguments : Arguments}
    {file : Except FileError (List Nat)} (first : console.Shows (.reading arguments.input)) :
    ∀ line ∈ (work settings arguments file).lines, console.Shows line := by
  intro line hl
  rcases mem_lines_work hl with rfl | plain
  · exact first
  · exact shows_of_hasUtf8Form (shows_reading_iff.mp first).1 plain

/-! ### Runs -/

/-- The file that an effect writes, by its name and its bytes. -/
def Effect.written? : Effect → Option (Text × List Nat)
  | tell _ => none
  | write name bytes => some (name, bytes)

/-- The files that a run writes, in order. -/
def Run.writes (run : Run) : List (Text × List Nat) := run.effects.filterMap Effect.written?

/-- **Lines that are shown** are told before what follows. -/
theorem perform_tells {stop : Stop} {lines : List Line} (effects : List Effect)
    (shown : ∀ line ∈ lines, console.Shows line) :
    perform console stop (lines.map .tell ++ effects) =
      ⟨lines.map .tell ++ (perform console stop effects).effects,
        (perform console stop effects).stop⟩ := by
  induction lines with
  | nil => rfl
  | cons line lines ih =>
    obtain ⟨first, shown⟩ := List.forall_mem_cons.mp shown
    exact (if_pos first).trans (congrArg (Run.after · (.tell line)) (ih shown))

/-- A line that is not shown stops the run before anything else is done. -/
theorem perform_unshown {stop : Stop} {line : Line} (effects : List Effect)
    (hidden : ¬ console.Shows line) :
    perform console stop (.tell line :: effects) = ⟨[], .unshown line⟩ :=
  if_neg hidden

theorem filterMap_tells (lines : List Line) :
    (lines.map Effect.tell).filterMap Effect.written? = [] := by
  rw [List.filterMap_map]
  exact List.filterMap_eq_nil_iff.mpr fun _ _ => rfl

end

end CommandLine

end ExamPress
