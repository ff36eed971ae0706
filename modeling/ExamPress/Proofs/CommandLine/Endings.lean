import ExamPress.Proofs.CommandLine.Lines
import ExamPress.Proofs.Table.Packing

/-! # How the command ends

A run ends cleanly if it writes the one file that is made of the input, or tells an error and writes
nothing. It does so for each input, all arguments and every console, but for these reasons to break
down: the console can not show the first line, for its sign or for the name of the input; a name
that no file can have, for the input or for the product; an input that is no UTF-8; and, for a
workbook, a number with too many digits or a value below the last row of a worksheet. Nothing is
written then either. One more reason is left: on a console that can not show the name of the
product, the command fails to tell that it is saved, when it already is (`endsCleanly_iff`). -/

namespace ExamPress.CommandLine

/-! ### Files -/

/-- The files by their names: the content of each, or why it can not be opened. -/
abbrev Files := Text → Except FileError (List Nat)

/-- Whether a text is read from the file of a name, with its line ends unified. -/
def Files.Holds (files : Files) (name text : Text) : Prop :=
  checkName name = .ok name ∧ ∃ bytes source, files name = .ok bytes ∧
    Text.Utf8.decode bytes = .ok source ∧ text = Text.universalNewlines source

/-! ### Products -/

/-- The name of a product for which no name is asked for. -/
def defaultName (settings : FileSettings) : OutputFormat → Text
  | .document => settings.documentName
  | .workbook => settings.tableName

/-- The extension of a format. -/
def extension : OutputFormat → Text
  | .document => ".docx".toText
  | .workbook => ".xlsx".toText

/-- The name of the file that is made. -/
def outputName (settings : Settings) (arguments : Arguments) : Text :=
  Text.fileName arguments.output (defaultName settings.files arguments.format)
    (extension arguments.format)

/-- Whether a content is made of a text for a format. -/
inductive IsMadeOf (text : Text) : OutputFormat → Content → Prop
  | document {file : Word.File} (rendered : (Word.render (.ofText text)).result = .ok file) :
    IsMadeOf text .document (.document file)
  | workbook {items : List Json} {book : Table.Workbook} (table : Table.rows text = .ok items)
      (written : (Table.Sheet.ofItems items).write = .ok book) :
    IsMadeOf text .workbook (.workbook book)

section

variable {settings : Settings} {arguments : Arguments} {text : Text}

theorem makeProduct_eq_ok_iff {product : Product} :
    (makeProduct settings.files arguments.format arguments.output text).result = .ok product ↔
      ∃ content, IsMadeOf text arguments.format content ∧
        product = ⟨outputName settings arguments, content⟩ := by
  obtain ⟨input, output, format⟩ := arguments
  cases format with
  | document =>
    constructor
    · intro h
      obtain ⟨file, hf, rfl⟩ := map_eq_ok.mp (mapError_eq_ok.mp h)
      exact ⟨.document file, .document hf, rfl⟩
    · rintro ⟨_, ⟨rendered⟩, rfl⟩
      exact mapError_eq_ok.mpr (map_eq_ok.mpr ⟨_, rendered, rfl⟩)
  | workbook =>
    constructor
    · intro h
      obtain ⟨items, hi, h⟩ := bind_eq_ok.mp (mapError_eq_ok.mp h)
      obtain ⟨book, hb, h⟩ := bind_eq_ok.mp h
      obtain rfl := pure_eq_ok.mp h
      exact ⟨.workbook book, .workbook (mapError_eq_ok.mp hi) (mapError_eq_ok.mp hb), rfl⟩
    · rintro ⟨_, _ | ⟨table, written⟩, rfl⟩
      exact mapError_eq_ok.mpr (bind_eq_ok.mpr ⟨_, mapError_eq_ok.mpr table,
        bind_eq_ok.mpr ⟨_, mapError_eq_ok.mpr written, rfl⟩⟩)

/-- **A problem with a workbook** is one with reading its table, or one with writing its sheet. -/
theorem makeProduct_eq_error_iff {problem : WorkbookProblem} :
    (makeProduct settings.files arguments.format arguments.output text).result =
        .error (.workbook problem) ↔
      arguments.format = .workbook ∧
        ((∃ refusal, problem = .refused refusal ∧ Table.rows text = .error refusal) ∨
          ∃ fault, problem = .unwritable fault ∧ ∃ items, Table.rows text = .ok items ∧
            (Table.Sheet.ofItems items).write = .error fault) := by
  obtain ⟨input, output, format⟩ := arguments
  cases format with
  | document =>
    refine ⟨fun h => ?_, fun ⟨other, _⟩ => nomatch other⟩
    obtain ⟨fault, -, other⟩ := mapError_eq_error.mp h
    cases other
  | workbook =>
    constructor
    · intro h
      obtain ⟨problem, hp, same⟩ := mapError_eq_error.mp h
      cases same
      rcases bind_eq_error.mp hp with refused | ⟨items, hi, h⟩
      · obtain ⟨refusal, hr, rfl⟩ := mapError_eq_error.mp refused
        exact ⟨rfl, Or.inl ⟨refusal, rfl, hr⟩⟩
      · rcases bind_eq_error.mp h with unwritable | ⟨book, -, h⟩
        · obtain ⟨fault, hf, rfl⟩ := mapError_eq_error.mp unwritable
          exact ⟨rfl, Or.inr ⟨fault, rfl, items, mapError_eq_ok.mp hi, hf⟩⟩
        · cases h
    · rintro ⟨-, problem⟩
      refine mapError_eq_error.mpr ⟨_, bind_eq_error.mpr ?_, rfl⟩
      rcases problem with ⟨refusal, rfl, refused⟩ | ⟨fault, rfl, items, table, failed⟩
      · exact Or.inl (mapError_eq_error.mpr ⟨_, refused, rfl⟩)
      · exact Or.inr ⟨items, mapError_eq_ok.mpr table,
          bind_eq_error.mpr (Or.inl (mapError_eq_error.mpr ⟨_, failed, rfl⟩))⟩

theorem makeProduct_eq_refused_iff {refusal : Table.Refusal} :
    (makeProduct settings.files arguments.format arguments.output text).result =
        .error (.workbook (.refused refusal)) ↔
      arguments.format = .workbook ∧ Table.rows text = .error refusal := by
  simp [makeProduct_eq_error_iff]

theorem makeProduct_eq_unwritable_iff {fault : Table.Fault} :
    (makeProduct settings.files arguments.format arguments.output text).result =
        .error (.workbook (.unwritable fault)) ↔
      arguments.format = .workbook ∧ ∃ items, Table.rows text = .ok items ∧
        (Table.Sheet.ofItems items).write = .error fault := by
  simp [makeProduct_eq_error_iff]

end

/-- The command tells each problem but two: a number with too many digits, and a row too low. -/
theorem endingOf_cases (problem : ConversionProblem) :
    (∃ count, problem = .workbook (.refused (.unreadable (.tooManyDigits count)))) ∨
      (∃ row, problem = .workbook (.unwritable (.tooTall row))) ∨
      ∃ message, endingOf problem = ([.failed message], .failed) := by
  unfold endingOf
  split
  · rename_i count
    exact Or.inl ⟨count, rfl⟩
  · rename_i row
    exact Or.inr (Or.inl ⟨row, rfl⟩)
  all_goals exact Or.inr (Or.inr ⟨_, rfl⟩)

/-! ### Clean ends -/

/-- Whether a line tells an error. -/
def Line.IsError : Line → Prop
  | unreadable _ _ | failed _ => True
  | reading _ | event _ | saved _ => False

section

variable (console : Console) (settings : Settings) (arguments : Arguments) (files : Files)

/-- The session of a command with files. -/
def session : Session := work settings arguments (files arguments.input)

/-- The run of a command with files on a console. -/
def run : Run := (session settings arguments files).run console

/-- Whether a content is made of what the input holds, and its file can have the name that is asked
for or the default one, with the extension of the format. -/
structure Makes (content : Content) : Prop where
  made : ∃ text, files.Holds arguments.input text ∧ IsMadeOf text arguments.format content
  usable : checkName (outputName settings arguments) = .ok (outputName settings arguments)

/-- Whether a run writes one file, with the product of its input. -/
def Saves : Prop :=
  ∃ content, Makes settings arguments files content ∧
    (run console settings arguments files).stop.exitCode? = some 0 ∧
    (run console settings arguments files).writes =
      [(outputName settings arguments, content.bytes)]

/-- Whether a run tells an error last and writes no file. -/
def Fails : Prop :=
  (∃ line, (run console settings arguments files).effects.getLast? = some (.tell line) ∧
      line.IsError) ∧
    (run console settings arguments files).stop.exitCode? = some 1 ∧
    (run console settings arguments files).writes = []

/-- Why a run breaks down. -/
inductive BreaksDown : Prop
  | sign (lacking : console.shows '📄' = false)
  | name {c : CodePoint} (there : c ∈ arguments.input) (lacking : console.shows c = false)
  | input {fault : NameFault} (unusable : checkName arguments.input = .error fault)
  | bytes {bytes : List Nat} {stretch : Text.Malformed}
      (opened : files arguments.input = .ok bytes)
      (undecodable : Text.Utf8.decode bytes = .error stretch)
  | digits {text : Text} {count : Nat} (holds : files.Holds arguments.input text)
      (format : arguments.format = .workbook)
      (limit : Table.rows text = .error (.unreadable (.tooManyDigits count)))
  | rows {text : Text} {items : List Json} (holds : files.Holds arguments.input text)
      (format : arguments.format = .workbook) (table : Table.rows text = .ok items)
      (tall : Table.IsTall items)
  | output {text : Text} {content : Content} {fault : NameFault}
      (holds : files.Holds arguments.input text) (made : IsMadeOf text arguments.format content)
      (unusable : checkName (outputName settings arguments) = .error fault)

/-- Whether a product is made, and the console shows the line with the name of the input but not the
name of the product. -/
structure SavesUntold : Prop where
  makes : ∃ content, Makes settings arguments files content
  first : console.Shows (.reading arguments.input)
  lacking : ∃ c ∈ outputName settings arguments, console.shows c = false

end

section

variable {console : Console} {settings : Settings} {arguments : Arguments} {files : Files}

theorem session_of_holds {text : Text} (h : files.Holds arguments.input text) :
    session settings arguments files = ⟨.reading arguments.input ::
      (produce settings arguments text).lines, (produce settings arguments text).ending⟩ := by
  obtain ⟨usable, bytes, source, opened, decoded, rfl⟩ := h
  simp only [session, work, usable, opened, decoded]

theorem checkName_eq_ok {name usable : Text} (h : checkName name = .ok usable) : name = usable := by
  unfold checkName at h
  split at h
  · split at h
    · cases h
    · exact Except.ok.inj h
  · cases h

/-! ### Sessions -/

theorem cases_of_holds (console : Console) {text : Text}
    (holds : files.Holds arguments.input text) :
    (∃ content, Makes settings arguments files content) ∨
    (∃ lines line, session settings arguments files = ⟨lines ++ [line], .failed⟩ ∧
      line.IsError) ∨
    BreaksDown console settings arguments files := by
  cases hm : (makeProduct settings.files arguments.format arguments.output text).result with
  | ok product =>
    obtain ⟨content, made, rfl⟩ := makeProduct_eq_ok_iff.mp hm
    cases hn : checkName (outputName settings arguments) with
    | ok name =>
      obtain rfl := checkName_eq_ok hn
      exact Or.inl ⟨content, ⟨text, holds, made⟩, hn⟩
    | error fault => exact Or.inr (Or.inr (.output holds made hn))
  | error problem =>
    rcases endingOf_cases problem with ⟨count, rfl⟩ | ⟨row, rfl⟩ | ⟨message, told⟩
    · obtain ⟨format, limit⟩ := makeProduct_eq_refused_iff.mp hm
      exact Or.inr (Or.inr (.digits holds format limit))
    · obtain ⟨format, items, table, failed⟩ := makeProduct_eq_unwritable_iff.mp hm
      have tall := Table.exists_tooTall_iff.mp ⟨row, failed⟩
      exact Or.inr (Or.inr (.rows holds format table tall))
    · have ends : session settings arguments files = _ := session_of_holds holds
      rw [produce] at ends
      simp only [hm, told, ← List.cons_append] at ends
      exact Or.inr (Or.inl ⟨_, _, ends, trivial⟩)

/-- **A session** makes a product, tells an error last, or breaks down. -/
theorem session_cases (console : Console) :
    (∃ content, Makes settings arguments files content) ∨
    (∃ lines line, session settings arguments files = ⟨lines ++ [line], .failed⟩ ∧
      line.IsError) ∨
    BreaksDown console settings arguments files := by
  cases hn : checkName arguments.input with
  | error fault => exact Or.inr (Or.inr (.input hn))
  | ok name =>
    obtain rfl := checkName_eq_ok hn
    cases hf : files arguments.input with
    | error e =>
      have ends : session settings arguments files =
          ⟨[.reading arguments.input] ++ [.unreadable e arguments.input], .failed⟩ := by
        simp only [session, work, hn, hf, List.cons_append, List.nil_append]
      exact Or.inr (Or.inl ⟨_, _, ends, trivial⟩)
    | ok bytes =>
      cases hd : Text.Utf8.decode bytes with
      | error stretch => exact Or.inr (Or.inr (.bytes hf hd))
      | ok source => exact cases_of_holds console ⟨hn, bytes, source, hf, hd, rfl⟩

theorem ending_of_breaksDown (h : BreaksDown console settings arguments files)
    (first : console.Shows (.reading arguments.input)) :
    ∃ breakdown, (session settings arguments files).ending = .broken breakdown := by
  cases h with
  | sign lacking =>
    obtain ⟨sign, -⟩ := Console.shows_reading_iff.mp first
    cases sign.symm.trans lacking
  | @name c there lacking =>
    obtain ⟨-, named⟩ := Console.shows_reading_iff.mp first
    cases (named c there).symm.trans lacking
  | @input fault unusable =>
    exact ⟨.unusableName fault, by simp only [session, work, unusable]⟩
  | @bytes bytes stretch opened undecodable =>
    cases hn : checkName arguments.input with
    | error fault => exact ⟨.unusableName fault, by simp only [session, work, hn]⟩
    | ok name =>
      exact ⟨.undecodable stretch, by simp only [session, work, hn, opened, undecodable]⟩
  | @digits text count holds format limit =>
    have problem : (makeProduct settings.files arguments.format arguments.output text).result = _ :=
      makeProduct_eq_refused_iff.mpr ⟨format, limit⟩
    refine ⟨.unreadableTable (.tooManyDigits count), ?_⟩
    rw [session_of_holds holds, produce]
    simp only [problem, endingOf]
  | @rows text items holds format table tall =>
    obtain ⟨row, failed⟩ := Table.exists_tooTall_iff.mpr tall
    have problem : (makeProduct settings.files arguments.format arguments.output text).result = _ :=
      makeProduct_eq_unwritable_iff.mpr ⟨format, items, table, failed⟩
    refine ⟨.tallTable row, ?_⟩
    rw [session_of_holds holds, produce]
    simp only [problem, endingOf]
  | @output text content fault holds made unusable =>
    have product : (makeProduct settings.files arguments.format arguments.output text).result = _ :=
      makeProduct_eq_ok_iff.mpr ⟨content, made, rfl⟩
    refine ⟨.unusableName fault, ?_⟩
    rw [session_of_holds holds, produce]
    simp only [product, unusable]

theorem ending_of_makes {content : Content} (h : Makes settings arguments files content) :
    (session settings arguments files).ending =
      .made ⟨outputName settings arguments, content⟩ := by
  obtain ⟨⟨text, holds, made⟩, usable⟩ := h
  have product : (makeProduct settings.files arguments.format arguments.output text).result = _ :=
    makeProduct_eq_ok_iff.mpr ⟨content, made, rfl⟩
  rw [session_of_holds holds, produce]
  simp only [product, usable]

/-! ### Runs -/

/-- A run whose first line is shown tells all lines of its session. -/
theorem run_eq (first : console.Shows (.reading arguments.input)) :
    run console settings arguments files =
      let s := session settings arguments files
      let rest := perform console s.ending.stop s.ending.effects
      ⟨s.lines.map .tell ++ rest.effects, rest.stop⟩ :=
  perform_tells _ (Console.shows_of_mem_lines first)

theorem run_of_unmade (first : console.Shows (.reading arguments.input))
    (unmade : (session settings arguments files).ending.effects = []) :
    run console settings arguments files =
      ⟨(session settings arguments files).lines.map .tell,
        (session settings arguments files).ending.stop⟩ := by
  rw [run_eq first]
  dsimp only
  rw [unmade, perform, List.append_nil]

theorem writes_of_unmade (first : console.Shows (.reading arguments.input))
    (unmade : (session settings arguments files).ending.effects = []) :
    (run console settings arguments files).writes = [] := by
  rw [run_of_unmade first unmade, Run.writes, filterMap_tells]

/-- **A product** is written to its file. Then it is told to be saved, if the console shows that. -/
theorem run_of_makes {content : Content} (h : Makes settings arguments files content)
    (first : console.Shows (.reading arguments.input)) :
    (run console settings arguments files).writes =
        [(outputName settings arguments, content.bytes)] ∧
      (run console settings arguments files).stop.exitCode? =
        if console.Shows (.saved (outputName settings arguments)) then some 0 else none := by
  rw [run_eq first]
  dsimp only
  rw [ending_of_makes h, Run.writes, List.filterMap_append, filterMap_tells, Ending.effects,
    Ending.stop, perform]
  by_cases told : console.Shows (.saved (outputName settings arguments))
  · have rest : perform console (.exit 0) [.tell (.saved (outputName settings arguments))] =
        ⟨[.tell (.saved (outputName settings arguments))], .exit 0⟩ :=
      perform_tells [] (List.forall_mem_singleton.mpr told)
    rw [rest, if_pos told]
    exact ⟨rfl, rfl⟩
  · rw [perform_unshown [] told, if_neg told]
    exact ⟨rfl, rfl⟩

theorem exists_lines_session : ∃ lines, (session settings arguments files).lines =
    .reading arguments.input :: lines := by
  unfold session work
  dsimp only
  split
  · exact ⟨_, rfl⟩
  · exact ⟨_, rfl⟩
  · split <;> exact ⟨_, rfl⟩

theorem run_of_breaksDown (h : BreaksDown console settings arguments files) :
    (run console settings arguments files).stop.exitCode? = none ∧
      (run console settings arguments files).writes = [] := by
  by_cases first : console.Shows (.reading arguments.input)
  · obtain ⟨breakdown, ending⟩ := ending_of_breaksDown h first
    have unmade : (session settings arguments files).ending.effects = [] := by rw [ending]; rfl
    refine ⟨?_, writes_of_unmade first unmade⟩
    rw [run_of_unmade first unmade, ending]
    rfl
  · obtain ⟨lines, start⟩ : ∃ lines, (session settings arguments files).lines =
      .reading arguments.input :: lines := exists_lines_session
    have stopped : run console settings arguments files =
        ⟨[], .unshown (.reading arguments.input)⟩ := by
      rw [run, Session.run, start]
      exact perform_unshown _ first
    rw [stopped]
    exact ⟨rfl, rfl⟩

theorem run_of_savesUntold (h : SavesUntold console settings arguments files) :
    (run console settings arguments files).stop.exitCode? = none ∧
      ∃ content, Makes settings arguments files content ∧
        (run console settings arguments files).writes =
          [(outputName settings arguments, content.bytes)] := by
  obtain ⟨⟨content, makes⟩, first, c, there, lacking⟩ := h
  obtain ⟨writes, code⟩ := run_of_makes makes first
  have untold : ¬ console.Shows (.saved (outputName settings arguments)) := fun told => by
    cases ((Console.shows_saved_iff first).mp told c there).symm.trans lacking
  exact ⟨code.trans (if_neg untold), content, makes, writes⟩

/-- **A run** saves its product, fails, breaks down, or saves its product without telling it. -/
theorem run_cases :
    Saves console settings arguments files ∨ Fails console settings arguments files ∨
      BreaksDown console settings arguments files ∨
      SavesUntold console settings arguments files := by
  by_cases first : console.Shows (.reading arguments.input)
  · rcases session_cases console with ⟨content, makes⟩ | ⟨lines, line, ends, error⟩ | breaksDown
    · obtain ⟨writes, code⟩ := run_of_makes makes first
      by_cases told : console.Shows (.saved (outputName settings arguments))
      · exact Or.inl ⟨content, makes, code.trans (if_pos told), writes⟩
      · simp only [Console.shows_saved_iff first, not_forall, Bool.not_eq_true, exists_prop] at told
        exact Or.inr (Or.inr (Or.inr ⟨⟨content, makes⟩, first, told⟩))
    · have unmade : (session settings arguments files).ending.effects = [] := by rw [ends]; rfl
      have stopped := run_of_unmade first unmade
      refine Or.inr (Or.inl ⟨⟨line, ?_, error⟩, ?_, writes_of_unmade first unmade⟩)
      · rw [stopped, ends, List.map_append]
        exact List.getLast?_concat
      · rw [stopped, ends]
        rfl
    · exact Or.inr (Or.inr (Or.inl breaksDown))
  · rw [Console.shows_reading_iff] at first
    cases sign : console.shows '📄' with
    | false => exact Or.inr (Or.inr (Or.inl (.sign sign)))
    | true =>
      simp only [sign, true_and, not_forall, Bool.not_eq_true] at first
      obtain ⟨c, there, lacking⟩ := first
      exact Or.inr (Or.inr (Or.inl (.name there lacking)))

end

/-- **A run ends cleanly** unless something breaks it down or the console can not show that the
product is saved: with the product in one file, or with an error. If it breaks down, there is no
exit code, and no file is written; if only the last line is not shown, there is no exit code, and
the file is written. -/
theorem endsCleanly_iff (console : Console) (settings : Settings) (arguments : Arguments)
    (files : Files) :
    ((Saves console settings arguments files ∨ Fails console settings arguments files) ↔
      ¬ BreaksDown console settings arguments files ∧
        ¬ SavesUntold console settings arguments files) ∧
    (BreaksDown console settings arguments files →
      (run console settings arguments files).stop.exitCode? = none ∧
        (run console settings arguments files).writes = []) ∧
    (SavesUntold console settings arguments files →
      (run console settings arguments files).stop.exitCode? = none ∧
        ∃ content, Makes settings arguments files content ∧
          (run console settings arguments files).writes =
            [(outputName settings arguments, content.bytes)]) := by
  refine ⟨⟨fun clean => ?_, fun ⟨whole, told⟩ => ?_⟩, run_of_breaksDown, run_of_savesUntold⟩
  · have code : ∃ code, (run console settings arguments files).stop.exitCode? = some code := by
      rcases clean with ⟨_, _, saved, _⟩ | ⟨_, failed, _⟩
      · exact ⟨0, saved⟩
      · exact ⟨1, failed⟩
    obtain ⟨code, exits⟩ := code
    refine ⟨fun h => ?_, fun h => ?_⟩
    · cases exits.symm.trans (run_of_breaksDown h).1
    · cases exits.symm.trans (run_of_savesUntold h).1
  · rcases run_cases with saves | fails | breaksDown | savesUntold
    · exact Or.inl saves
    · exact Or.inr fails
    · exact (whole breaksDown).elim
    · exact (told savesUntold).elim

/-- A byte that begins no character breaks a run down: no error is told, and there is no exit code.
-/
theorem run_badByte :
    let r := run (.ofRepertoire .characters) {} { input := "t.txt".toText } fun _ => .ok [0xff]
    r.effects = [.tell (.reading "t.txt".toText)] ∧ r.stop.exitCode? = none := by
  decide +kernel

end ExamPress.CommandLine
