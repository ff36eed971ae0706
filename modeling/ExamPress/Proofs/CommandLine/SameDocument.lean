import ExamPress.Proofs.CommandLine.Endings
import ExamPress.Proofs.Document.Source
import ExamPress.Proofs.Service.Downloads
import ExamPress.Proofs.Service.Uploads
import ExamPress.Proofs.Word.Failure

/-! # The same document

A document of a text is made by the command, of a file that holds the text, or by the service, for a
request with the text. The command reads the text with its line ends unified, which makes no
difference if all carriage returns are at the ends of lines. Then both ways end alike: with the same
document under the same name, or with the same wording of what is wrong (`endAlike_iff`). Only the
name can part them, if it has a character that has no place in the name of a file, or no UTF-8 form:
then a document is made that can not be written, or not be sent. -/

namespace ExamPress.CommandLine

open Service (Request Response HasUtf8Form hasUtf8Form_toText)

/-! ### Names -/

/-- A name for files and for headers: each of its characters has a UTF-8 form, and none is null. -/
structure IsPlainName (name : Text) : Prop where
  utf8 : HasUtf8Form name
  noNull : (.char '\x00' : CodePoint) ∉ name

theorem checkName_eq_ok_iff {name : Text} (utf8 : HasUtf8Form name) :
    checkName name = .ok name ↔ (.char '\x00' : CodePoint) ∉ name := by
  have fits : name.dropWhile fitsName = [] :=
    List.dropWhile_eq_nil_iff.mpr fun c hc => by simp [fitsName, utf8 c hc]
  simp [checkName, fits]

theorem isPlainName_iff {name : Text} :
    IsPlainName name ↔ HasUtf8Form name ∧ checkName name = .ok name := by
  constructor
  · rintro ⟨utf8, noNull⟩
    exact ⟨utf8, (checkName_eq_ok_iff utf8).mpr noNull⟩
  · rintro ⟨utf8, usable⟩
    exact ⟨utf8, (checkName_eq_ok_iff utf8).mp usable⟩

/-! ### One task in two ways -/

/-- The command and a request are about the document of the same text, under the same name. The
command finds the text in a file. -/
structure SameTask (arguments : Arguments) (files : Files) (r : Request) (text : Text) : Prop where
  format : arguments.format = .document
  usable : checkName arguments.input = .ok arguments.input
  opened : files arguments.input = .ok (Text.Utf8.encode text)
  asks : r.Asks .generateDocument
  reads : r.generation = .ok ⟨text, arguments.output⟩

/-- A session and what becomes of a request end alike: a document is saved and answered under a
name, or what is wrong is told and answered in the same wording. -/
inductive EndAlike (name : Text) (session : Session) :
    Except Service.Breakdown Response → Prop
  | made {file : Word.File} {response : Response}
      (saved : session.ending = .made ⟨name, .document file⟩)
      (status : response.status = 200) (body : response.body = .download (.document file))
      (names : response.NamesDownload name) : EndAlike name session (.ok response)
  | failed {fault : Word.Fault} {response : Response}
      (told : session.lines.getLast? = some (.failed fault.summary))
      (unmade : session.ending = .failed) (status : response.status = 500)
      (body : response.body = .json (.obj [("detail".toText, .str fault.summary)])) :
      EndAlike name session (.ok response)

namespace EndAlike

variable {name : Text} {session : Session} {result : Except Service.Breakdown Response}

theorem exists_response (h : EndAlike name session result) :
    ∃ response, result = .ok response := by
  cases h with
  | made => exact ⟨_, rfl⟩
  | failed => exact ⟨_, rfl⟩

theorem exitCode_ne_none (h : EndAlike name session result) :
    session.ending.stop.exitCode? ≠ none := by
  cases h with
  | made saved =>
    rw [saved]
    exact nofun
  | failed _ unmade =>
    rw [unmade]
    exact nofun

end EndAlike

section

variable {settings : Settings} {server : Exchange.Server} {arguments : Arguments} {files : Files}
  {r : Request} {text : Text}

theorem makeProduct_universalNewlines (returns : text.ReturnsEndLines) (settings : FileSettings)
    (wanted : Option Text) :
    makeProduct settings .document wanted (Text.universalNewlines text) =
      makeProduct settings .document wanted text := by
  have same : Document.ofText (Text.universalNewlines text) = Document.ofText text :=
    ofText_universalNewlines returns []
  simp only [makeProduct, makeDocument, same]

namespace SameTask

theorem session_eq (task : SameTask arguments files r text) (utf8 : HasUtf8Form text)
    (returns : text.ReturnsEndLines) :
    session settings arguments files = ⟨.reading arguments.input ::
      (produce settings arguments text).lines, (produce settings arguments text).ending⟩ := by
  have holds : files.Holds arguments.input (Text.universalNewlines text) :=
    ⟨task.usable, _, text, task.opened, Text.Utf8.decode_encode utf8, rfl⟩
  have same : produce settings arguments (Text.universalNewlines text) =
      produce settings arguments text := by
    rw [produce, task.format, makeProduct_universalNewlines returns, produce, task.format]
  rw [session_of_holds holds, same]

/-! ### Documents that can be made -/

theorem makeProduct_of_rendered (task : SameTask arguments files r text) {file : Word.File}
    (rendered : (Word.render (.ofText text)).result = .ok file) :
    (makeProduct settings.files .document arguments.output text).result =
      .ok ⟨outputName settings arguments, .document file⟩ := by
  rw [← task.format]
  refine makeProduct_eq_ok_iff.mpr ⟨.document file, ?_, rfl⟩
  rw [task.format]
  exact .document rendered

theorem ending_of_rendered (task : SameTask arguments files r text) (utf8 : HasUtf8Form text)
    (returns : text.ReturnsEndLines) {file : Word.File}
    (rendered : (Word.render (.ofText text)).result = .ok file) (settings : Settings) :
    (session settings arguments files).ending =
      match checkName (outputName settings arguments) with
      | .ok _ => .made ⟨outputName settings arguments, .document file⟩
      | .error fault => .broken (.unusableName fault) := by
  rw [task.session_eq utf8 returns, produce, task.format]
  simp only [task.makeProduct_of_rendered rendered]
  cases checkName (outputName settings arguments) <;> rfl

theorem seeks_of_rendered (task : SameTask arguments files r text)
    (blank : Text.isAllBlank text = false) {file : Word.File}
    (rendered : (Word.render (.ofText text)).result = .ok file) (settings : Settings)
    (server : Exchange.Server) :
    r.Seeks settings server .document arguments.output
      (.ok ⟨outputName settings arguments, .document file⟩) := by
  rw [← task.makeProduct_of_rendered rendered]
  exact .document task.asks task.reads blank

/-- A document with a plain name is saved and answered; with any other name, the command or the
service breaks down. -/
theorem endAlike_iff_of_rendered (task : SameTask arguments files r text) (utf8 : HasUtf8Form text)
    (returns : text.ReturnsEndLines) (blank : Text.isAllBlank text = false) {file : Word.File}
    (rendered : (Word.render (.ofText text)).result = .ok file) :
    EndAlike (outputName settings arguments) (session settings arguments files)
        (Service.handle settings server r).result ↔
      IsPlainName (outputName settings arguments) := by
  have ending := task.ending_of_rendered utf8 returns rendered settings
  have seeks := task.seeks_of_rendered blank rendered settings server
  generalize outputName settings arguments = name at ending seeks ⊢
  constructor
  · intro alike
    have named : HasUtf8Form name := by
      by_contra surrogate
      obtain ⟨fault, unanswered⟩ := Service.unencodable_of_seeks seeks surrogate
      obtain ⟨response, answered⟩ := alike.exists_response
      cases answered.symm.trans unanswered
    cases usable : checkName name with
    | ok usableName =>
      obtain rfl := checkName_eq_ok usable
      exact isPlainName_iff.mpr ⟨named, usable⟩
    | error fault =>
      rw [usable] at ending
      exact (alike.exitCode_ne_none (congrArg (fun e => e.stop.exitCode?) ending)).elim
  · intro plain
    have named : HasUtf8Form (Product.mk name (.document file)).name := plain.utf8
    obtain ⟨response, made, sent, status, names⟩ := Service.namesDownload_productResponse named
    have answered : (Service.handle settings server r).result = .ok (response.forOrigin r) := by
      rw [Service.result_of_seeks seeks, Service.productResult, made]
      simp only [Except.bind, sent, Except.map]
    rw [(isPlainName_iff.mp plain).2] at ending
    rw [answered]
    refine .made ending ?_ ?_ ?_
    · rw [Service.status_forOrigin, status]
    · rw [Service.body_forOrigin, Service.body_of_productResponse made]
    · rwa [Response.NamesDownload, Service.header_forOrigin]

/-! ### Documents that can not be made -/

/-- What is wrong with a text is told and answered in the same wording, whatever the name is. -/
theorem endAlike_of_fault (task : SameTask arguments files r text) (utf8 : HasUtf8Form text)
    (returns : text.ReturnsEndLines) (blank : Text.isAllBlank text = false) {fault : Word.Fault}
    (failed : (Word.render (.ofText text)).result = .error fault) :
    EndAlike (outputName settings arguments) (session settings arguments files)
      (Service.handle settings server r).result := by
  have unmade : (makeProduct settings.files .document arguments.output text).result =
      .error (.document fault) := by
    simp only [makeProduct, makeDocument, failed]
    rfl
  have seeks : r.Seeks settings server .document arguments.output (.error (.document fault)) :=
    unmade ▸ .document task.asks task.reads blank
  have ends : session settings arguments files = ⟨.reading arguments.input ::
      ((makeProduct settings.files .document arguments.output text).log.map Line.event ++
        [.failed fault.summary]), .failed⟩ := by
    rw [task.session_eq utf8 returns, produce, task.format]
    simp only [unmade]
    rfl
  have worded : HasUtf8Form fault.summary := by
    obtain rfl := Word.failsOnly_renderParagraphs_ofText utf8 fault (Word.result_eq_error.mp failed)
    exact (hasUtf8Form_toText _).append (hasUtf8Form_toText _)
  have answered : (Service.handle settings server r).result =
      .ok ((Response.refusal 500 fault.summary).forOrigin r) := by
    rw [Service.result_of_seeks seeks, Service.productResult, Service.conversionResult,
      Service.documentResult]
    simp only [Except.bind, Service.check_refusal worded, Except.map]
  rw [answered]
  have told : (session settings arguments files).lines.getLast? =
      some (.failed fault.summary) := by
    rw [ends, ← List.cons_append, List.getLast?_concat]
  refine .failed told ?_ ?_ ?_
  · rw [ends]
  · rw [Service.status_forOrigin]
    rfl
  · rw [Service.body_forOrigin]
    rfl

end SameTask

/-- **The same document.** For a text whose returns are all at the ends of lines, the command and
the service end alike exactly if the text can not be rendered or its document has a plain name. -/
theorem endAlike_iff (task : SameTask arguments files r text) (utf8 : HasUtf8Form text)
    (returns : text.ReturnsEndLines) (blank : Text.isAllBlank text = false) :
    EndAlike (outputName settings arguments) (session settings arguments files)
        (Service.handle settings server r).result ↔
      (∃ fault, (Word.render (.ofText text)).result = .error fault) ∨
        IsPlainName (outputName settings arguments) := by
  cases h : (Word.render (.ofText text)).result with
  | ok file =>
    rw [task.endAlike_iff_of_rendered utf8 returns blank h]
    exact (or_iff_right nofun).symm
  | error fault => exact iff_of_true (task.endAlike_of_fault utf8 returns blank h) (Or.inl ⟨_, rfl⟩)

end

/-- A heading and a formula in lines that end with CR LF. -/
def twoLines : String := "## Q\r\n$x^2$"

theorem endAlike_iff_twoLines :
    let arguments : Arguments := { input := "t.txt".toText, output := some "Set 1".toText }
    let files : Files := fun _ => .ok (Text.Utf8.encode twoLines.toText)
    let r := Service.documentRequest twoLines
    (SameTask arguments files r twoLines.toText ∧ HasUtf8Form twoLines.toText ∧
      twoLines.toText.ReturnsEndLines ∧ Text.isAllBlank twoLines.toText = false) ∧
    EndAlike "Set 1.docx".toText (session {} arguments files)
      (Service.handle {} (fun _ => Extraction.goodReply) r).result := by
  intro arguments files r
  have asks : r.Asks .generateDocument := ⟨rfl, by decide +kernel⟩
  have reads : r.generation = .ok ⟨twoLines.toText, some "Set 1".toText⟩ :=
    toOption_eq_some.mp (by decide +kernel)
  have task : SameTask arguments files r twoLines.toText := ⟨rfl, by decide, rfl, asks, reads⟩
  have returns : twoLines.toText.ReturnsEndLines := by decide
  have blank : Text.isAllBlank twoLines.toText = false := by decide
  have utf8 := hasUtf8Form_toText twoLines
  have plain : IsPlainName (outputName {} arguments) :=
    ⟨hasUtf8Form_toText "Set 1.docx", by decide⟩
  exact ⟨⟨task, utf8, returns, blank⟩, (endAlike_iff task utf8 returns blank).mpr (Or.inr plain)⟩

/-- A name with a null character: the service sends the document, but no file can have the name. -/
theorem not_endAlike_nullName :
    let arguments : Arguments := { input := "t.txt".toText, output := some "a\x00b".toText }
    let files : Files := fun _ => .ok (Text.Utf8.encode "[]".toText)
    let r := Service.namedRequest "/generate-docx" "a\\u0000b"
    let result := (Service.handle {} (fun _ => Extraction.goodReply) r).result
    (SameTask arguments files r "[]".toText ∧ HasUtf8Form "[]".toText ∧
      "[]".toText.ReturnsEndLines ∧ Text.isAllBlank "[]".toText = false) ∧
    result.toOption.map Response.status = some 200 ∧
    ¬ EndAlike (outputName {} arguments) (session {} arguments files) result := by
  intro arguments files r result
  have asks : r.Asks .generateDocument := ⟨rfl, by decide +kernel⟩
  have reads : r.generation = .ok ⟨"[]".toText, some "a\x00b".toText⟩ :=
    toOption_eq_some.mp (by decide +kernel)
  have broken : (session {} arguments files).ending.stop.exitCode? = none := by decide +kernel
  refine ⟨⟨⟨rfl, by decide, rfl, asks, reads⟩, hasUtf8Form_toText "[]", by decide, by decide⟩, ?_,
    fun alike => alike.exitCode_ne_none broken⟩
  decide +kernel

end ExamPress.CommandLine
