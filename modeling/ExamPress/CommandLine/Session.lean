import ExamPress.CommandLine.Arguments
import ExamPress.Conversion.Run
import ExamPress.Settings.Load

/-! # Sessions

What the command does with an input file: it tells what it reads, makes the product, and tells what
is wrong if it can not. A product is written to a file, and then the command tells that it is saved.
All this is told on a console, which need not be able to show each line. The first line that it can
not show stops the command. -/

namespace ExamPress.CommandLine

/-- An error of the system with a file: its number and its wording. An error at opening the file
names it, one at reading does not. -/
structure FileError where
  number : Nat
  reason : String
  isNamed : Bool
deriving DecidableEq, Repr

/-- The wording of an error with a file. -/
def FileError.message (e : FileError) (name : Text) : Text :=
  let message := s!"[Errno {e.number}] {e.reason}".toText
  if e.isNamed then message ++ ": ".toText ++ Text.Quoted.quote name else message

/-- Why a text can name no file. -/
inductive NameFault where
  | unencodable (fault : Text.Unencodable)
  | holdsNull
deriving DecidableEq, Repr

/-- The wording of a fault in a name. -/
def NameFault.message : NameFault → Text
  | unencodable fault => fault.message
  | holdsNull => "embedded null byte".toText

/-- Whether a code point has a place in the name of a file. Surrogates have none, but for those that
stand for the single bytes above ASCII. -/
def fitsName (c : CodePoint) : Bool :=
  !c.isSurrogate || (0xdc80 ≤ c.toNat && c.toNat ≤ 0xdcff)

/-- A text that can name a file, or why it can not. -/
def checkName (name : Text) : Except NameFault Text :=
  match name.dropWhile fitsName with
  | [] => if name.contains '\x00' then .error .holdsNull else .ok name
  | rest =>
    let stretch := rest.takeWhile CodePoint.isSurrogate
    .error (.unencodable ⟨.characters, name.length - rest.length, stretch⟩)

/-- What the command does not deal with. -/
inductive Breakdown where
  | undecodable (stretch : Text.Malformed)
  | unreadableTable (error : Json.ReadError)
  | tallTable (row : Nat)
  | unusableName (fault : NameFault)
deriving DecidableEq, Repr

/-- The wording of a breakdown. -/
def Breakdown.message : Breakdown → Text
  | undecodable stretch => stretch.message.toText
  | unreadableTable error => error.message.toText
  | tallTable row => (Table.Fault.tooTall row).message
  | unusableName fault => fault.message

/-- How a session ends. -/
inductive Ending where
  | made (product : Product)
  | failed
  | broken (breakdown : Breakdown)

/-- A line on the standard output. -/
inductive Line where
  | reading (input : Text)
  | unreadable (error : FileError) (input : Text)
  | event (event : Word.Event)
  | failed (message : Text)
  | saved (name : Text)
deriving DecidableEq, Repr

/-- The text of a line. -/
def Line.text : Line → Text
  | reading input => "📄 Reading '".toText ++ input ++ "'...".toText
  | unreadable error input =>
    "Error: cannot read input file -> ".toText ++ error.message input
  | event e => e.message
  | failed message => "❌ Generation failed: ".toText ++ message
  | saved name => "🎉 Saved '".toText ++ name ++ "'.".toText

/-- A session: the lines before its end, and the end. -/
structure Session where
  lines : List Line
  ending : Ending

/-- The ending for a problem with the product, with the line that tells it. -/
def endingOf : ConversionProblem → List Line × Ending
  | .workbook (.refused (.unreadable (.tooManyDigits count))) =>
    ([], .broken (.unreadableTable (.tooManyDigits count)))
  | .workbook (.unwritable (.tooTall row)) => ([], .broken (.tallTable row))
  | .workbook problem => ([.failed problem.message], .failed)
  | .document fault => ([.failed fault.summary], .failed)
  | .extraction problem => ([.failed problem.message], .failed)

/-- The session that makes a product of a text. -/
def produce (settings : Settings) (arguments : Arguments) (text : Text) : Session :=
  let making := makeProduct settings.files arguments.format arguments.output text
  let events := making.log.map Line.event
  match making.result with
  | .ok product =>
    match checkName product.name with
    | .ok _ => ⟨events, .made product⟩
    | .error fault => ⟨events, .broken (.unusableName fault)⟩
  | .error problem =>
    let (lines, ending) := endingOf problem
    ⟨events ++ lines, ending⟩

/-- The session for a file with some content. -/
def work (settings : Settings) (arguments : Arguments) (file : Except FileError (List Nat)) :
    Session :=
  let start := Line.reading arguments.input
  match checkName arguments.input, file with
  | .error fault, _ => ⟨[start], .broken (.unusableName fault)⟩
  | .ok _, .error e => ⟨[start, .unreadable e arguments.input], .failed⟩
  | .ok _, .ok bytes =>
    match Text.Utf8.decode bytes with
    | .error stretch => ⟨[start], .broken (.undecodable stretch)⟩
    | .ok text =>
      let session := produce settings arguments (Text.universalNewlines text)
      ⟨start :: session.lines, session.ending⟩

/-! ### Consoles -/

/-- A console, by the code points that it can show. The first line of a session begins with a sign
that only a coding of all characters has. Surrogates need not be among what such a coding has. -/
structure Console where
  shows : CodePoint → Bool
  shows_of_sign : shows '📄' = true → ∀ c, c.isSurrogate = false → shows c = true

/-- The console that shows just the code points that a coding has a form for. -/
def Console.ofRepertoire (r : Text.Repertoire) : Console where
  shows := r.contains
  shows_of_sign sign c hc := by
    cases r with
    | ascii => exact absurd sign (by decide)
    | characters => simp [Text.Repertoire.contains, hc]

/-- Something that the command does. -/
inductive Effect where
  | tell (line : Line)
  | write (name : Text) (bytes : List Nat)
deriving DecidableEq, Repr

/-- How the command stops: with an exit code, at a line that can not be shown, or by a breakdown. -/
inductive Stop where
  | exit (code : Nat)
  | unshown (line : Line)
  | broken (breakdown : Breakdown)
deriving DecidableEq, Repr

/-- The exit code, if the command stops with one. -/
def Stop.exitCode? : Stop → Option Nat
  | exit code => some code
  | unshown _ | broken _ => none

/-- A run of the command: what it does, in order, and how it stops. -/
structure Run where
  effects : List Effect
  stop : Stop

/-- A run before which something is done. -/
def Run.after (run : Run) (effect : Effect) : Run := ⟨effect :: run.effects, run.stop⟩

/-- The run with some effects and a way to stop behind them. -/
def perform (console : Console) (stop : Stop) : List Effect → Run
  | [] => ⟨[], stop⟩
  | .tell line :: effects =>
    if line.text.all console.shows then (perform console stop effects).after (.tell line)
    else ⟨[], .unshown line⟩
  | .write name bytes :: effects => (perform console stop effects).after (.write name bytes)

/-- What is done at an end. -/
def Ending.effects : Ending → List Effect
  | made product => [.write product.name product.content.bytes, .tell (.saved product.name)]
  | failed | broken _ => []

/-- How the command stops after an end. -/
def Ending.stop : Ending → Stop
  | made _ => .exit 0
  | failed => .exit 1
  | broken breakdown => .broken breakdown

/-- The run of a session on a console. -/
def Session.run (s : Session) (console : Console) : Run :=
  perform console s.ending.stop (s.lines.map .tell ++ s.ending.effects)

end ExamPress.CommandLine
