import ExamPress.CommandLine.Session

/-! # The command

Reads the settings and the input, prints what the session tells, and writes the product to a file.
-/

namespace ExamPress.CommandLine

/-- A text as it is shown: surrogates have no form, and a character stands for each. -/
def shown (text : Text) : String :=
  String.ofList (text.map fun c => match c with
    | .char c => c
    | .surrogate _ => '\uFFFD')

/-- An error of the system, if it has a number. -/
def fileError? : IO.Error → Option FileError
  | .alreadyExists _ code reason | .interrupted _ code reason | .noFileOrDirectory _ code reason
  | .invalidArgument _ code reason | .permissionDenied _ code reason
  | .resourceExhausted _ code reason | .inappropriateType _ code reason
  | .noSuchThing _ code reason | .otherError code reason | .resourceBusy code reason
  | .resourceVanished code reason | .unsupportedOperation code reason | .hardwareFault code reason
  | .unsatisfiedConstraints code reason | .illegalOperation code reason
  | .protocolError code reason | .timeExpired code reason => some ⟨code.toNat, reason, true⟩
  | .unexpectedEof | .userError _ => none

/-- The bytes of a file. -/
def readBytes (name : String) : IO (Except FileError (List Nat)) := do
  try
    let bytes ← IO.FS.readBinFile name
    return .ok (bytes.toList.map UInt8.toNat)
  catch e =>
    match fileError? e with
    | some error => return .error error
    | none => throw e

/-- The number of the system's error for a file that does not exist. -/
def missingCode : Nat := 2

/-- The bytes of a file that may be missing. -/
def readIfThere (name : String) : IO (Except FileError (Option (List Nat))) := do
  match ← readBytes name with
  | .ok bytes => return .ok (some bytes)
  | .error e => return if e.number = missingCode then .ok none else .error e

/-- Prints a line. -/
def printLine (text : Text) : IO Unit := IO.println (shown text)

/-- Prints a line on the standard error. -/
def printError (text : Text) : IO Unit := IO.eprintln (shown text)

/-- Does what the command does. -/
def Effect.perform : Effect → IO Unit
  | tell line => printLine line.text
  | write name bytes => IO.FS.writeBinFile (shown name) ⟨(bytes.map Nat.toUInt8).toArray⟩

/-- The wording of what stops the command without an exit code of its own. -/
def Stop.message? : Stop → Option Text
  | exit _ => none
  | unshown line => match Text.Utf8.check line.text with
    | .ok _ => none
    | .error fault => some fault.message
  | broken breakdown => some breakdown.message

/-- The exit code for a stop without one. -/
def brokenCode : Nat := 1

/-- Works on an input with some settings. -/
def workWith (settings : Settings) (arguments : Arguments) : IO UInt32 := do
  let input ← readBytes (shown arguments.input)
  let run := (work settings arguments input).run (.ofRepertoire .characters)
  for effect in run.effects do
    effect.perform
  if let some message := run.stop.message? then
    printError message
  return (run.stop.exitCode?.getD brokenCode).toUInt32

/-- The file with the settings. -/
def settingsName : String := "config.yaml"

/-- Works on an input with the settings of the working directory and the environment. -/
def workOn (arguments : Arguments) : IO UInt32 := do
  let file ← readIfThere settingsName
  let key ← IO.getEnv "GEMINI_API_KEY"
  match file with
  | .error e =>
    printError (e.message settingsName.toText)
    return brokenCode.toUInt32
  | .ok file =>
    match Settings.load file (key.map String.toText) with
    | .error e =>
      printError e.message
      return brokenCode.toUInt32
    | .ok settings => workWith settings arguments

end ExamPress.CommandLine

open ExamPress ExamPress.CommandLine

/-- Runs the command. -/
def main (arguments : List String) : IO UInt32 := do
  match parse (arguments.map String.toText) with
  | .error e =>
    printError usageLine.toText
    printError e.line
    return 2
  | .ok .help =>
    for line in usage do
      IO.println line
    return 0
  | .ok (.work arguments) => workOn arguments
