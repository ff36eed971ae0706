import ExamPress.Extraction.Prompt
import ExamPress.Text.Digit
import ExamPress.Text.Quoted

/-! # Arguments

The command takes one input file, and options for the name of the output and for its format. An
option may be shortened as long as it is the only one that starts so; its argument follows as the
next word, after an equals sign, or, for a single letter, at once. After two dashes every word is
an input. -/

namespace ExamPress.CommandLine

/-- The options. -/
inductive Flag where
  | help
  | output
  | format
deriving DecidableEq, Repr

/-- The option names, in the order in which they are told. -/
def flagNames : List (String × Flag) :=
  [("-h", .help), ("--help", .help), ("-o", .output), ("--output", .output), ("--format", .format)]

/-- How an option is called in a message. -/
def Flag.title : Flag → String
  | help => "-h/--help"
  | output => "-o/--output"
  | format => "--format"

/-- What the command is asked to do with an input. -/
structure Arguments where
  input : Text
  output : Option Text := none
  format : OutputFormat := .document
deriving DecidableEq, Repr

/-- Why words are no arguments of the command. -/
inductive UsageError where
  | ambiguous (word : Text) (names : List String)
  | argumentExpected (flag : Flag)
  | argumentIgnored (flag : Flag) (argument : Text)
  | invalidFormat (word : Text)
  | inputMissing
  | unrecognized (words : List Text)
deriving DecidableEq, Repr

/-- The wording of an error. -/
def UsageError.message : UsageError → Text
  | ambiguous word names =>
    "ambiguous option: ".toText ++ word ++
      (" could match " ++ String.intercalate ", " names).toText
  | argumentExpected flag => s!"argument {flag.title}: expected one argument".toText
  | argumentIgnored flag argument =>
    s!"argument {flag.title}: ignored explicit argument ".toText ++ Text.Quoted.quote argument
  | invalidFormat word =>
    "argument --format: invalid choice: ".toText ++ Text.Quoted.quote word ++
      " (choose from 'docx', 'excel')".toText
  | inputMissing => "the following arguments are required: input".toText
  | unrecognized words =>
    "unrecognized arguments: ".toText ++ Text.joinWith " ".toText words

/-! ### Words -/

/-- An argument that is written into the word of an option, and whether the option has its long
name there. -/
structure Attached where
  text : Text
  long : Bool
deriving DecidableEq, Repr

/-- What a word is. -/
inductive Word where
  | plain (text : Text)
  | option (flag : Flag) (attached : Option Attached)
  | unknown (text : Text)
  | mark
deriving DecidableEq, Repr

/-- The option of a name. -/
def flagOf? (name : Text) : Option Flag :=
  (flagNames.find? fun entry => entry.1.toText = name).map Prod.snd

/-- Whether a name is a long one. -/
def isLong (name : Text) : Bool := Text.startsWith name "--".toText

/-- A word cut at its first equals sign. -/
def splitEquals (word : Text) : Text × Option Attached :=
  let name := word.takeWhile fun (c : CodePoint) => c != '='
  match word.drop name.length with
  | _ :: rest => (name, some ⟨rest, isLong name⟩)
  | [] => (name, none)

/-- Whether a word is a negative number, in the digits of any script. A line end may follow it. -/
def isNegativeNumber (word : Text) : Bool :=
  match word with
  | .char '-' :: rest =>
    let number := if rest.getLast? = some '\n' then rest.dropLast else rest
    let whole := number.takeWhile Text.isDecimal
    match number.drop whole.length with
    | [] => !whole.isEmpty
    | .char '.' :: places => !places.isEmpty && places.all Text.isDecimal
    | _ => false
  | _ => false

/-- The options that a word of at least two characters may stand for, with their names and what is
attached. -/
def candidates (word : Text) : List (String × Flag × Option Attached) :=
  if isLong word then
    let (name, attached) := splitEquals word
    (flagNames.filter fun entry => Text.startsWith entry.1.toText name).map
      fun (full, flag) => (full, flag, attached)
  else
    (flagNames.filter fun entry => entry.1.toText = word.take 2).map
      fun (full, flag) => (full, flag, some ⟨word.drop 2, false⟩)

/-- What a word is that starts with a dash and is not two dashes. -/
def dashedWord (word : Text) : Except UsageError Word :=
  match flagOf? word, splitEquals word with
  | some flag, _ => .ok (.option flag none)
  | none, (name, attached) =>
    if word.length = 1 then .ok (.plain word)
    else
      match attached, flagOf? name with
      | some attached, some flag => .ok (.option flag (some attached))
      | _, _ =>
        match candidates word with
        | [(_, flag, attached)] => .ok (.option flag attached)
        | [] =>
          if isNegativeNumber word ∨ word.contains ' ' then .ok (.plain word)
          else .ok (.unknown word)
        | several => .error (.ambiguous word (several.map Prod.fst))

/-- What the words of the command are. -/
def classify : List Text → Except UsageError (List Word)
  | [] => .ok []
  | word :: words =>
    if word = "--".toText then .ok (.mark :: words.map .plain)
    else do
      let first ← if word.head? = some '-' then dashedWord word else .ok (.plain word)
      let rest ← classify words
      return first :: rest

/-! ### Reading -/

/-- What is read so far: the input and the options, and words that have no place. -/
structure Reading where
  input : Option Text := none
  output : Option Text := none
  format : OutputFormat := .document
  extra : List Text := []

/-- What the command is asked for: its usage, or to work. -/
inductive Command where
  | help
  | work (arguments : Arguments)
deriving DecidableEq, Repr

/-- The reading with the argument of an option. -/
def Reading.set (r : Reading) (flag : Flag) (argument : Text) : Except UsageError Reading :=
  match flag with
  | .help => .ok r
  | .output => .ok { r with output := some argument }
  | .format =>
    match OutputFormat.ofWord? argument with
    | some format => .ok { r with format }
    | none => .error (.invalidFormat argument)

/-- The reading with an argument that is attached to an option. Two dashes are no argument: they
leave the option as if it were absent. -/
def Reading.setAttached (r : Reading) (flag : Flag) (argument : Text) : Except UsageError Reading :=
  if argument = "--".toText then
    match flag with
    | .help => .ok r
    | .output => .ok { r with output := none }
    | .format => .ok { r with format := .document }
  else r.set flag argument

/-- Whether a request for help by its letter stands with a text attached to it. The text is read as
more letters, each of which must be an option; one that takes an argument must have it, as the rest
of the text or as the next word. -/
def checkHelp (next : List Word) : Text → Except UsageError Unit
  | [] => .error (.argumentIgnored .help [])
  | c :: rest =>
    match flagOf? ['-', c] with
    | none => .error (.argumentIgnored .help (c :: rest))
    | some .help => if rest.isEmpty then .ok () else checkHelp next rest
    | some flag =>
      match rest, next with
      | [], .plain _ :: _ => .ok ()
      | [], _ => .error (.argumentExpected flag)
      | _, _ => .ok ()

/-- The text of a word that has no place. -/
def Word.text : Word → Text
  | .plain text => text
  | .unknown text => text
  | .option _ _ | .mark => "--".toText

/-- Reads the words from the left. -/
def readWords (r : Reading) : List Word → Except UsageError (Command ⊕ Reading)
  | [] => .ok (.inr r)
  | .plain text :: words =>
    match r.input with
    | some _ => readWords { r with extra := r.extra ++ [text] } words
    | none =>
      match words with
      | .mark :: words =>
        .ok (.inr { r with input := some text, extra := r.extra ++ words.map Word.text })
      | words => readWords { r with input := some text } words
  | .mark :: words =>
    match r.input, words with
    | none, .plain text :: words => .ok (.inr { r with
        input := some text, extra := r.extra ++ words.map Word.text })
    | _, words => .ok (.inr { r with extra := r.extra ++ "--".toText :: words.map Word.text })
  | .unknown text :: words => readWords { r with extra := r.extra ++ [text] } words
  | .option .help none :: _ => .ok (.inl .help)
  | .option .help (some attached) :: words =>
    if attached.long then .error (.argumentIgnored .help attached.text)
    else (checkHelp words attached.text).map fun () => .inl .help
  | .option flag (some attached) :: words => do
    let r ← r.setAttached flag attached.text
    readWords r words
  | .option flag none :: .plain text :: words => do
    let r ← r.set flag text
    readWords r words
  | .option flag none :: _ => .error (.argumentExpected flag)

/-- What the words after the name of the command ask for. -/
def parse (words : List Text) : Except UsageError Command := do
  match ← readWords {} (← classify words) with
  | .inl command => return command
  | .inr r =>
    match r.input with
    | none => throw .inputMissing
    | some input =>
      if r.extra.isEmpty then return .work { input, output := r.output, format := r.format }
      else throw (.unrecognized r.extra)

/-! ### Usage -/

/-- The name of the command. -/
def commandName : String := "run_from_text.py"

/-- The line on the standard error for words that are no arguments. -/
def UsageError.line (e : UsageError) : Text := (commandName ++ ": error: ").toText ++ e.message

/-- The first line of the usage. -/
def usageLine : String :=
  "usage: " ++ commandName ++ " [-h] [-o OUTPUT] [--format \x7bdocx,excel\x7d] input"

/-- The usage of the command. -/
def usage : List String := [
  usageLine,
  "",
  "Convert extracted math text into Word or Excel.",
  "",
  "positional arguments:",
  "  input                 Text file (docx mode) or JSON file (excel mode).",
  "",
  "options:",
  "  -h, --help            show this help message and exit",
  "  -o OUTPUT, --output OUTPUT",
  "                        Output file name (extension optional).",
  "  --format \x7bdocx,excel\x7d"]

end ExamPress.CommandLine
