import CommandShell.Command.Builtin
import CommandShell.Files.Path
import CommandShell.Logging
import CommandShell.Shell.Evaluation

/-!
# Command line

The first word of the command line says what to do: `repl`, which is also meant when there is no
word, `run` with a command and its arguments, or `script` with a path. Two dashes end the options.
The only option is the one that asks for help; `run` passes all others on in their place, and
elsewhere they are refused, also where help was asked for.
-/

namespace CommandShell

/-- What the command line asks for. -/
inductive Task where
  | help
  | repl
  | run (tokens : List Text)
  | script (path : Text)
  deriving DecidableEq, Repr

/-- What is wrong with a command line. -/
inductive UsageFault where
  | noSuchTask (name : Text)
  | noSuchOption (option : Text)
  | optionTakesNoValue (option : Text)
  | missingPath
  | nulInPath
  | surplus (word : Text)
  deriving DecidableEq, Repr

namespace CommandLine

/-- The words of a command line without its options, and whether help was asked for. -/
structure Words where
  help : Bool
  words : List Text
  deriving DecidableEq, Repr

/-- Whether a word is an option: it begins with a dash and is longer than that. -/
def isOption (word : Text) : Bool :=
  word.head? == some '-' && 1 < word.length

/-- The option that asks for help. -/
def helpOption : Text := "--help".toList

/-- What a word begins with that gives a value to the option that asks for help. -/
def helpWithValue : Text := helpOption ++ ['=']

/-- Checks an option where only the one that asks for help is known. -/
def checkOption (word : Text) : Except UsageFault Unit :=
  if word = helpOption then .ok ()
  else if helpWithValue.isPrefixOf word then .error (.optionTakesNoValue helpOption)
  else .error (.noSuchOption word)

/-- Whether an option is not for the command line itself but for the command that it runs. -/
def isForCommand (word : Text) : Bool :=
  word != helpOption && !helpWithValue.isPrefixOf word

/-- Sorts out the options of words; `passOn` says whether unknown ones stay among the words. -/
def sortOut (passOn : Bool) : List Text → Except UsageFault Words
  | [] => .ok ⟨false, []⟩
  | word :: rest =>
    if word = "--".toList then .ok ⟨false, rest⟩
    else if !isOption word || (passOn && isForCommand word) then
      (sortOut passOn rest).map fun w => { w with words := word :: w.words }
    else do
      checkOption word
      let w ← sortOut passOn rest
      return { w with help := true }

/-- Sorts out the options in front of the name of a task, from which on all words are left. -/
def sortOutLeading : List Text → Except UsageFault Words
  | [] => .ok ⟨false, []⟩
  | word :: rest =>
    if word = "--".toList then .ok ⟨false, rest⟩
    else if !isOption word then .ok ⟨false, word :: rest⟩
    else do
      checkOption word
      let w ← sortOutLeading rest
      return { w with help := true }

/-- The task that a name and the words after it stand for. -/
def taskNamed (name : Text) (rest : List Text) : Except UsageFault Task := do
  if name = "repl".toList then
    let w ← sortOut false rest
    if w.help then return .help
    match w.words with
    | [] => return .repl
    | word :: _ => throw (.surplus word)
  else if name = "run".toList then
    let w ← sortOut true rest
    return if w.help then .help else .run w.words
  else if name = "script".toList then
    let w ← sortOut false rest
    if w.help then return .help
    match w.words with
    | [] => throw .missingPath
    | [path] => if path.contains (Char.ofNat 0) then throw .nulInPath else return .script path
    | _ :: word :: _ => throw (.surplus word)
  else throw (.noSuchTask name)

/--
The task that a command line asks for. One refusal is not described, since the files are not looked
at here: a path to a file that exists and may not be read is a usage fault as well, with exit
code 2, whereas here it is accepted and the script reports that the file cannot be read.
-/
def task (words : List Text) : Except UsageFault Task := do
  let w ← sortOutLeading words
  if w.help then return .help
  match w.words with
  | [] => return .repl
  | name :: rest => taskNamed name rest

/-- What a command line is run in: variables, files and the text of standard input. -/
structure Environment where
  environment : List (Text × Text)
  files : FileSystem
  input : Text

/-- The text of the settings file, empty if there is none that can be opened. -/
def settingsFile (files : FileSystem) : Except Failure Text :=
  match files ".env".toList with
  | .error _ => .ok []
  | .ok bytes =>
    match Text.decode bytes with
    | .error e => .error (.unreadableSettings e.message)
    | .ok text => .ok text

/-- The settings of an environment, unless its settings file or a value is refused. -/
def settings? (e : Environment) : Option Settings :=
  match settingsFile e.files with
  | .error _ => none
  | .ok text => (Settings.read ⟨[], e.environment, Settings.variablesOf text⟩).toOption

/-- The shell of an environment, unless its settings or their log level are refused. -/
def shell? (e : Environment) : Option Shell :=
  match settings? e with
  | none => none
  | some settings =>
    match Logging.initial.configure Logging.replProfile settings.logLevel with
    | (some _, _) => none
    | (none, _) => some ⟨Builtin.registry, settings, [], e.files⟩

/-- The session that an environment starts with. -/
def session (shell : Shell) (e : Environment) : Session :=
  .start shell.settings (.ofTyped (Text.unifyLineEnds e.input))

/-- Evaluates tokens and prints the outcome; the exit code tells whether that is a failure. -/
def evaluateOnce (shell : Shell) (depth : Nat) (tokens : List Text) (s : Session) :
    Option (Nat × Session) :=
  match shell.evaluate depth (.tokens tokens) s with
  | none => none
  | some (outcome, s) => some (if outcome.isFailed then 1 else 0, shell.printOrReport outcome s)

/-- The tokens that run the script at a path. -/
def scriptTokens (path : Text) : List Text :=
  ["cli.script".toList, Path.normal path]

/-- Does a task and yields the exit code; showing help is not work for a session. -/
def perform (shell : Shell) (depth : Nat) (t : Task) (s : Session) : Option (Nat × Session) :=
  match t with
  | .help => some (0, s)
  | .repl => (shell.loop (shell.answer depth) s).map fun s => (0, s)
  | .run tokens => evaluateOnce shell depth tokens s
  | .script path => evaluateOnce shell depth (scriptTokens path) s

/-- How a command line ends. -/
inductive Ending where
  /-- The words are refused. -/
  | usage (fault : UsageFault)
  /-- Help was asked for. -/
  | helped
  /-- The settings are refused. -/
  | refused
  /-- The task was done, with an exit code. -/
  | finished (exit : Nat) (s : Session)

/-- Runs a command line. -/
def run (e : Environment) (depth : Nat) (words : List Text) : Option Ending :=
  match task words with
  | .error fault => some (.usage fault)
  | .ok .help => some .helped
  | .ok t =>
    match shell? e with
    | none => some .refused
    | some shell => (perform shell depth t (session shell e)).map fun (exit, s) => .finished exit s

/-- The exit code of a command line that ended. -/
def Ending.exit : Ending → Nat
  | .usage _ => 2
  | .helped => 0
  | .refused => 1
  | .finished exit _ => exit

/-- The text that a command line wrote. -/
def Ending.output : Ending → Text
  | .usage _ => []
  | .helped => []
  | .refused => []
  | .finished _ s => s.terminal.screenText

/-- The journal of a command line that ended. -/
def Ending.journal : Ending → List Event
  | .finished _ s => s.journal
  | _ => []

end CommandLine

end CommandShell
