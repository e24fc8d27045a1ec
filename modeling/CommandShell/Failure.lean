import CommandShell.Text.Blank
import CommandShell.Text.Numeral
import CommandShell.Text.Quoted

/-!
# Failures

Everything that can go wrong is a cause with its particulars; its wording and its kind are
functions of the cause. A report is the one line in which a session tells of a failure.

Every failure is taken to have a text, its wording. A failure that a command or a formatter raises
by itself may lack one, and then asking it for its text raises something else. The loop, scripts and
evaluations are described for failures that have a text; `Shell.attempt` evaluates an input without
taking that for granted.
-/

namespace CommandShell

/-- Why something failed. -/
inductive Failure where
  /-- No command is meant by what was typed. -/
  | unknownCommand (name : Text)
  /-- Several commands may be meant. -/
  | ambiguousCommand (name : Text) (candidates : List Text)
  /-- A script ends inside the input of a command, which began at a line. -/
  | unclosedHeredoc (marker : Text) (line : Nat)
  /-- A script file cannot be read. -/
  | unreadableScript (path cause : Text)
  /-- A path holds the null character. -/
  | nulInPath
  /-- Scripted input is already in force. -/
  | inputInstalled
  /-- A command of that name is registered already. -/
  | duplicateCommand (name : Text)
  /-- A command is run by a name that is not registered. -/
  | unregistered (name : Text)
  /-- The command to repeat is not given. -/
  | missingIndex
  /-- The number of the command to repeat is no number. -/
  | unreadableIndex (text : Text)
  /-- No command in the history has that number. -/
  | indexOutOfRange (index : Int)
  /-- A script is to be run, and not exactly one path is given. -/
  | scriptPathExpected
  /-- The terminal has no further line. -/
  | endOfInput
  /-- A line was asked for and the input has ended. -/
  | inputEnded
  /-- A log level is not known. -/
  | unknownLevel (level : Text)
  /-- The settings file is no text. -/
  | unreadableSettings (cause : Text)
  /-- A responder is started after it was stopped. -/
  | startedAgain
  /--
  A failure that a command or a formatter raises by itself. It is assumed to have a text, the
  message; so what is said of the loop and of scripts does not cover one whose text cannot be had.
  -/
  | raised (kind message : Text)
  deriving DecidableEq, Repr

namespace Failure

/-- The wording of a failure, which is the text that it is taken to have. -/
def message : Failure → Text
  | .unknownCommand name => "unknown command: ".toList ++ name
  | .ambiguousCommand name candidates =>
    "ambiguous command: ".toList ++ name ++ " (".toList ++ Text.join ", ".toList candidates
      ++ ")".toList
  | .unclosedHeredoc marker line =>
    "Unclosed heredoc '<<".toList ++ marker ++ "' starting at line ".toList ++ Text.ofNat line
  | .unreadableScript path cause =>
    "Error reading script file: ".toList ++ path ++ ": ".toList ++ cause
  | .nulInPath => "embedded null byte".toList
  | .inputInstalled => "virtual input is already installed".toList
  | .duplicateCommand name => "Duplicate command name: ".toList ++ name
  | .unregistered name => Text.quoted name
  | .missingIndex => "missing command index".toList
  | .unreadableIndex text => "invalid command index: ".toList ++ text
  | .indexOutOfRange index => "invalid command index: ".toList ++ Text.ofInt index
  | .scriptPathExpected => "expected exactly one script file path".toList
  | .endOfInput => []
  | .inputEnded => "EOF when reading a line".toList
  | .unknownLevel level => "Level '".toList ++ level ++ "' does not exist".toList
  | .unreadableSettings cause => cause
  | .startedAgain => "threads can only be started once".toList
  | .raised _ message => message

/-- The name of a failure's kind, which reports show when debugging. -/
def kind : Failure → Text
  | .unknownCommand _ => "CommandNotFoundError".toList
  | .ambiguousCommand _ _ => "AmbiguousCommandError".toList
  | .unclosedHeredoc _ _ => "UnclosedHeredocError".toList
  | .unreadableScript _ _ => "ScriptFileError".toList
  | .inputInstalled => "VirtualInputError".toList
  | .unregistered _ => "KeyError".toList
  | .indexOutOfRange _ => "IndexError".toList
  | .endOfInput => "EOFError".toList
  | .inputEnded => "EOFError".toList
  | .unreadableSettings _ => "UnicodeDecodeError".toList
  | .startedAgain => "RuntimeError".toList
  | .raised kind _ => kind
  | .nulInPath | .duplicateCommand _ | .missingIndex | .unreadableIndex _ | .scriptPathExpected
  | .unknownLevel _ => "ValueError".toList

/-- Whether a failure is about loading or reading a script. -/
def isAboutScript : Failure → Bool
  | .unclosedHeredoc _ _ | .unreadableScript _ _ => true
  | _ => false

/-- The line that reports a failure, with the command it is about unless that is empty. -/
def report (command : Text) (reason : Text) : Text :=
  let subject := if command.isEmpty then [] else command ++ ": ".toList
  Text.strip ("error: ".toList ++ subject ++ reason)

/-- The reason that a report gives for a failure of that text: the text, or the kind if empty. -/
def reasonGiven (f : Failure) (text : Text) (debug : Bool) : Text :=
  let wording := if text.isEmpty then f.kind else text
  if debug then wording ++ " (".toList ++ f.kind ++ ")".toList else wording

/-- The reason that a report gives for a failure whose text is its wording. -/
def reason (f : Failure) (debug : Bool) : Text := f.reasonGiven f.message debug

end Failure

end CommandShell
