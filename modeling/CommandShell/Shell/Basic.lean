import CommandShell.Command.Registry
import CommandShell.Files.Directory
import CommandShell.History
import CommandShell.Input.Terminal
import CommandShell.Output.Display

/-!
# Shells and sessions

A shell is what stays as it is while a session runs: the commands, the settings, the formatters
and the files within reach. A session is what changes: the terminal, the history, the last input,
whether the session is interactive, and a journal of what was run and read.
-/

namespace CommandShell

/-- What stays as it is while a session runs. -/
structure Shell where
  registry : Registry
  settings : Settings
  formatters : List Formatter
  files : FileSystem

/-- An entry of the journal: a command that was run with its tokens, or a script that was read. -/
inductive Event where
  | ran (name : Text) (tokens : List Text)
  | opened (path : Text)
  deriving DecidableEq, Repr

/-- The state of a session. -/
structure Session where
  terminal : Terminal
  history : History
  lastInput : Option Text
  interactive : Bool
  journal : List Event
  deriving DecidableEq, Repr

namespace Session

/-- The session that a shell starts with, on a terminal. -/
def start (settings : Settings) (terminal : Terminal) : Session :=
  ⟨terminal, .empty settings.historySize, none, false, []⟩

/-- The session with one more entry in its journal. -/
def note (s : Session) (e : Event) : Session := { s with journal := s.journal ++ [e] }

/-- Prints a text on the console. -/
def print (s : Session) (text : Text) : Session := { s with terminal := s.terminal.print text }

/-- Prints a text on the console unless it is empty. -/
def info (s : Session) (text : Text) : Session := if text.isEmpty then s else s.print text

/-- Puts the result of an operation on the terminal beside the session after it. -/
def onTerminal (s : Session) (operation : Terminal → α × Terminal) : α × Session :=
  let (a, terminal) := operation s.terminal
  (a, { s with terminal })

/-- What a program can see of the session. -/
def view (s : Session) : SessionView := ⟨s.history, s.lastInput, s.interactive⟩

end Session

namespace Shell

/-- The line that reports a failure of what `name` stands for. -/
def report (shell : Shell) (name : Text) (f : Failure) : Text :=
  Failure.report name (f.reason shell.settings.debug)

/-- What the session prompts with. -/
def promptText (shell : Shell) (s : Session) : Text :=
  '\n' :: shell.settings.promptSymbol ++ ' ' :: Text.ofNat s.history.size ++ " > ".toList

/-- Prints an outcome; a formatter that fails keeps a result from being printed. -/
def print (shell : Shell) (outcome : Outcome) (s : Session) : Except Failure Unit × Session :=
  match outcome with
  | .failed report => (.ok (), s.print report)
  | .quit => (.ok (), s)
  | .result value =>
    match Display.handed shell.formatters value.render with
    | .error f => (.error f, s)
    | .ok none => (.ok (), s)
    | .ok (some text) => (.ok (), s.print text)

end Shell

end CommandShell
