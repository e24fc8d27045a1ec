import CommandShell.Match.Resolution
import CommandShell.Shell.Listing
import CommandShell.Token

/-!
# What a line asks for

A stripped line is a verb of the session, the bare name of a namespace, or a command line. The
first token of a command line chooses a command: the one of that exact name, or else the visible
one that the token means, if it means exactly one.
-/

namespace CommandShell

/-- What a session does by itself. -/
inductive Verb where
  | quit
  | help
  | repl
  | list
  deriving DecidableEq, Repr

/-- The verb that a stripped line stands for. -/
def Verb.ofLine? (line : Text) : Option Verb :=
  if line = "quit".toList ∨ line = "q!".toList then some .quit
  else if line = "help".toList ∨ line = "?".toList then some .help
  else if line = "repl".toList then some .repl
  else if line = "tab".toList then some .list
  else none

/-- What a stripped line asks for. -/
inductive Reading where
  | verb (v : Verb)
  | members (names : List Text)
  | command
  deriving DecidableEq, Repr

/-- The command that a token chooses. -/
inductive Choice where
  | run (command : Descriptor)
  | several (names : List Text)
  | unknown

namespace Shell

/-- What a stripped line asks for. -/
def reading (shell : Shell) (line : Text) : Reading :=
  match Verb.ofLine? line with
  | some v => .verb v
  | none =>
    match shell.namespaceMembers line with
    | [] => .command
    | names => .members names

/-- The outcome of a verb. -/
def obey (shell : Shell) : Verb → Outcome
  | .quit => .quit
  | .help => .result (.ofText shell.helpText)
  | .repl => .result (.ofText "The repl is already running.".toList)
  | .list => .result (.ofText shell.commandListing)

/-- The command that a token chooses. -/
def choose (shell : Shell) (token : Text) : Choice :=
  match shell.registry.get? token with
  | some d => .run d
  | none =>
    match Match.resolve token shell.registry.visibleNames with
    | .unknown => .unknown
    | .several names => .several names
    | .one name =>
      match shell.registry.get? name with
      | some d => .run d
      | none => .unknown

end Shell

end CommandShell
