import CommandShell.Command.Registry
import CommandShell.History
import CommandShell.Script.Replay
import CommandShell.Token

/-!
# Built-in commands

The commands that every session starts with: about the shell, on the history, on scripts, and two
that show how input was read.
-/

namespace CommandShell.Builtin

/-- The version that `about` shows. -/
def version : Text := "0.1.0".toList

/-- Shows the introduction and the version. -/
def about : Handler := fun i =>
  .done (.ofText (i.settings.intro ++ "\nversion ".toList ++ version))

/-- The numbered lines of a history, all numbers of one width. -/
def historyRows (entries : List Text) : List Text :=
  let width := (Text.ofNat (entries.length - 1)).length
  entries.zipIdx.map fun (line, n) => Text.ofNatPadded width n ++ ": ".toList ++ line

/-- Shows the history. -/
def history : Handler := fun _ => do
  let view ← Program.request .look
  match view.history.entries with
  | [] => return .noOutput
  | entries => return .ofText (Text.join ['\n'] (historyRows entries))

/-- The recorded line that the arguments of `redo` name. -/
def chosenLine (history : History) (positional : List Text) : Except Failure Text :=
  match positional with
  | [] => .error .missingIndex
  | text :: _ =>
    match Text.readInt text with
    | none => .error (.unreadableIndex text)
    | some index => history.get index

/-- Evaluates a recorded line again and prints its outcome. -/
def redo : Handler := fun i => do
  let view ← Program.request .look
  let line ← Program.ofExcept (chosenLine view.history i.arguments.positional)
  let outcome ← Program.request (.evaluate line)
  Program.ofExcept (← Program.request (.print outcome))
  return .noOutput

/-- Forgets the history. -/
def flush : Handler := fun _ => do
  Program.request .flush
  return .ofText "History flushed.".toList

/-- Runs a script; that its file cannot be read is told as a result. -/
def script : Handler := fun i =>
  match i.arguments.positional with
  | [path] =>
    ((Script.replay i.settings.scriptEcho path).bind fun _ => .done .noOutput).recover fun f =>
      match f with
      | .unreadableScript _ _ => .done (.ofText f.message)
      | _ => .fail f
  | _ => .fail .scriptPathExpected

/-- Shows what state the session is in. -/
def status : Handler := fun _ => do
  let view ← Program.request .look
  return .ofLines
    ["history length: ".toList ++ Text.ofNat view.history.size,
     "last input: ".toList ++ view.lastInput.getD ['-'],
     "repl mode: ".toList ++ (if view.interactive then "on".toList else "off".toList)]

/-- Shows how the last line was cut into tokens. -/
def tokens : Handler := fun _ => do
  let view ← Program.request .look
  let rows := (Token.ofLine (view.lastInput.getD [])).zipIdx.map fun (token, n) =>
    Text.ofNat n ++ ": ".toList ++ Text.quoted token
  return .ofText (Text.join ['\n'] rows)

/-- Shows its tokens. -/
def echo : Handler := fun i =>
  .done (.ofText (Text.join [' '] i.tokens))

/-- A command that is not hidden. -/
def descriptor (name about usage : Text) (handler : Handler) : Descriptor :=
  ⟨name, about, usage, false, handler⟩

/-- The built-in commands. -/
def descriptors : List Descriptor :=
  [descriptor "about".toList "Show information about this shell.".toList [] about,
   descriptor "history".toList "Show a history of recent commands.".toList [] history,
   descriptor "redo".toList "Redo a previous command from the history.".toList
     "redo INDEX".toList redo,
   descriptor "flush".toList "Flush the command history.".toList [] flush,
   descriptor "cli.script".toList "Run commands from a script file.".toList
     "cli.script FILE".toList script,
   descriptor "cli.status".toList "Show the session status.".toList [] status,
   descriptor "dbg.tokens".toList "Show how the last input line was tokenized.".toList [] tokens,
   descriptor "dbg.echo".toList "Echo the arguments back.".toList [] echo]

/-- The registry of the built-in commands alone. -/
def registry : Registry := ⟨descriptors, by decide⟩

end CommandShell.Builtin
