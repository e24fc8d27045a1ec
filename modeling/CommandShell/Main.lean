import CommandShell.CommandLine

/-!
# The program

Runs a command line against the variables, the files and the standard streams of the process. The
library computes on files that are known beforehand, so each piece of work is tried with the files
read so far and tried again while its journal names a script that was not among them. Nothing is
written before a try succeeds.
-/

open CommandShell

namespace CommandShell.Main

/-- The files that were read so far, by path. -/
abbrev Known := List (Text × Except OpenFault (List UInt8))

/-- The files that were read so far; any other seems to be missing. -/
def Known.files (known : Known) : FileSystem := fun path =>
  (known.lookup path).getD (.error .notFound)

/-- The fault that the system reports. -/
def faultOf : IO.Error → OpenFault
  | .inappropriateType _ code _ => if code = 21 then .isDirectory else .notDirectory
  | .invalidArgument _ code _ => if code = 36 then .nameTooLong else .notFound
  | .permissionDenied _ _ _ => .permissionDenied
  | _ => .notFound

/-- What a path leads to. -/
def fetch (path : Text) : IO (Except OpenFault (List UInt8)) := do
  try
    let bytes ← IO.FS.readBinFile (String.ofList (Path.normal path))
    return .ok bytes.toList
  catch e => return .error (faultOf e)

/-- The scripts that a journal names and that were not read yet. -/
def unread (known : Known) (journal : List Event) : List Text :=
  journal.filterMap fun e =>
    match e with
    | .opened path => if (known.lookup path).isSome then none else some path
    | .ran _ _ => none

/-- Tries work with the files read so far, and again after reading those that it asked for. -/
partial def settle (known : Known) (work : FileSystem → Option α) (journal : α → List Event) :
    IO (α × Known) := do
  match work known.files with
  | none => throw (IO.userError "commands nest too deep")
  | some a =>
    match unread known (journal a) with
    | [] => return (a, known)
    | path :: _ => settle ((path, ← fetch path) :: known) work journal

/-- Writes texts to standard output. -/
def writeAll (ts : List Text) : IO Unit := do
  let out ← IO.getStdout
  for t in ts do
    out.putStr (String.ofList t)
  out.flush

/-- The next lines of standard input with their line feeds; there are none at the end. -/
def nextLine : IO Text := do
  return Text.unifyLineEnds (← (← IO.getStdin).getLine).toList

/-- Takes turns with the user: prompts, waits for a line, and writes what its turn writes. -/
partial def converse (shell : Shell) (known : Known) (s : Session) : IO Session := do
  writeAll [shell.promptText s]
  let typed ← if s.terminal.typed.isEmpty then nextLine else pure s.terminal.typed
  let waiting := { s with terminal := { s.terminal with typed } }
  let work (files : FileSystem) :=
    let shell := { shell with files }
    shell.turn (shell.answer Shell.usualDepth) waiting
  let ((more, after), known) ← settle known work fun r => r.2.journal
  writeAll (after.terminal.screen.drop (s.terminal.screen.length + 1))
  if more then converse shell known after else return after

/-- Greets, takes turns, and says farewell. -/
def interact (shell : Shell) (known : Known) : IO Unit := do
  let start := Session.start shell.settings (.ofTyped [])
  let entered := shell.enter start
  writeAll entered.terminal.screen
  let s ← converse shell known entered
  writeAll ((Shell.leave s).terminal.screen.drop s.terminal.screen.length)

/-- The variables that hold settings, whose names are in upper or in lower case. -/
def settingVariables : IO (List (Text × Text)) := do
  let names := ["debug", "history_size", "intro", "log_level", "prompt_symbol", "script_echo_prefix"]
  let mut found := []
  for name in names do
    let name := Settings.variableStart ++ name.toList
    for spelling in [name.upper, name] do
      if let some v ← IO.getEnv (String.ofList spelling) then
        found := found ++ [(spelling, v.toList)]
  return found

/-- Runs a command line and yields its exit code. -/
def run (words : List Text) : IO UInt32 := do
  let settingsPath := ".env".toList
  let known : Known := [(settingsPath, ← fetch settingsPath)]
  let environment : CommandLine.Environment := ⟨← settingVariables, known.files, []⟩
  match CommandLine.task words, CommandLine.shell? environment with
  | .ok .repl, some shell =>
    interact shell known
    return 0
  | _, _ =>
    let work (files : FileSystem) :=
      CommandLine.run { environment with files } Shell.usualDepth words
    let (ending, _) ← settle known work CommandLine.Ending.journal
    writeAll [ending.output]
    return ending.exit.toUInt32

end CommandShell.Main

def main (words : List String) : IO UInt32 :=
  CommandShell.Main.run (words.map String.toList)
