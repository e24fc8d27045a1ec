import CommandShell.Failure
import CommandShell.Input.Source
import CommandShell.Output.Console
import CommandShell.Text.Lines

/-!
# Terminal

The terminal holds what was written, what is still to be read, and the scripted input in force.
Installing a source takes the lock, makes the source the one that commands are prompted from and
makes it standard input; removing it stops the source and puts back what was there before. At most
one source is installed at a time. A stream is a source by its number: it outlives its removal, but
answers nothing then.
-/

namespace CommandShell

/-- Where the writes to a scripted source go: to the screen, or to a sink of their own. -/
inductive Outlet where
  | screen
  | side
  deriving DecidableEq, Repr

/-- A source that was installed at some time, and where writes to it go. -/
structure Stream where
  source : Source
  outlet : Outlet
  deriving DecidableEq, Repr

/-- What is needed to undo an installation: the stream, and what it displaced. -/
structure Installation where
  stream : Nat
  displacedActive : Option Nat
  displacedInput : Option Nat
  deriving DecidableEq, Repr

/--
The state of input and output. `screen` and `side` are the texts written so far, in order; `typed`
is what is left of the terminal's own input; `active` is the stream that commands are prompted
from, if any; `input` is the stream that is standard input, or `none` for the terminal's own.
-/
structure Terminal where
  screen : List Text
  side : List Text
  typed : Text
  streams : List Stream
  locked : Bool
  active : Option Nat
  input : Option Nat
  deriving DecidableEq, Repr

namespace Terminal

/-- A terminal on which `typed` will be read. -/
def ofTyped (typed : Text) : Terminal := ⟨[], [], typed, [], false, none, none⟩

/-- The text written to the screen. -/
def screenText (t : Terminal) : Text := t.screen.flatten

/-- The text written to the sink. -/
def sideText (t : Terminal) : Text := t.side.flatten

/-- Writes a text as it is. -/
def write (t : Terminal) (outlet : Outlet) (text : Text) : Terminal :=
  match outlet with
  | .screen => { t with screen := t.screen ++ [text] }
  | .side => { t with side := t.side ++ [text] }

/-- Writes a text through the console. -/
def print (t : Terminal) (text : Text) : Terminal :=
  t.write .screen (Console.written text)

/-- The number of lines that are left in streams. -/
def unreadLines : List Stream → Nat
  | [] => 0
  | s :: streams => s.source.unread + unreadLines streams

/-- A bound on the number of lines that can still be read. -/
def unread (t : Terminal) : Nat :=
  t.typed.length + unreadLines t.streams

/-! ## Streams -/

/-- The terminal after an operation on the source of a stream, and the operation's result. -/
def onSource (t : Terminal) (stream : Nat) (missing : α) (operation : Source → α × Source) :
    α × Terminal :=
  match t.streams[stream]? with
  | none => (missing, t)
  | some s =>
    let (result, source) := operation s.source
    (result, { t with streams := t.streams.set stream { s with source } })

/-- Writes to a stream: the text goes to the stream's outlet, unless the stream was stopped. -/
def streamWrite (t : Terminal) (stream : Nat) (text : Text) : Terminal :=
  match t.streams[stream]? with
  | none => t
  | some s => if s.source.stopped then t else t.write s.outlet text

/-- The next line of a stream, or at most `size` characters if that is not negative. -/
def streamReadLine (t : Terminal) (stream : Nat) (size : Int) : Text × Terminal :=
  let (reply, t) :=
    if 0 ≤ size then t.onSource stream none (·.takeChars size)
    else t.onSource stream none Source.takeLine
  (reply.getD [], t)

/-- At most `size` characters of a stream, or all that is left if `size` is negative. -/
def streamRead (t : Terminal) (stream : Nat) (size : Int) : Text × Terminal :=
  if 0 ≤ size then t.streamReadLine stream size else t.onSource stream [] Source.takeAll

/-- The next lines of a stream, as many as the hint asks for. -/
def streamReadLines (t : Terminal) (stream : Nat) (hint : Int) : List Text × Terminal :=
  t.onSource stream [] (·.takeLines hint)

/-- Shows a prompt through a stream and takes its next line without the line feed. -/
def streamPrompt (t : Terminal) (stream : Nat) (text : Text) : Option Text × Terminal :=
  let t := if text.isEmpty then t else t.streamWrite stream text
  let (reply, t) := t.onSource stream none Source.takeLine
  (reply.map List.dropLast, t)

/-! ## Standard input -/

/-- The next line of standard input with its line feed; it is empty at the end. -/
def readLine (t : Terminal) : Text × Terminal :=
  match t.input with
  | some stream => t.streamReadLine stream (-1)
  | none =>
    let (line, typed) := t.typed.takeLine
    (line, { t with typed })

/-- At most `size` characters of standard input, or all that is left if `size` is negative. -/
def read (t : Terminal) (size : Int) : Text × Terminal :=
  match t.input with
  | some stream => t.streamRead stream size
  | none =>
    if 0 ≤ size then (t.typed.take size.toNat, { t with typed := t.typed.drop size.toNat })
    else (t.typed, { t with typed := [] })

/-- Shows a prompt and reads a line of standard input without the line feeds at its end. -/
def promptTerminal (t : Terminal) (text : Text) : Option Text × Terminal :=
  let (line, t) := (t.write .screen text).readLine
  if line.isEmpty then (none, t) else (some (line.dropEnd (· == '\n')), t)

/-- Shows a prompt and reads a line of standard input without its last line feed. -/
def ask (t : Terminal) (text : Text) : Option Text × Terminal :=
  let (line, t) := (t.write .screen text).readLine
  if line.isEmpty then (none, t)
  else (some (if line.getLast? = some '\n' then line.dropLast else line), t)

/-- Shows a prompt and takes a line from the source in force, or else from standard input. -/
def prompt (t : Terminal) (text : Text) : Option Text × Terminal :=
  match t.active with
  | some stream => t.streamPrompt stream text
  | none => t.promptTerminal text

/-! ## Scripted input -/

/-- Installs a source of scripted lines, unless one is installed already. -/
def install (t : Terminal) (lines : List Text) (outlet : Outlet) :
    Except Failure (Installation × Terminal) :=
  if t.locked then .error .inputInstalled
  else
    let stream := t.streams.length
    .ok (⟨stream, t.active, t.input⟩,
      { t with
        streams := t.streams ++ [⟨.ofLines lines, outlet⟩]
        locked := true
        active := some stream
        input := some stream })

/-- Undoes an installation. -/
def remove (t : Terminal) (i : Installation) : Terminal :=
  let t := (t.onSource i.stream () fun s => ((), s.stop)).2
  { t with locked := false, active := i.displacedActive, input := i.displacedInput }

end Terminal

end CommandShell
