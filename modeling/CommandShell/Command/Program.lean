import CommandShell.Arguments
import CommandShell.Failure
import CommandShell.History
import CommandShell.Outcome
import CommandShell.Script.Directive
import CommandShell.Settings

/-!
# What a command does

A command is a program: it makes requests of the session that runs it, one after another, each
depending on the answers so far, and ends with a result or a failure. A program is data, so what
holds of every program holds of every command, whatever it does. A failure that a request meets is
part of its answer; the program decides whether it ends with it.
-/

namespace CommandShell

/-- What a program can see of a session. -/
structure SessionView where
  history : History
  lastInput : Option Text
  interactive : Bool
  deriving DecidableEq, Repr

/-- What a program can ask of the session that runs it. -/
inductive Request where
  /-- Prompt for a line, from the scripted input in force or else from the terminal. -/
  | prompt (text : Text)
  /-- Prompt for a line of standard input. -/
  | ask (text : Text)
  /-- Prompt for a line as the session itself does when no scripted input is in force. -/
  | promptTerminal (text : Text)
  /-- Read a line of standard input with its line feed; it is empty at the end. -/
  | readLine
  /-- Read some characters of standard input, or all that is left if the size is negative. -/
  | read (size : Int)
  /-- Print a text as it is. -/
  | echo (text : Text)
  /-- Print an outcome. -/
  | print (outcome : Outcome)
  /-- Evaluate a line as if it were typed. -/
  | evaluate (line : Text)
  /-- Evaluate a step of a script. -/
  | perform (directive : Directive)
  /-- Read and evaluate lines until the end of input or the wish to leave. -/
  | loop
  /-- Read a script file. -/
  | script (path : Text)
  /-- Look at the session. -/
  | look
  /-- Forget the history. -/
  | flush
  deriving DecidableEq, Repr

/-- The answer to a request. -/
abbrev Request.Answer : Request → Type
  | .prompt _ => Option Text
  | .ask _ => Option Text
  | .promptTerminal _ => Option Text
  | .readLine => Text
  | .read _ => Text
  | .echo _ => Unit
  | .print _ => Except Failure Unit
  | .evaluate _ => Outcome
  | .perform _ => Outcome
  | .loop => Unit
  | .script _ => Except Failure Text
  | .look => SessionView
  | .flush => Unit

/-- A program that ends with an `α` or a failure. -/
inductive Program (α : Type) where
  | done (a : α)
  | fail (f : Failure)
  | call (request : Request) (next : request.Answer → Program α)

namespace Program

/-- Goes on with the result of a program. -/
def bind (p : Program α) (next : α → Program β) : Program β :=
  match p with
  | .done a => next a
  | .fail f => .fail f
  | .call request rest => .call request fun answer => (rest answer).bind next

instance : Monad Program where
  pure := .done
  bind := bind

/-- The program that makes one request and ends with its answer. -/
def request (r : Request) : Program r.Answer := .call r .done

/-- Ends with the failure if there is one. -/
def ofExcept : Except Failure α → Program α
  | .ok a => .done a
  | .error f => .fail f

/-- Runs a program for each member of a list. -/
def forEach (items : List β) (body : β → Program Unit) : Program Unit :=
  match items with
  | [] => .done ()
  | item :: rest => (body item).bind fun _ => forEach rest body

/-- Goes on with the failure of a program, if that is how it ends. -/
def recover (p : Program α) (handler : Failure → Program α) : Program α :=
  match p with
  | .done a => .done a
  | .fail f => handler f
  | .call request rest => .call request fun answer => (rest answer).recover handler

end Program

/-- What a command is told when it is run: its name, the tokens after it, and the settings. -/
structure Invocation where
  name : Text
  tokens : List Text
  settings : Settings

/-- The arguments that the tokens stand for. -/
def Invocation.arguments (i : Invocation) : Arguments := .ofTokens i.tokens

/-- What a command does when it is run. -/
abbrev Handler := Invocation → Program Value

end CommandShell
