import CommandShell.Script.File
import CommandShell.Shell.Reading

/-!
# Evaluation

Evaluating an input may run a command, whose program makes requests, some of which evaluate further
input. `answer` serves requests to a given depth of such nesting. Its result is `none` when that
depth is not enough; this is no outcome of the session, and a greater depth may yield one. To every
other request the answer is the same at every depth.
-/

namespace CommandShell

/-- A way to answer requests; `none` stands for giving up. -/
abbrev Answerer := (r : Request) → Session → Option (r.Answer × Session)

/-- Runs a program in a session. -/
def Program.run (answer : Answerer) : Program α → Session → Option (Except Failure α × Session)
  | .done a, s => some (.ok a, s)
  | .fail f, s => some (.error f, s)
  | .call request next, s =>
    match answer request s with
    | none => none
    | some (a, s) => (next a).run answer s

/-- One input: a line as it was typed, or tokens that need no cutting. -/
inductive Input where
  | line (line : Text)
  | tokens (tokens : List Text)
  deriving DecidableEq, Repr

namespace Shell

/-- Runs a command with the tokens after its name. -/
def invoke (shell : Shell) (answer : Answerer) (d : Descriptor) (tokens : List Text)
    (s : Session) : Option (Outcome × Session) :=
  match (d.handler ⟨d.name, tokens, shell.settings⟩).run answer (s.note (.ran d.name tokens)) with
  | none => none
  | some (.ok value, s) => some (.result value, s)
  | some (.error f, s) => some (.failed (shell.report d.name f), s)

/-- Runs the command that the first token chooses, if it chooses one. -/
def dispatch (shell : Shell) (answer : Answerer) (tokens : List Text) (s : Session) :
    Option (Outcome × Session) :=
  match tokens with
  | [] => some (.result .nothing, s)
  | token :: rest =>
    match shell.choose token with
    | .run d => shell.invoke answer d rest s
    | .several names => some (.result (.ofText (Match.listing names)), s)
    | .unknown => some (.failed (shell.report token (.unknownCommand token)), s)

/-- Evaluates a line as it was typed. -/
def evaluateLine (shell : Shell) (answer : Answerer) (line : Text) (s : Session) :
    Option (Outcome × Session) :=
  let text := line.strip
  if text.isEmpty then some (.result .nothing, s)
  else
    let s := { s with lastInput := some text }
    match shell.reading text with
    | .verb v => some (shell.obey v, s)
    | .members names => some (.result (.ofText (namespaceListing text names)), s)
    | .command =>
      shell.dispatch answer (Token.ofLine text) { s with history := s.history.record text }

/-- Evaluates tokens. -/
def evaluateTokens (shell : Shell) (answer : Answerer) (tokens : List Text) (s : Session) :
    Option (Outcome × Session) :=
  match tokens with
  | [] => some (.result (.ofText shell.helpText), s)
  | _ =>
    shell.dispatch answer tokens { s with history := s.history.record (Text.join [' '] tokens) }

/-- Evaluates one input. -/
def evaluateInput (shell : Shell) (answer : Answerer) (input : Input) (s : Session) :
    Option (Outcome × Session) :=
  match input with
  | .line line => shell.evaluateLine answer line s
  | .tokens tokens => shell.evaluateTokens answer tokens s

/-- Evaluates a directive, with its own lines as scripted input if it has any. -/
def performWith (shell : Shell) (answer : Answerer) (d : Directive) (s : Session) :
    Option (Outcome × Session) :=
  match d with
  | .plain text => shell.evaluateLine answer text s
  | .heredoc text _ lines =>
    match s.terminal.install lines .screen with
    | .error f => some (.failed (shell.report text f), s)
    | .ok (installation, terminal) =>
      match shell.evaluateLine answer text { s with terminal } with
      | none => none
      | some (outcome, s) => some (outcome, { s with terminal := s.terminal.remove installation })

/-- Reads one line for the session itself; `none` is the end of input. -/
def readInput (shell : Shell) (s : Session) : Option Text × Session :=
  s.onTerminal (·.prompt (shell.promptText s))

/-- Prints an outcome; if that fails, the failure is reported instead. -/
def printOrReport (shell : Shell) (outcome : Outcome) (s : Session) : Session :=
  match shell.print outcome s with
  | (.ok _, s) => s
  | (.error f, s) => s.print (Failure.report [] f.message)

/-- Reads, evaluates and prints one line; says whether the session goes on. -/
def turn (shell : Shell) (answer : Answerer) (s : Session) : Option (Bool × Session) :=
  match shell.readInput s with
  | (none, s) => some (false, s)
  | (some line, s) =>
    match shell.evaluateLine answer line s with
    | none => none
    | some (outcome, s) => some (!outcome.isQuit, shell.printOrReport outcome s)

/-- Turns as long as the session goes on, at most as many as `budget` says. -/
def turns (shell : Shell) (answer : Answerer) (budget : Nat) (s : Session) : Option Session :=
  match budget with
  | 0 => none
  | budget + 1 =>
    match shell.turn answer s with
    | none => none
    | some (false, s) => some s
    | some (true, s) => shell.turns answer budget s

/-- Makes the session interactive and greets. -/
def enter (shell : Shell) (s : Session) : Session :=
  { s with interactive := true }.info shell.settings.intro

/-- Ends the interaction and says farewell. -/
def leave (s : Session) : Session :=
  { s with interactive := false }.info "Goodbye!".toList

/--
Runs the session until the end of input or the wish to leave. Every turn but the last takes a line,
so there are no more turns than lines to read and one.
-/
def loop (shell : Shell) (answer : Answerer) (s : Session) : Option Session :=
  let s := shell.enter s
  (shell.turns answer (s.terminal.unread + 1) s).map leave

/-- Answers a request, where `deeper` answers those of the programs that it runs. -/
def serve (shell : Shell) (deeper : Answerer) : Answerer
  | .prompt text, s => some (s.onTerminal (·.prompt text))
  | .ask text, s => some (s.onTerminal (·.ask text))
  | .promptTerminal text, s => some (s.onTerminal (·.promptTerminal text))
  | .readLine, s => some (s.onTerminal (·.readLine))
  | .read size, s => some (s.onTerminal (·.read size))
  | .echo text, s => some ((), s.print text)
  | .print outcome, s => some (shell.print outcome s)
  | .evaluate line, s => shell.evaluateLine deeper line s
  | .perform d, s => shell.performWith deeper d s
  | .loop, s => (shell.loop deeper s).map fun s => ((), s)
  | .script path, s => some (Script.load shell.files path, s.note (.opened path))
  | .look, s => some (s.view, s)
  | .flush, s => some ((), { s with history := s.history.flush })

/-- Answers requests that nest at most `depth` deep. -/
def answer (shell : Shell) : Nat → Answerer
  | 0 => shell.serve fun _ _ => none
  | depth + 1 => shell.serve (shell.answer depth)

/-- Evaluates one input, with requests nested at most `depth` deep. -/
def evaluate (shell : Shell) (depth : Nat) (input : Input) (s : Session) :
    Option (Outcome × Session) :=
  shell.evaluateInput (shell.answer depth) input s

/-- Evaluates a directive, with requests nested at most `depth` deep. -/
def perform (shell : Shell) (depth : Nat) (d : Directive) (s : Session) :
    Option (Outcome × Session) :=
  shell.performWith (shell.answer depth) d s

/-- Runs a program, with requests nested at most `depth` deep. -/
def execute (shell : Shell) (depth : Nat) (p : Program α) (s : Session) :
    Option (Except Failure α × Session) :=
  p.run (shell.answer depth) s

/-- A depth that no script or replayed line reaches unless it runs itself. -/
def usualDepth : Nat := 1000

end Shell

end CommandShell
