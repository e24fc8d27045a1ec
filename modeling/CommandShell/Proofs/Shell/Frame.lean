import CommandShell.Proofs.Command.Requests
import CommandShell.Proofs.Shell.Printing

/-!
# Commands that do not look

A command is blind if it neither reads input nor looks at the session that it runs in. What blind
commands come to is added to whatever the session holds already: evaluating a line in a session is
evaluating it in a fresh one that has only the history and the last input, laid on top.
-/

namespace CommandShell

namespace Session

/-- A session with the same history and last input, in which nothing was run or written yet. -/
def fresh (s : Session) : Session := ⟨.ofTyped [], s.history, s.lastInput, false, []⟩

/-- The session after what was run and written in another, with the history it has there. -/
def followedBy (s x : Session) : Session :=
  { s with
    terminal := { s.terminal with screen := s.terminal.screen ++ x.terminal.screen }
    history := x.history
    lastInput := x.lastInput
    journal := s.journal ++ x.journal }

end Session

variable {answer : Answerer}

namespace Shell

variable {shell : Shell}

end Shell

end CommandShell
