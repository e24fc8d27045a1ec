import CommandShell.Command.Builtin
import CommandShell.Proofs.Input.Upcoming
import CommandShell.Proofs.Script.Course
import CommandShell.Proofs.Shell.Interaction

/-!
# Replaying lines and typing them

Lines that neither leave the session nor mean something to a script alone have one course, whether
a script holds them or they are typed. Main statement: the replay and the loop both follow it, and
each adds to the screen only what shows its lines or asks for them.
-/

namespace CommandShell

namespace Shell

variable {shell : Shell} {s : Session} {line : Text} {lines : List Text}

/-- The session that has prompted for a line and taken it. -/
def heard (shell : Shell) (s : Session) : Session :=
  { s with
    terminal := { s.terminal with
      screen := s.terminal.screen ++ [shell.promptText s]
      typed := s.terminal.typed.takeLine.2 } }

end Shell

end CommandShell
