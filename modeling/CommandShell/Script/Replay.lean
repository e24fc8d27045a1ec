import CommandShell.Command.Program
import CommandShell.Script.Parser

/-!
# Replaying a script

The whole script is read and parsed before any of it runs. Then each directive is shown, evaluated
and its outcome printed, in order.
-/

namespace CommandShell.Script

/-- Shows a directive, evaluates it and prints the outcome. -/
def replayDirective (lead : Text) (d : Directive) : Program Unit := do
  Program.request (.echo [])
  Program.forEach (d.echo lead) fun line => Program.request (.echo line)
  let outcome ← Program.request (.perform d)
  Program.ofExcept (← Program.request (.print outcome))

/-- Replays the script file at a path; `lead` stands in front of each command that is shown. -/
def replay (lead path : Text) : Program Unit := do
  let text ← Program.ofExcept (← Program.request (.script path))
  let directives ← Program.ofExcept ((parse text).mapError Unclosed.failure)
  Program.forEach directives (replayDirective lead)

end CommandShell.Script
