import CommandShell.Output.Value

/-!
# Outcomes

Evaluating one input yields a result to display, a report of a failure, or the wish to leave the
session. A blank line yields the result that is nothing.
-/

namespace CommandShell

/-- What evaluating one input yields. -/
inductive Outcome where
  | result (value : Value)
  | failed (report : Text)
  | quit
  deriving DecidableEq, Repr

namespace Outcome

/-- Whether an outcome reports a failure. -/
def isFailed : Outcome → Bool
  | .failed _ => true
  | _ => false

/-- Whether an outcome leaves the session. -/
def isQuit : Outcome → Bool
  | .quit => true
  | _ => false

end Outcome

end CommandShell
