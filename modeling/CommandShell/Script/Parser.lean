import CommandShell.Failure
import CommandShell.Script.Directive
import CommandShell.Text.Lines

/-!
# Reading a script

Blank lines and lines that begin with `#` say nothing. Any other line is a directive of its own,
or opens the input of one, which then takes all lines up to one that is the marker alone. A script
that ends inside such input is refused as a whole.
-/

namespace CommandShell.Script

/-- The input of a command that is being collected: what opened it, where, and its lines so far. -/
structure OpenHeredoc where
  command : Text
  marker : Text
  start : Nat
  lines : List Text

/-- The input of a script that was never closed: its marker and the line that opened it. -/
structure Unclosed where
  marker : Text
  line : Nat
  deriving DecidableEq, Repr

/-- What a line outside any input says. -/
inductive LineReading where
  | nothing
  | directive (text : Text)
  | opens (command marker : Text)
  deriving DecidableEq, Repr

/-- Reads a line outside any input. -/
def readLine (line : Text) : LineReading :=
  let text := line.strip
  if text.isEmpty || text.head? == some '#' then .nothing
  else
    match Directive.opener? text with
    | some (command, marker) => .opens command marker
    | none => .directive text

/-- The directives of numbered lines, the first of which has the given number. -/
def parseLines (number : Nat) : Option OpenHeredoc → List Text → Except Unclosed (List Directive)
  | none, [] => .ok []
  | some h, [] => .error ⟨h.marker, h.start⟩
  | some h, line :: rest =>
    if line.strip = h.marker then
      (parseLines (number + 1) none rest).map (.heredoc h.command h.marker h.lines :: ·)
    else parseLines (number + 1) (some { h with lines := h.lines ++ [line] }) rest
  | none, line :: rest =>
    match readLine line with
    | .nothing => parseLines (number + 1) none rest
    | .directive text => (parseLines (number + 1) none rest).map (.plain text :: ·)
    | .opens command marker => parseLines (number + 1) (some ⟨command, marker, number, []⟩) rest

/-- The directives of a script. -/
def parse (text : Text) : Except Unclosed (List Directive) :=
  parseLines 1 none (Text.scriptLines text)

/-- The failure that tells of input that was never closed. -/
def Unclosed.failure (u : Unclosed) : Failure :=
  .unclosedHeredoc u.marker u.line

end CommandShell.Script
