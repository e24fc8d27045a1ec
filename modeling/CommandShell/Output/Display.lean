import CommandShell.Failure
import CommandShell.Output.Value
import CommandShell.Text.Lines

/-!
# How a result is displayed

An empty text is not displayed. A text that holds the help marker is displayed as it is. Any other
text passes through the formatters in order, and then its lines are displayed without those that
are blank. A formatter may fail; then nothing is displayed.
-/

namespace CommandShell

/-- A step that every displayed result passes through, unless it fails, with a text of its own. -/
abbrev Formatter := Text → Except Failure Text

namespace Display

/-- What marks a help text. -/
def helpMarker : Text := "USAGE:".toList

/-- Whether a text is displayed as it is. -/
def isHelp (t : Text) : Bool := t.includes helpMarker

/-- The text after the formatters. -/
def format (formatters : List Formatter) (t : Text) : Except Failure Text :=
  formatters.foldlM (fun t formatter => formatter t) t

/-- The lines of `t` that are not blank. -/
def visibleLines (t : Text) : List Text :=
  (Text.screenLines t).filter fun line => !line.strip.isEmpty

/-- What the console is handed for a text, if anything. -/
def handed (formatters : List Formatter) (t : Text) : Except Failure (Option Text) :=
  if t.isEmpty then .ok none
  else if isHelp t then .ok (some t)
  else
    match format formatters t with
    | .error f => .error f
    | .ok t =>
      match visibleLines t with
      | [] => .ok none
      | lines => .ok (some (Text.join ['\n'] lines))

end Display

end CommandShell
