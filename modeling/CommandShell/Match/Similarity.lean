import CommandShell.Match.Distance
import CommandShell.Number.Binary64
import CommandShell.Text.Case

/-!
# How well a command matches what was typed

Letter case does not count. The rules are tried from the strongest down, and the first that holds
fixes the score; where none holds, texts at most three edits apart still score by how little they
differ. Every score is a binary64 number between zero and one.
-/

namespace CommandShell.Match

/-- The ways in which a command can match outright. -/
inductive Rule where
  /-- The command is the text. -/
  | equal
  /-- The command ends with the text, after a dot. -/
  | ending
  /-- The text is a run of inner segments. -/
  | segment
  /-- The segments of the text are the last ones of the command. -/
  | trailing
  /-- The command begins with the text. -/
  | beginning
  /-- The text occurs in the command. -/
  | inside
  /-- The segments of the text begin neighbouring segments of the command, one by one. -/
  | abbreviation
  deriving DecidableEq, Repr

/-- The score of a rule as an exact number. -/
def Rule.worth : Rule → Rat
  | .equal => 1
  | .ending => 95 / 100
  | .segment => 9 / 10
  | .trailing => 85 / 100
  | .beginning => 8 / 10
  | .inside => 7 / 10
  | .abbreviation => 6 / 10

/-- Whether the segments of `text` are the last of the more numerous segments of `command`. -/
def trailingSegments (text command : Text) : Bool :=
  text.segments.length < command.segments.length && text.segments.isSuffixOf command.segments

/-- Whether each of the parts begins the name at its place. -/
def beginEach : List Text → List Text → Bool
  | [], _ => true
  | _ :: _, [] => false
  | part :: parts, name :: names => part.isPrefixOf name && beginEach parts names

/-- Whether the parts begin neighbouring names, one by one, from some place on. -/
def beginRun (parts : List Text) : List Text → Bool
  | [] => beginEach parts []
  | name :: names => beginEach parts (name :: names) || beginRun parts names

/-- Whether the segments of `text` begin neighbouring segments of `command`, one by one. -/
def abbreviates (text command : Text) : Bool :=
  beginRun text.segments command.segments

/-- The strongest rule by which `command` matches `text`; letter case counts. -/
def rule? (text command : Text) : Option Rule :=
  if command = text then some .equal
  else if ('.' :: text).isSuffixOf command then some .ending
  else if command.includes ('.' :: text ++ ['.']) then some .segment
  else if trailingSegments text command then some .trailing
  else if text.isPrefixOf command then some .beginning
  else if command.includes text then some .inside
  else if abbreviates text command then some .abbreviation
  else none

/-- The largest distance that still scores. -/
def distanceLimit : Nat := 3

/-- The score by edit distance, at most one half; letter case counts. -/
def editScore (left right : Text) : Rat :=
  if left.isEmpty || right.isEmpty then 0
  else
    let d := distance left right
    if distanceLimit < d then 0
    else
      let share := Binary64.round (mkRat d (max left.length right.length))
      let similarity := Binary64.round (Binary64.round (1 - share) * (1 / 2))
      if similarity ≤ 1 / 2 then similarity else 1 / 2

/-- The score of `command` for `text`. -/
def score (text command : Text) : Rat :=
  match rule? text.lower command.lower with
  | some rule => Binary64.round rule.worth
  | none => editScore text.lower command.lower

end CommandShell.Match
