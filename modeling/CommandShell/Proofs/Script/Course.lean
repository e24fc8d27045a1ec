import CommandShell.Proofs.Script.Replay
import CommandShell.Proofs.Shell.Frame
import CommandShell.Proofs.Shell.Repetition

/-!
# The course of some lines

The course of some lines is what evaluating them one after another runs and writes, each in a fresh
session that has the history and the last input of those before it. Replaying a script of lines
that mean nothing special to a script follows their course.
-/

namespace CommandShell

/-! ## Lines that a script takes as they are -/

namespace Script

end Script

/-! ## The course of some lines -/

/-- A line that is evaluated in a fresh session: the commands that it runs and what it writes. -/
structure Episode where
  line : Text
  start : Session
  ran : List Event
  written : List Text

/-- The line that was evaluated in a fresh session, which it left as the other. -/
def Episode.between (line : Text) (start printed : Session) : Episode :=
  ⟨line, start, printed.journal, printed.terminal.screen⟩

/-- The episodes of some lines, one for each and in order, and the fresh session after them. -/
structure Course where
  episodes : List Episode
  last : Session

namespace Course

/-- The course with an episode before it. -/
def cons (e : Episode) (c : Course) : Course := { c with episodes := e :: c.episodes }

/-- The session after a course that wrote, with each episode, what `shows` says. -/
def after (c : Course) (shows : Episode → List Text) (s : Session) : Session :=
  { s with
    terminal := { s.terminal with screen := s.terminal.screen ++ c.episodes.flatMap shows }
    history := c.last.history
    lastInput := c.last.lastInput
    journal := s.journal ++ c.episodes.flatMap (·.ran) }

/-- What shows a line before a script evaluates it: an empty line and the line, if not blank. -/
def echo (lead : Text) (e : Episode) : List Text :=
  if e.line.strip.isEmpty then []
  else [Console.written [], Console.written (lead ++ e.line.strip)]

/-- The session after a replay, in which each line was shown before it was evaluated. -/
def replayed (c : Course) (lead : Text) : Session → Session :=
  c.after fun e => echo lead e ++ e.written

/-- The session after all input was typed: each line at a prompt, and its end at another. -/
def typed (c : Course) (shell : Shell) (s : Session) : Session :=
  let s := c.after (fun e => shell.promptText e.start :: e.written) s
  { s with
    terminal := { s.terminal with
      screen := s.terminal.screen ++ [shell.promptText c.last]
      typed := [] } }

theorem after_cons (c : Course) (shown : List Text) {shows : Episode → List Text} {line : Text}
    {start x : Session} (h : shows (.between line start x) = shown ++ x.terminal.screen)
    (s : Session) :
    (c.cons (.between line start x)).after shows s =
      c.after shows ((s.withScreen shown).followedBy x) := by
  simp only [after, cons, List.flatMap_cons, h, Session.followedBy, Session.withScreen,
    List.append_assoc]
  rfl

end Course

namespace Shell

variable {shell : Shell} {answer : Answerer} {s : Session} {line : Text} {lines : List Text}

end Shell

end CommandShell
