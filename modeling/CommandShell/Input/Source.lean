import CommandShell.Text.Basic

/-!
# Scripted lines

A source replays scripted lines to whoever asks for input. What is left of it is a list of lines,
the first of which may be the rest of a line read in part. A read takes the rest of a line with a
line feed, or at most some characters of it; when those finish the line, its line feed comes with
them, so a read never takes parts of two lines. A source that is exhausted or stopped answers
nothing.
-/

namespace CommandShell

/-- The lines that are left, and whether the source was stopped. -/
structure Source where
  rest : List Text
  stopped : Bool
  deriving DecidableEq, Repr

namespace Source

/-- A source of the given lines, ready to answer. -/
def ofLines (lines : List Text) : Source := ⟨lines, false⟩

/-- Whether no line is left. -/
def isExhausted (s : Source) : Bool := s.rest.isEmpty

/-- The source after it was stopped. -/
def stop (s : Source) : Source := { s with stopped := true }

/-- The rest of the current line with its line feed. -/
def takeLine (s : Source) : Option Text × Source :=
  if s.stopped then (none, s)
  else
    match s.rest with
    | [] => (none, s)
    | line :: lines => (some (line ++ ['\n']), { s with rest := lines })

/-- At most `count` characters of the current line, and its line feed if they finish it. -/
def takeChars (s : Source) (count : Int) : Option Text × Source :=
  if s.stopped then (none, s)
  else
    match s.rest with
    | [] => (none, s)
    | line :: lines =>
      if count ≤ 0 then (some [], s)
      else
        let n := count.toNat
        if n < line.length then (some (line.take n), { s with rest := line.drop n :: lines })
        else (some (line ++ ['\n']), { s with rest := lines })

/-- All that is left, each line with its line feed. -/
def takeAll (s : Source) : Text × Source :=
  if s.stopped then ([], s)
  else (s.rest.flatMap fun line => line ++ ['\n'], { s with rest := [] })

/-- Leading lines until they hold more than `hint` characters, their line feeds counted. -/
def spanHint (hint : Nat) (taken : Nat) : List Text → List Text × List Text
  | [] => ([], [])
  | line :: lines =>
    let taken := taken + line.length + 1
    if hint < taken then ([line ++ ['\n']], lines)
    else
      let (first, after) := spanHint hint taken lines
      ((line ++ ['\n']) :: first, after)

/-- Lines until they hold more than `hint` characters, or all lines if the hint is not positive. -/
def takeLines (s : Source) (hint : Int) : List Text × Source :=
  if s.stopped then ([], s)
  else if hint ≤ 0 then (s.rest.map (· ++ ['\n']), { s with rest := [] })
  else
    let (first, after) := spanHint hint.toNat 0 s.rest
    (first, { s with rest := after })

/-- How many more lines the source can answer with. -/
def unread (s : Source) : Nat :=
  if s.stopped then 0 else s.rest.length

end Source

end CommandShell
