import CommandShell.Text.Basic

/-!
# Lines

Three ways to read a text as lines. On a screen every line boundary of Unicode ends a line, and
the last line needs no end. In a script only a line feed ends a line, with one carriage return
before it taken along; the text after the last line feed is a line too. In a file every style of
line end is read as a line feed.
-/

namespace CommandShell.Text

/-- Puts `c` in front of the first line. -/
def consFirst (c : Char) : List Text → List Text
  | [] => [[c]]
  | line :: rest => (c :: line) :: rest

/-- Whether `c` ends a line on a screen. -/
def isLineBoundary (c : Char) : Bool :=
  inRanges [(0x0a, 0x0d), (0x1c, 0x1e), (0x85, 0x85), (0x2028, 0x2029)] c

/-- The lines of a text on a screen, without their ends. -/
def screenLines : Text → List Text
  | [] => []
  | '\r' :: '\n' :: rest => [] :: screenLines rest
  | c :: rest => if isLineBoundary c then [] :: screenLines rest else consFirst c (screenLines rest)

/-- The lines of a script, without their ends. -/
def scriptLines : Text → List Text
  | [] => [[]]
  | '\n' :: rest => [] :: scriptLines rest
  | '\r' :: '\n' :: rest => [] :: scriptLines rest
  | c :: rest => consFirst c (scriptLines rest)

/-- Every line end, be it one or two characters, as a line feed. -/
def unifyLineEnds : Text → Text
  | [] => []
  | '\r' :: '\n' :: rest => '\n' :: unifyLineEnds rest
  | '\r' :: rest => '\n' :: unifyLineEnds rest
  | c :: rest => c :: unifyLineEnds rest

/-- The first line of a text with its line feed, and the rest; the line is empty at the end. -/
def takeLine : Text → Text × Text
  | [] => ([], [])
  | c :: rest =>
    if c = '\n' then (['\n'], rest)
    else
      let (line, after) := takeLine rest
      (c :: line, after)

end CommandShell.Text
