import CommandShell.Text.Basic

/-!
# Text on the console

The console writes a text and ends it with a line feed. On the way the bell, the backspace, the
vertical tabulator, the form feed and the carriage return are left out, and a tabulator becomes
spaces up to the next column that is a multiple of eight.

Two things are not described: that the name of a pictograph between two colons is replaced by the
pictograph, and that a character may take no column or two, which moves the tabulators behind it.
What is written is that of the console for texts without such names, and without a tabulator behind
such a character in its line.
-/

namespace CommandShell.Console

/-- Whether the console leaves `c` out. -/
def isDropped (c : Char) : Bool :=
  Text.inRanges [(0x07, 0x08), (0x0b, 0x0d)] c

/-- The distance of two tabulator stops. -/
def tabWidth : Nat := 8

/-- The text with spaces for its tabulators, where it begins in a column. -/
def expandTabs (column : Nat) : Text → Text
  | [] => []
  | c :: rest =>
    if c = '\t' then
      let width := tabWidth - column % tabWidth
      List.replicate width ' ' ++ expandTabs (column + width) rest
    else if c = '\n' then c :: expandTabs 0 rest
    else c :: expandTabs (column + 1) rest

/-- What the console writes for a text without names of pictographs, each character one column. -/
def written (t : Text) : Text :=
  expandTabs 0 (t.filter fun c => !isDropped c) ++ ['\n']

end CommandShell.Console
