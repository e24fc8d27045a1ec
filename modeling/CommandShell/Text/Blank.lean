import CommandShell.Text.Basic

/-!
# Blanks

The blank characters are those of Unicode's bidirectional classes WS, B and S together with its
space separators: tabulators, line ends, the four information separators and every space that has
a width. Stripping takes them off both ends of a text; the words of a text are its maximal runs of
other characters.
-/

namespace CommandShell.Text

/-- Whether `c` is white space. -/
def isBlank (c : Char) : Bool :=
  inRanges
    [(0x09, 0x0d), (0x1c, 0x20), (0x85, 0x85), (0xa0, 0xa0), (0x1680, 0x1680), (0x2000, 0x200a),
     (0x2028, 0x2029), (0x202f, 0x202f), (0x205f, 0x205f), (0x3000, 0x3000)] c

/-- `t` without the characters of a class at its end. -/
def dropEnd (t : Text) (drop : Char → Bool) : Text :=
  (t.reverse.dropWhile drop).reverse

/-- `t` without the characters of a class at either end. -/
def trim (t : Text) (drop : Char → Bool) : Text :=
  dropEnd (t.dropWhile drop) drop

/-- `t` without the blanks at either end. -/
def strip (t : Text) : Text :=
  t.trim isBlank

/-- The maximal runs of characters of `t` that are not blank, in order. -/
def words (t : Text) : List Text :=
  (t.splitOnP isBlank).filter fun w => !w.isEmpty

end CommandShell.Text
