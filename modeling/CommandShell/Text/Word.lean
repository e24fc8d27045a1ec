import CommandShell.Text.Basic
import CommandShell.Text.WordTable

/-!
# Word characters

A word character is a letter, a numeral or the underscore. Markers of scripted input are made of
word characters only.
-/

namespace CommandShell.Text

/-- Whether `c` may stand in a word. -/
def isWordChar (c : Char) : Bool :=
  c == '_' || inRanges wordRanges c

end CommandShell.Text
