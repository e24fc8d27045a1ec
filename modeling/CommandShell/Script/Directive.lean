import CommandShell.Text.Blank
import CommandShell.Text.Word

/-!
# Directives of a script

A directive is a command line, or a command line together with the lines it reads as its input. A
line opens such input when it ends with `<<` and a marker of word characters, with at least one
blank between the command and `<<`; blanks may stand between `<<` and the marker.
-/

namespace CommandShell

/-- One step of a script. -/
inductive Directive where
  | plain (text : Text)
  | heredoc (text marker : Text) (lines : List Text)
  deriving DecidableEq, Repr

namespace Directive

/--
The command and the marker of a stripped line that opens input. The line is taken apart from its
end: the marker, blanks, `<<`, blanks again, and the command is what remains.
-/
def opener? (line : Text) : Option (Text × Text) :=
  let reversed := line.reverse
  let marker := (reversed.takeWhile Text.isWordChar).reverse
  match (reversed.dropWhile Text.isWordChar).dropWhile Text.isBlank with
  | '<' :: '<' :: before =>
    let command := (before.dropWhile Text.isBlank).reverse
    if marker.isEmpty || command.isEmpty || !(before.head?.any Text.isBlank) then none
    else some (command, marker)
  | _ => none

/-- The command line of a directive. -/
def text : Directive → Text
  | .plain text => text
  | .heredoc text _ _ => text

/-- The lines that show a directive before it runs. -/
def echo (lead : Text) : Directive → List Text
  | .plain text => [lead ++ text]
  | .heredoc text marker lines =>
    (lead ++ text ++ " <<".toList ++ marker) :: lines ++ [marker]

end Directive

end CommandShell
