import CommandShell.Text.Numeral

/-!
# Results of commands

A command may say nothing, because it has printed all it had to say, or yield a value: nothing, a
text, a number, a truth value, or a list of these. Values have a text for the screen; a list shows
one entry a line.
-/

namespace CommandShell

/-- A value without parts. -/
inductive Scalar where
  | nothing
  | text (t : Text)
  | number (n : Int)
  | truth (b : Bool)
  deriving DecidableEq, Repr

/-- The result of a command. -/
inductive Value where
  | noOutput
  | scalar (s : Scalar)
  | list (entries : List Scalar)
  deriving DecidableEq, Repr

namespace Scalar

/-- The text of an entry of a list. -/
def shown : Scalar → Text
  | .nothing => "None".toList
  | .text t => t
  | .number n => Text.ofInt n
  | .truth true => "True".toList
  | .truth false => "False".toList

end Scalar

namespace Value

/-- The result that is no value. -/
def nothing : Value := .scalar .nothing

/-- A text as a result. -/
def ofText (t : Text) : Value := .scalar (.text t)

/-- Lines as a result. -/
def ofLines (lines : List Text) : Value := .list (lines.map .text)

/-- The text that shows a result; a result without a value has an empty one. -/
def render : Value → Text
  | .noOutput => []
  | .scalar .nothing => []
  | .scalar s => s.shown
  | .list entries => Text.join ['\n'] (entries.map Scalar.shown)

end Value

end CommandShell
