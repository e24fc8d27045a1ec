import CommandShell.Text.Blank
import CommandShell.Text.Lines

/-!
# Settings files

A settings file gives variables, one on a line: a name, an equals sign and the value. The word
`export` may stand before the name. A name alone takes back what lines before it gave. Lines that
begin with `#` are comments, and so is what follows a blank and `#`. A line of any other form is
passed over.

A name that is given again keeps its place among the names and changes its value.
-/

namespace CommandShell.Settings

/-- Variables in the order of their names' first appearance; a name alone has no value. -/
abbrev FileVariables := List (Text × Option Text)

/-- The value without a comment: a blank and `#` begin one. -/
def dropComment : Text → Text
  | [] => []
  | c :: rest =>
    if Text.isBlank c && rest.head? == some '#' then [] else c :: dropComment rest

/-- Whether `c` may stand in a name. -/
def isNameChar (c : Char) : Bool :=
  !(c == '=' || c == '#' || Text.isBlank c)

/-- A line without the word `export` and the blanks behind it. -/
def dropExport (line : Text) : Text :=
  if line.takeWhile (!Text.isBlank ·) = "export".toList then
    (line.dropWhile (!Text.isBlank ·)).dropWhile Text.isBlank
  else line

/-- The name on a line with its value, if the line gives one. -/
def readFileLine (line : Text) : Option (Text × Option Text) :=
  let line := dropExport (line.dropWhile Text.isBlank)
  let name := line.takeWhile isNameChar
  if name.isEmpty then none
  else
    match (line.dropWhile isNameChar).dropWhile Text.isBlank with
    | [] => some (name, none)
    | c :: rest =>
      if c = '=' then some (name, some (Text.strip (dropComment rest)))
      else if c = '#' then some (name, none)
      else none

/-- The variables after `name` was given a value. -/
def put (given : FileVariables) (name : Text) (value : Option Text) : FileVariables :=
  match given with
  | [] => [(name, value)]
  | v :: rest => if v.1 = name then (name, value) :: rest else v :: put rest name value

/-- The text of a file without the byte order mark in front. -/
def dropMark : Text → Text
  | [] => []
  | c :: rest => if c = '\ufeff' then rest else c :: rest

/-- The variables that a settings file gives. -/
def variablesOf (t : Text) : FileVariables :=
  ((List.splitOn '\n' (Text.unifyLineEnds (dropMark t))).filterMap readFileLine).foldl
    (fun given v => put given v.1 v.2) []

end CommandShell.Settings
