import CommandShell.Text.Blank

/-!
# Tokens of a line

A line is cut at the blanks that stand outside double quotes; an odd number of quotes before a
blank makes it part of a token. Quotes stay in the tokens until each token is unquoted: a token
that stands in quotes loses them, and so does the value of an option whose whole value stands in
quotes. A quote that is never closed takes in the rest of the line.
-/

namespace CommandShell.Token

/-- The character that keeps blanks inside a token. -/
def quote : Char := '\x22'

/--
The pieces of a text between the blanks outside quotes, empty pieces included; `quoted` says
whether a quote is open in front of the text.
-/
def pieces (quoted : Bool) : Text → List Text
  | [] => [[]]
  | c :: rest =>
    if Text.isBlank c && !quoted then [] :: pieces quoted rest
    else
      match pieces (if c = quote then !quoted else quoted) rest with
      | [] => [[c]]
      | piece :: others => (c :: piece) :: others

/-- The tokens of a text that keeps track of quotes. -/
def cutByQuotes (t : Text) : List Text :=
  (pieces false t).filter fun piece => !piece.isEmpty

/-- The tokens of a stripped line, quotes included. Dotted names without quotes need no tracking. -/
def cut (t : Text) : List Text :=
  if t.contains '.' && !t.contains quote then t.words else cutByQuotes t

/-- `t` without the quotes at either end. -/
def trimQuotes (t : Text) : Text :=
  t.trim (· == quote)

/-- Whether `t` has a quote at both ends; one quote alone is both of its ends. -/
def isWrapped (t : Text) : Bool :=
  t.head? == some quote && t.getLast? == some quote

/--
The name and the value of a token that writes an option with a quoted value: a name of two or more
characters that begins with a dash, an equals sign, and a value in quotes that holds at least one
character between them and no line feed.
-/
def quotedOption? (t : Text) : Option (Text × Text) :=
  let name := t.takeWhile (· != '=')
  let value := (t.dropWhile (· != '=')).drop 1
  if name.head? = some '-' ∧ 2 ≤ name.length ∧ isWrapped value ∧ 3 ≤ value.length ∧
      ¬ value.contains '\n' then
    some (name, value)
  else none

/-- The token without the quotes that wrap it or its value. -/
def unquote (t : Text) : Text :=
  match quotedOption? t with
  | some (name, value) => name ++ '=' :: trimQuotes value
  | none => if isWrapped t then trimQuotes t else t

/-- The tokens of a line. -/
def ofLine (line : Text) : List Text :=
  (cut line.strip).map unquote

end CommandShell.Token
