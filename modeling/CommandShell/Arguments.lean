import CommandShell.Text.Basic

/-!
# Arguments of a command

The tokens after a command's name read as items, from left to right. A token of more than two
characters that begins with two dashes names an option. Its value follows an equals sign, or is
the next token if that does not begin with a dash; without a value the option is a flag. All other
tokens are positional. An option that is given again keeps its place and takes the new value.
-/

namespace CommandShell

/-- One reading of one or two neighbouring tokens. -/
inductive Item where
  | positional (token : Text)
  | inlined (key value : Text)
  | separate (key value : Text)
  | flag (key : Text)
  deriving DecidableEq, Repr

/-- What an option was given. -/
inductive OptionValue where
  | flag
  | text (value : Text)
  deriving DecidableEq, Repr

namespace Item

/-- What follows the dashes of a token that names an option. -/
def optionBody? (token : Text) : Option Text :=
  match token with
  | '-' :: '-' :: c :: rest => some (c :: rest)
  | _ => none

/-- The parts of `t` before and after its first equals sign. -/
def splitEquals? (t : Text) : Option (Text × Text) :=
  if t.contains '=' then some (t.takeWhile (· != '='), (t.dropWhile (· != '=')).drop 1) else none

/-- Whether a token can be the value of the option before it. -/
def isValue (token : Text) : Bool :=
  token.head? != some '-'

/-- The items that tokens read as. -/
def ofTokens : List Text → List Item
  | [] => []
  | [token] =>
    match optionBody? token with
    | none => [.positional token]
    | some body =>
      match splitEquals? body with
      | some (key, value) => [.inlined key value]
      | none => [.flag body]
  | token :: next :: rest =>
    match optionBody? token with
    | none => .positional token :: ofTokens (next :: rest)
    | some body =>
      match splitEquals? body with
      | some (key, value) => .inlined key value :: ofTokens (next :: rest)
      | none =>
        if isValue next then .separate body next :: ofTokens rest
        else .flag body :: ofTokens (next :: rest)

/-- The positional token of an item. -/
def positional? : Item → Option Text
  | .positional token => some token
  | _ => none

/-- The option that an item gives. -/
def option? : Item → Option (Text × OptionValue)
  | .positional _ => none
  | .inlined key value => some (key, .text value)
  | .separate key value => some (key, .text value)
  | .flag key => some (key, .flag)

end Item

/-- The options and the positional tokens of a command. -/
structure Arguments where
  options : List (Text × OptionValue)
  positional : List Text
  deriving DecidableEq, Repr

namespace Arguments

/-- The options with `key` set to `value`. -/
def put (options : List (Text × OptionValue)) (key : Text) (value : OptionValue) :
    List (Text × OptionValue) :=
  match options with
  | [] => [(key, value)]
  | (k, v) :: rest => if k = key then (k, value) :: rest else (k, v) :: put rest key value

/-- The arguments that tokens stand for. -/
def ofTokens (tokens : List Text) : Arguments :=
  let items := Item.ofTokens tokens
  { options := (items.filterMap Item.option?).foldl (fun options o => put options o.1 o.2) []
    positional := items.filterMap Item.positional? }

/-- The options in ascending order of their keys. -/
def sortedOptions (a : Arguments) : List (Text × OptionValue) :=
  a.options.mergeSort fun p q => Text.le p.1 q.1

end Arguments

end CommandShell
