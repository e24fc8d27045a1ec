import CommandShell.Shell.Basic

/-!
# Listings

Three texts list the commands of a shell, all of them without the hidden ones and in ascending
order: the help text with what each command is about, the plain listing of names in rows, and the
listing of the commands in one namespace.
-/

namespace CommandShell.Shell

/-- The rows of the help text: the visible commands, and two that every session knows. -/
def helpEntries (shell : Shell) : List (Text × Text) :=
  (shell.registry.descriptors false).map (fun d => (d.name, d.about)) ++
    [("help".toList, "Show this help.".toList), ("quit".toList, "Leave the session.".toList)]

/-- A row of the help text, where the longest name has `width` characters. -/
def helpRow (width : Nat) (entry : Text × Text) : Text :=
  Text.dropEnd ("    ".toList ++ entry.1.padRight width ++ "  ".toList ++ entry.2) Text.isBlank

/-- The help text. -/
def helpText (shell : Shell) : Text :=
  let entries := shell.helpEntries
  let width := (entries.map fun e => e.1.length).foldl max 0
  Text.join ['\n']
    (["USAGE:".toList, "    ".toList ++ shell.settings.promptSymbol ++ " <command> [args...]".toList,
      [], "COMMANDS:".toList] ++ entries.map (helpRow width))

/-- Cuts names into rows of four, the last of which may be shorter. -/
def rows : List Text → List (List Text)
  | a :: b :: c :: d :: rest => [a, b, c, d] :: rows rest
  | [] => []
  | names => [names]

/-- The listing of all visible commands. -/
def commandListing (shell : Shell) : Text :=
  Text.join ['\n']
    ("Available commands:".toList ::
      (rows (Text.sorted shell.registry.visibleNames)).map fun row =>
        "  ".toList ++ Text.join "  ".toList row)

/-- The visible commands whose names begin with `name` and a dot. -/
def namespaceMembers (shell : Shell) (name : Text) : List Text :=
  if name.contains '.' || name.contains ' ' || shell.registry.has name then []
  else Text.sorted (shell.registry.visibleNames.filter fun n => (name ++ ['.']).isPrefixOf n)

/-- The listing of the commands in a namespace. -/
def namespaceListing (name : Text) (members : List Text) : Text :=
  Text.join ['\n']
    [name ++ " is a command namespace. Available commands:".toList,
     Text.join ", ".toList members,
     "Try '".toList ++ name ++ ".<command>' to run a specific command in this namespace.".toList]

end CommandShell.Shell
