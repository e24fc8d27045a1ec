import CommandShell.Files.Fault

/-!
# A working directory in memory

Opening a path walks it name by name from the working directory. Each name on the way must lie in
a directory; a name that is missing, too long, or looked up in a plain file ends the walk. Nothing
is known of what lies outside the working directory, except that its parents are directories.
-/

namespace CommandShell

/-- What opening a path and reading it to the end yields. -/
abbrev FileSystem := Text → Except OpenFault (List UInt8)

/-- What a path inside the working directory leads to. -/
inductive Node where
  | file (bytes : List UInt8)
  | directory

/-- The files and directories below the working directory, by the names on the way to them. -/
structure Directory where
  nodes : List (List Text × Node)

namespace Directory

/-- The longest name, in bytes. -/
def nameLimit : Nat := 255

/-- The longest path, in bytes. -/
def pathLimit : Nat := 4095

/-- The node at a place below the working directory, which is itself a directory. -/
def node? (d : Directory) (place : List Text) : Option Node :=
  match place with
  | [] => some .directory
  | _ => (d.nodes.find? fun n => n.1 == place).map (·.2)

/-- The directory with a file at a place, and with every directory on the way to it. -/
def insert (d : Directory) (place : List Text) (node : Node) : Directory :=
  let parents := (List.range place.length).map fun n => (place.take n, Node.directory)
  ⟨d.nodes ++ parents ++ [(place, node)]⟩

/-- What a place leads to; `none` stands for a directory outside the working directory. -/
def look (d : Directory) : Option (List Text) → Except OpenFault Node
  | none => .ok .directory
  | some place =>
    match d.node? place with
    | some node => .ok node
    | none => .error .notFound

/-- The place reached from `place` by one name. -/
def step (d : Directory) (place : Option (List Text)) (name : Text) :
    Except OpenFault (Option (List Text)) :=
  match d.look place with
  | .error fault => .error fault
  | .ok (.file _) => .error .notDirectory
  | .ok .directory =>
    if name = ['.', '.'] then
      match place with
      | none | some [] => .ok none
      | some place => .ok (some place.dropLast)
    else if nameLimit < Text.encodedLength name then .error .nameTooLong
    else
      match place with
      | none => .error .notFound
      | some place =>
        match d.node? (place ++ [name]) with
        | some _ => .ok (some (place ++ [name]))
        | none => .error .notFound

/-- The bytes of the file that a path leads to. -/
def read (d : Directory) : FileSystem := fun path =>
  if pathLimit < Text.encodedLength (Path.normal path) then .error .nameTooLong
  else do
    let origin := if (Path.root path).isEmpty then some [] else none
    let place ← (Path.parts path).foldlM d.step origin
    match ← d.look place with
    | .file bytes => .ok bytes
    | .directory => .error .isDirectory

end Directory

end CommandShell
