import CommandShell.Text.Basic

/-!
# Paths

A path names a file by the directories on the way to it. Its normal form drops empty parts and
parts that are a single dot, keeps `..`, and writes the empty path as a dot. Exactly two slashes in
front are kept as two; any other number of them means the root.
-/

namespace CommandShell.Path

/-- The slashes that mark a path as absolute, none for a relative one. -/
def root (path : Text) : Text :=
  match path with
  | '/' :: '/' :: '/' :: _ => ['/']
  | '/' :: '/' :: _ => ['/', '/']
  | '/' :: _ => ['/']
  | _ => []

/-- The names on the way, without empty ones and single dots. -/
def parts (path : Text) : List Text :=
  (path.splitOn '/').filter fun part => !part.isEmpty && part != ['.']

/-- The path in its normal form. -/
def normal (path : Text) : Text :=
  let text := root path ++ Text.join ['/'] (parts path)
  if text.isEmpty then ['.'] else text

end CommandShell.Path
