import CommandShell.Failure
import CommandShell.Files.Directory
import CommandShell.Text.Lines

/-!
# Script files

A script file is UTF-8 text; whatever style its line ends have, they read as line feeds. A path
that holds the null character is refused before the system is asked.
-/

namespace CommandShell.Script

/-- The text of the script file at a path. -/
def load (files : FileSystem) (path : Text) : Except Failure Text :=
  if path.contains (Char.ofNat 0) then .error .nulInPath
  else
    match files path with
    | .error fault => .error (.unreadableScript path (fault.message path))
    | .ok bytes =>
      match Text.decode bytes with
      | .error e => .error (.unreadableScript path e.message)
      | .ok text => .ok (Text.unifyLineEnds text)

end CommandShell.Script
