import CommandShell.Failure

/-!
# History

The history keeps the stripped command lines of a session, oldest first. A positive cap bounds
their number: the oldest go first. Lines that mention one of the commands on the history itself
are not to be recorded, so that repeating a line never repeats those commands.
-/

namespace CommandShell

/-- The recorded lines, and how many of them are kept; a cap of zero keeps all. -/
structure History where
  cap : Nat
  entries : List Text
  deriving DecidableEq, Repr

namespace History

/-- A history without lines. -/
def empty (cap : Nat) : History := ⟨cap, []⟩

/-- The last `cap` of the entries, or all of them if there is no cap. -/
def keep (cap : Nat) (entries : List Text) : List Text :=
  if cap = 0 then entries else entries.drop (entries.length - cap)

/-- The history with one more line. -/
def append (h : History) (line : Text) : History :=
  { h with entries := keep h.cap (h.entries ++ [line.strip]) }

/-- The number of recorded lines. -/
def size (h : History) : Nat := h.entries.length

/-- The recorded line of that number. -/
def get (h : History) (index : Int) : Except Failure Text :=
  match index with
  | .ofNat n =>
    match h.entries[n]? with
    | some line => .ok line
    | none => .error (.indexOutOfRange index)
  | .negSucc _ => .error (.indexOutOfRange index)

/-- The history with all lines forgotten. -/
def flush (h : History) : History := { h with entries := [] }

/-- The recorded lines with their numbers. -/
def numbered (h : History) : List (Nat × Text) :=
  h.entries.zipIdx.map fun (line, n) => (n, line)

/-- The words that keep a line out of the history. -/
def metaWords : List Text :=
  ["history".toList, "redo".toList, "flush".toList, "help".toList]

/-- Whether a line is to be recorded. -/
def admits (line : Text) : Bool :=
  !metaWords.any fun word => line.strip.includes word

/-- The history after a line was entered. -/
def record (h : History) (line : Text) : History :=
  if admits line then h.append line else h

end History

end CommandShell
