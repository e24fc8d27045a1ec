import CommandShell.Match.Similarity
import CommandShell.Text.Blank
import CommandShell.Text.Numeral

/-!
# Which command was meant

A name typed in full names its command. Otherwise the candidates are the commands whose score is
positive and at least four fifths of the best one; a single candidate is taken, several are
listed in ascending order.
-/

namespace CommandShell.Match

/-- The share of the best score that a candidate must reach. -/
def candidateShare : Rat := Binary64.round (8 / 10)

/-- The highest of the scores, and zero when there is none. -/
def best (scores : List Rat) : Rat :=
  scores.foldl (fun highest score => if highest < score then score else highest) 0

/-- The commands that come into question for `text`, in their order. -/
def candidates (text : Text) (commands : List Text) : List Text :=
  let positive := (commands.map fun c => (c, score text c)).filter fun p => 0 < p.2
  let threshold := Binary64.round (best (positive.map (·.2)) * candidateShare)
  (positive.filter fun p => threshold ≤ p.2).map (·.1)

/-- The outcome of looking for a command. -/
inductive Resolution where
  | unknown
  | one (name : Text)
  | several (names : List Text)
  deriving DecidableEq, Repr

/-- Looks for the command that `text` means among `commands`. -/
def resolve (text : Text) (commands : List Text) : Resolution :=
  let name := text.strip
  if name.isEmpty then .unknown
  else if commands.contains name then .one name
  else
    match candidates name commands with
    | [] => .unknown
    | [only] => .one only
    | names => .several (Text.sorted names)

/-- The numbered list that is shown when several commands come into question. -/
def listing (names : List Text) : Text :=
  let rows := names.zipIdx.map fun (name, i) =>
    "  ".toList ++ Text.ofNat (i + 1) ++ ". ".toList ++ name
  "? Did you mean:\n".toList ++ Text.join ['\n'] rows

end CommandShell.Match
