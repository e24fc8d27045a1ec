import CommandShell.Text.Basic

/-!
# Edit distance

The distance between two texts is the least number of insertions, deletions and substitutions of
single characters that turn one into the other. It is computed a row at a time: the row of a text
`left` holds its distance to every end piece of `right`, the longest piece first.
-/

namespace CommandShell.Match

/-- The row of `c :: left`, given the row of `left`. -/
def extendRow (c : Char) : Text → List Nat → List Nat
  | [], row => [row.headD 0 + 1]
  | d :: right, row =>
    let after := extendRow c right row.tail
    let changed := row.tail.headD 0 + if c = d then 0 else 1
    min changed (min (row.headD 0) (after.headD 0) + 1) :: after

/-- The distances from `left` to the end pieces of `right`. -/
def distanceRow : Text → Text → List Nat
  | [], right => (List.range (right.length + 1)).reverse
  | c :: left, right => extendRow c right (distanceRow left right)

/-- The edit distance of two texts. -/
def distance (left right : Text) : Nat :=
  (distanceRow left right).headD 0

end CommandShell.Match
