import CommandShell.Text.Basic
import CommandShell.Text.CaseTable

/-!
# Upper and lower case

Both mappings are the full ones: a character may have an image of several characters, and the
lower-case form of a capital sigma depends on its neighbours. It is the final form exactly where a
cased character stands before it and none after it, case-ignorable characters not counted.
-/

namespace CommandShell.Text

/-- The image of a code point under the first run that holds it. -/
def mapByRuns (runs : List CaseRun) (n : Nat) : Nat :=
  match runs.find? fun r => r.first ≤ n && n ≤ r.last && (n - r.first) % r.step == 0 with
  | some r => (Int.ofNat n + r.shift).toNat
  | none => n

/-- The lower-case image of a character that stands alone. -/
def lowerChar (c : Char) : Text :=
  if c.toNat = 0x130 then ['i', Char.ofNat 0x307]
  else [Char.ofNat (mapByRuns lowerRuns c.toNat)]

/-- The upper-case image of a character. -/
def upperChar (c : Char) : Text :=
  match upperExpansions.lookup c.toNat with
  | some image => image.map Char.ofNat
  | none => [Char.ofNat (mapByRuns upperRuns c.toNat)]

/-- Whether the first character of `t` that is not case-ignorable is cased. -/
def startsCased (t : Text) : Bool :=
  match t.dropWhile (inRanges caseIgnorableRanges) with
  | [] => false
  | c :: _ => inRanges casedRanges c

/--
The lower-case form of what follows a point of a text; `afterCased` says whether the nearest
character before that point that is not case-ignorable is cased.
-/
def lowerFrom (afterCased : Bool) : Text → Text
  | [] => []
  | c :: rest =>
    let image :=
      if c.toNat = 0x3a3 then
        [Char.ofNat (if afterCased && !startsCased rest then 0x3c2 else 0x3c3)]
      else lowerChar c
    let cased := if inRanges caseIgnorableRanges c then afterCased else inRanges casedRanges c
    image ++ lowerFrom cased rest

/-- The lower-case form of a text. -/
def lower (t : Text) : Text :=
  lowerFrom false t

/-- The upper-case form of a text. -/
def upper (t : Text) : Text :=
  t.flatMap upperChar

end CommandShell.Text
