import CommandShell.Match.Distance

/-!
# The recurrence of the edit distance

The row of a text holds its distances to all end pieces of the other text, so a distance is computed
from those of the texts without their first characters. From this recurrence: only equal texts have
no distance, a distance is the same both ways, and it is at least the difference of the lengths and
at most the longer length.
-/

namespace CommandShell.Match

variable {left right : Text} {c d : Char}

/-- A row continues the row for the end piece of the other text. -/
theorem distanceRow_cons (left : Text) (d : Char) (right : Text) :
    distanceRow left (d :: right) = distance left (d :: right) :: distanceRow left right := by
  induction left with
  | nil =>
    rw [distance, distanceRow, distanceRow, List.length_cons, List.range_succ, List.reverse_append]
    rfl
  | cons c left ih =>
    have hrest : distanceRow (c :: left) right =
        extendRow c right (distanceRow left (d :: right)).tail := by
      rw [ih]
      rfl
    rw [hrest, distance, distanceRow, extendRow]
    rfl

@[simp] theorem distance_nil_left (right : Text) : distance [] right = right.length := by
  rw [distance, distanceRow, List.range_succ, List.reverse_append]
  rfl

theorem distance_cons_nil (c : Char) (left : Text) :
    distance (c :: left) [] = distance left [] + 1 :=
  rfl

@[simp] theorem distance_nil_right (left : Text) : distance left [] = left.length := by
  induction left with
  | nil => rfl
  | cons c left ih => rw [distance_cons_nil, ih, List.length_cons]

/-- The first characters are matched, or one of them is left out. -/
theorem distance_cons_cons (c : Char) (left : Text) (d : Char) (right : Text) :
    distance (c :: left) (d :: right) =
      min (distance left right + if c = d then 0 else 1)
        (min (distance left (d :: right)) (distance (c :: left) right) + 1) := by
  have hrow : distanceRow (c :: left) (d :: right) =
      extendRow c (d :: right) (distance left (d :: right) :: distanceRow left right) := by
    rw [← distanceRow_cons]
    rfl
  rw [distance, hrow]
  rfl

@[simp] theorem distance_self (t : Text) : distance t t = 0 := by
  induction t with
  | nil => rfl
  | cons c t ih =>
    rw [distance_cons_cons, ih, if_pos rfl]
    exact Nat.zero_min _

/-- Only equal texts have no distance. -/
theorem eq_of_distance_eq_zero (h : distance left right = 0) : left = right := by
  induction left generalizing right with
  | nil =>
    rw [distance_nil_left] at h
    exact (List.length_eq_zero_iff.1 h).symm
  | cons c left ih =>
    cases right with
    | nil => exact absurd h (Nat.succ_ne_zero _)
    | cons d right =>
      rw [distance_cons_cons] at h
      have hmatched : distance left right + (if c = d then 0 else 1) = 0 := by omega
      split at hmatched
      · next hcd => rw [hcd, ih hmatched]
      · contradiction

/-- What holds of the texts without a first character holds of a pair of texts: the order in which
the recurrence runs. -/
theorem distance_induction {motive : Text → Text → Prop} (nil_left : ∀ right, motive [] right)
    (nil_right : ∀ left, motive left [])
    (cons_cons : ∀ c left d right, motive left right → motive left (d :: right) →
      motive (c :: left) right → motive (c :: left) (d :: right)) (left right : Text) :
    motive left right := by
  induction left generalizing right with
  | nil => exact nil_left right
  | cons c left ihLeft =>
    induction right with
    | nil => exact nil_right (c :: left)
    | cons d right ihRight =>
      exact cons_cons c left d right (ihLeft right) (ihLeft (d :: right)) ihRight

theorem distance_comm (left right : Text) : distance left right = distance right left := by
  induction left, right using distance_induction with
  | nil_left right => simp
  | nil_right left => simp
  | cons_cons c left d right hboth hleft hright =>
    rw [distance_cons_cons, distance_cons_cons, hboth, hleft, hright,
      Nat.min_comm (distance (d :: right) left)]
    simp only [eq_comm (a := c) (b := d)]

theorem length_le_add_distance (left right : Text) :
    left.length ≤ right.length + distance left right ∧
      right.length ≤ left.length + distance left right := by
  induction left, right using distance_induction with
  | nil_left right => simp
  | nil_right left => simp
  | cons_cons c left d right hboth hleft hright =>
    rw [distance_cons_cons]
    simp only [List.length_cons] at hleft hright ⊢
    split <;> omega

theorem distance_le_max (left right : Text) :
    distance left right ≤ max left.length right.length := by
  induction left, right using distance_induction with
  | nil_left right => simp
  | nil_right left => simp
  | cons_cons c left d right hboth _ _ =>
    rw [distance_cons_cons]
    simp only [List.length_cons]
    split <;> omega

end CommandShell.Match
