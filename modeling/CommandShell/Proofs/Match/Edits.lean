import Mathlib.Order.Bounds.Defs
import CommandShell.Proofs.Match.Worth

/-!
# Edits

An edit inserts, deletes or replaces one character at any place of a text. The distance that is
computed falls by one with an edit at most, and there are edits that bring it down step by step.
Main statements: the distance of two texts is the least number of edits that turn one into the
other, and the score by edit distance is what this number leaves of the longer text, halved.
-/

namespace CommandShell.Match

/-- One character is inserted, deleted or replaced. -/
inductive Edit : Text → Text → Prop where
  | insert (front : Text) (c : Char) (rest : Text) : Edit (front ++ rest) (front ++ c :: rest)
  | delete (front : Text) (c : Char) (rest : Text) : Edit (front ++ c :: rest) (front ++ rest)
  | replace (front : Text) (c d : Char) (rest : Text) :
    Edit (front ++ c :: rest) (front ++ d :: rest)

/-- A number of edits, one after another, turn a text into another. -/
inductive Edits : Nat → Text → Text → Prop where
  | done (t : Text) : Edits 0 t t
  | step {n : Nat} {left mid right : Text} (first : Edit left mid) (others : Edits n mid right) :
    Edits (n + 1) left right

variable {left mid right a b : Text} {n : Nat}

/-! ## As many edits as the distance -/

theorem Edit.cons (h : Edit left right) (c : Char) : Edit (c :: left) (c :: right) := by
  cases h with
  | insert front d rest => exact .insert (c :: front) d rest
  | delete front d rest => exact .delete (c :: front) d rest
  | replace front d e rest => exact .replace (c :: front) d e rest

theorem Edits.cons (h : Edits n left right) (c : Char) : Edits n (c :: left) (c :: right) := by
  induction h with
  | done t => exact .done (c :: t)
  | step first _ ih => exact .step (first.cons c) ih

theorem Edits.of_nil_left (right : Text) : Edits right.length [] right := by
  induction right with
  | nil => exact .done []
  | cons d right ih => exact .step (.insert [] d []) (ih.cons d)

theorem Edits.of_nil_right (left : Text) : Edits left.length left [] := by
  induction left with
  | nil => exact .done []
  | cons c left ih => exact .step (.delete [] c left) ih

/-- The first characters are matched, and an edit is needed unless they are the same. -/
theorem Edits.match_first (h : Edits n left right) (c d : Char) :
    Edits (n + if c = d then 0 else 1) (c :: left) (d :: right) := by
  split
  · next hcd => exact hcd ▸ h.cons c
  · exact .step (.replace [] c d left) (h.cons d)

/-- Edits that follow the recurrence from the first characters on. -/
theorem edits_distance (left right : Text) : Edits (distance left right) left right := by
  induction left, right using distance_induction with
  | nil_left right =>
    rw [distance_nil_left]
    exact Edits.of_nil_left right
  | nil_right left =>
    rw [distance_nil_right]
    exact Edits.of_nil_right left
  | cons_cons c left d right hboth hleft hright =>
    rw [distance_cons_cons]
    rcases min_choice (distance left right + if c = d then 0 else 1)
      (min (distance left (d :: right)) (distance (c :: left) right) + 1) with hmin | hmin
    · rw [hmin]
      exact hboth.match_first c d
    · rw [hmin]
      rcases min_choice (distance left (d :: right)) (distance (c :: left) right) with hless | hless
      · rw [hless]
        exact .step (.delete [] c left) hleft
      · rw [hless]
        exact .step (.insert [] d (c :: left)) (hright.cons d)

/-! ## No fewer edits than the distance -/

theorem distance_cons_left_le (c : Char) (left right : Text) :
    distance (c :: left) right ≤ distance left right + 1 := by
  cases right with
  | nil => exact le_rfl
  | cons d right =>
    rw [distance_cons_cons]
    omega

theorem distance_cons_right_le (left : Text) (d : Char) (right : Text) :
    distance left (d :: right) ≤ distance left right + 1 := by
  rw [distance_comm left, distance_comm left]
  exact distance_cons_left_le d right left

theorem distance_le_cons_left (c : Char) (left right : Text) :
    distance left right ≤ distance (c :: left) right + 1 := by
  induction right with
  | nil =>
    rw [distance_cons_nil]
    omega
  | cons d right ih =>
    have hlonger := distance_cons_right_le left d right
    rw [distance_cons_cons]
    omega

theorem distance_replace_le (c d : Char) (left right : Text) :
    distance (c :: left) right ≤ distance (d :: left) right + 1 := by
  induction right with
  | nil => exact Nat.le_succ _
  | cons e right ih =>
    rw [distance_cons_cons, distance_cons_cons]
    split <;> omega

/-- What stands in front of both texts does not bring them further apart. -/
theorem distance_cons_le (h : ∀ right, distance a right ≤ distance b right + 1) (c : Char)
    (right : Text) : distance (c :: a) right ≤ distance (c :: b) right + 1 := by
  induction right with
  | nil =>
    rw [distance_cons_nil, distance_cons_nil]
    have := h []
    omega
  | cons d right ih =>
    have := h right
    have := h (d :: right)
    rw [distance_cons_cons, distance_cons_cons]
    omega

theorem distance_append_le (h : ∀ right, distance a right ≤ distance b right + 1) (front : Text)
    (right : Text) : distance (front ++ a) right ≤ distance (front ++ b) right + 1 := by
  induction front generalizing right with
  | nil => exact h right
  | cons c front ih => exact distance_cons_le ih c right

/-- An edit brings a text nearer to another by one at most. -/
theorem Edit.distance_le (h : Edit left mid) (right : Text) :
    distance left right ≤ distance mid right + 1 := by
  cases h with
  | insert front c rest => exact distance_append_le (distance_le_cons_left c rest) front right
  | delete front c rest => exact distance_append_le (distance_cons_left_le c rest) front right
  | replace front c d rest => exact distance_append_le (distance_replace_le c d rest) front right

theorem Edits.distance_le (h : Edits n left right) : distance left right ≤ n := by
  induction h with
  | done t => exact (distance_self t).le
  | step first _ ih => exact (first.distance_le _).trans (Nat.succ_le_succ ih)

/-- The distance is the least number of edits. -/
theorem distance_isLeast (left right : Text) :
    IsLeast {n | Edits n left right} (distance left right) :=
  ⟨edits_distance left right, fun _ h => Edits.distance_le h⟩

/-! ## The score by edit distance -/

theorem editWorth_comm (left right : Text) : editWorth left right = editWorth right left := by
  rw [editWorth, editWorth, distance_comm, max_comm, Bool.or_comm]

theorem editWorth_self (h : left ≠ []) : editWorth left left = 1 / 2 := by
  have hempty : left.isEmpty = false := by simpa using h
  simp [editWorth, hempty, distanceLimit]

theorem editWorth_eq_half_iff : editWorth left right = 1 / 2 ↔ left = right ∧ left ≠ [] := by
  constructor
  · intro hhalf
    have hequal : left = right := by
      by_contra hother
      exact (editWorth_lt_half hother).ne hhalf
    refine ⟨hequal, ?_⟩
    rintro rfl
    norm_num [editWorth] at hhalf
  · rintro ⟨rfl, hne⟩
    exact editWorth_self hne

theorem editWorth_eq (left right : Text) :
    editWorth left right =
      if left = [] ∨ right = [] ∨ 3 < distance left right then (0 : Rat)
      else (1 - distance left right / (max left.length right.length : Nat)) / 2 := by
  rw [editWorth, distanceLimit]
  by_cases hleft : left = []
  · simp [hleft]
  by_cases hright : right = []
  · simp [hright]
  simp [hleft, hright]

theorem editWorth_pos_iff :
    0 < editWorth left right ↔ left ≠ [] ∧ right ≠ [] ∧ distance left right ≤ 3 ∧
      distance left right < max left.length right.length := by
  rw [editWorth_eq]
  split
  · next hnone =>
    refine iff_of_false (lt_irrefl 0) ?_
    rintro ⟨hleft, hright, hlimit, -⟩
    rcases hnone with h | h | h
    · exact hleft h
    · exact hright h
    · omega
  · next hsome =>
    obtain ⟨hleft, hright, hlimit⟩ : left ≠ [] ∧ right ≠ [] ∧ ¬3 < distance left right := by
      simpa only [not_or] using hsome
    have hpos : 0 < max left.length right.length :=
      lt_max_of_lt_left (List.length_pos_iff.2 hleft)
    have hlonger : (0 : Rat) < (max left.length right.length : Nat) := by exact_mod_cast hpos
    have hshare : 0 < (1 - distance left right / (max left.length right.length : Nat) : Rat) / 2 ↔
        distance left right < max left.length right.length := by
      rw [div_pos_iff_of_pos_right (by norm_num), sub_pos, div_lt_one hlonger]
      exact Nat.cast_lt
    rw [hshare]
    exact ⟨fun h => ⟨hleft, hright, Nat.not_lt.1 hlimit, h⟩, fun h => h.2.2.2⟩

theorem editScore_pos_iff : 0 < editScore left right ↔ 0 < editWorth left right := by
  rw [editScore_eq_computed]
  exact computed_pos_iff (editWorth_eq_zero_or_le left right)

/-- In texts of bounded length one edit takes away a share that is bounded too. -/
theorem editWorth_eq_half_or_le {m : Nat} (hpos : 0 < m)
    (h : max left.length right.length ≤ m) :
    editWorth left right = 1 / 2 ∨ editWorth left right ≤ (1 - 1 / m) / 2 := by
  have hm : (0 : Rat) < m := by exact_mod_cast hpos
  rcases editWorth_cases left right with hzero | ⟨d, n, hnear, hworth⟩
  · right
    have hone : (1 : Rat) / m ≤ 1 := by
      rw [div_le_one hm]
      exact_mod_cast hpos
    rw [hzero]
    linarith
  · rcases Nat.eq_zero_or_pos d with rfl | hd
    · left
      rw [hworth]
      norm_num
    · right
      have hn : (0 : Rat) < n := by exact_mod_cast hnear.longer_pos
      have hlength : (n : Rat) ≤ m := by
        rw [← hnear.longer_eq]
        exact_mod_cast h
      have hshare : (1 : Rat) / m ≤ d / n :=
        div_le_div₀ (Nat.cast_nonneg d) (by exact_mod_cast hd) hn hlength
      rw [hworth]
      linarith

/-- In texts up to this length one edit is not lost in the score that is computed. -/
theorem editScore_eq_half_iff (h : max left.length right.length ≤ 2 ^ 53) :
    editScore left right = 1 / 2 ↔ left = right ∧ left ≠ [] := by
  rw [editScore_eq_computed, ← editWorth_eq_half_iff]
  refine ⟨fun hhalf => ?_, fun hhalf => by rw [hhalf, computed_half]⟩
  refine (editWorth_eq_half_or_le (by norm_num) h).resolve_right fun hle => ?_
  have hless : computed ((1 - 1 / (2 ^ 53 : Nat)) / 2) < 1 / 2 := by decide +kernel
  exact ((computed_mono hle).trans_lt hless).ne hhalf

/--
The score by edit distance measures the true distance. There is a least number of edits that turn
one text into the other. With it and the longer length the score is zero if a text is empty or if it
takes more than three edits, and otherwise half the share of the longer length that is left; so it
is the same both ways, it is positive exactly if no text is empty and at most three edits and fewer
than the longer length are needed, and it is one half exactly if the texts are equal and not empty.
The score that is computed is within the 52nd binary fraction of this exact number. It too is the
same both ways, and it is positive in the same cases; and one half in the same cases, as long as the
texts have no more characters than the significand counts.
-/
theorem edit_score_measures_distance (left right : Text) :
    ∃ d, IsLeast {n | Edits n left right} d ∧
      (let m := max left.length right.length
      (editWorth left right =
        if left = [] ∨ right = [] ∨ 3 < d then (0 : Rat) else (1 - d / m) / 2) ∧
      editWorth left right = editWorth right left ∧
      (0 < editWorth left right ↔ left ≠ [] ∧ right ≠ [] ∧ d ≤ 3 ∧ d < m) ∧
      (editWorth left right = 1 / 2 ↔ left = right ∧ left ≠ []) ∧
      editScore left right = computed (editWorth left right) ∧
      |editScore left right - editWorth left right| ≤ 1 / 2 ^ 52 ∧
      editScore left right = editScore right left ∧
      (0 < editScore left right ↔ 0 < editWorth left right) ∧
      (m ≤ 2 ^ 53 → (editScore left right = 1 / 2 ↔ left = right ∧ left ≠ []))) := by
  refine ⟨distance left right, distance_isLeast left right, editWorth_eq left right,
    editWorth_comm left right, editWorth_pos_iff, editWorth_eq_half_iff,
    editScore_eq_computed left right, ?_, ?_, editScore_pos_iff, editScore_eq_half_iff⟩
  · rw [editScore_eq_computed]
    exact abs_computed_sub_le (editWorth_nonneg left right) (editWorth_le_one left right)
  · rw [editScore_eq_computed, editWorth_comm, ← editScore_eq_computed]

end CommandShell.Match
