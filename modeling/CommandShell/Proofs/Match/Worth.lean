import Mathlib.Tactic.NormNum
import CommandShell.Proofs.Match.Distance
import CommandShell.Proofs.Match.Rules
import CommandShell.Proofs.Number.Binary64

/-!
# Scores as exact numbers

The worth of a command is its score before any rounding: the worth of the strongest rule that
holds, or else half the share of the text that the edit distance leaves alone. The score is computed
from it by operations that keep the order, and stays within the 52nd binary fraction of it. Main
statements: the worth lies between zero and one and tells whether the texts are equal and whether a
rule holds; and no score is that of the rule for last segments.
-/

namespace CommandShell.Match

variable {text command left right : Text} {w v : Rat}

/-- The score by edit distance as an exact number. -/
def editWorth (left right : Text) : Rat :=
  if left.isEmpty || right.isEmpty then 0
  else if distanceLimit < distance left right then 0
  else (1 - distance left right / (max left.length right.length : Nat)) / 2

/-- The score of `command` for `text` as an exact number. -/
def worth (text command : Text) : Rat :=
  match rule? text.lower command.lower with
  | some rule => rule.worth
  | none => editWorth text.lower command.lower

/-- What comes of the exact number `w` when a score is computed: the rules stand for one number
each, and an edit score is the outcome of a quotient, a difference and a product. -/
def computed (w : Rat) : Rat :=
  if w ≤ 1 / 2 then Binary64.round (Binary64.round (1 - Binary64.round (1 - 2 * w)) * (1 / 2))
  else Binary64.round w

/-! ## Worth of the rules and of the edit distance -/

theorem Rule.le_worth (rule : Rule) : 6 / 10 ≤ rule.worth := by
  cases rule <;> norm_num [worth]

theorem Rule.worth_le_one (rule : Rule) : rule.worth ≤ 1 := by
  cases rule <;> norm_num [worth]

theorem Rule.worth_lt_one {rule : Rule} (h : rule ≠ .equal) : rule.worth < 1 := by
  cases rule with
  | equal => contradiction
  | _ => norm_num [worth]

theorem worth_of_rule {rule : Rule} (h : rule? text.lower command.lower = some rule) :
    worth text command = rule.worth := by
  rw [worth, h]

theorem worth_of_no_rule (h : rule? text.lower command.lower = none) :
    worth text command = editWorth text.lower command.lower := by
  rw [worth, h]

/-- The texts are so near that their distance `d` scores beside the longer length `m`. -/
structure Near (left right : Text) (d m : Nat) : Prop where
  distance_eq : distance left right = d
  longer_eq : max left.length right.length = m
  le_limit : d ≤ distanceLimit
  lt_longer : d < m

theorem Near.le_three {d m : Nat} (h : Near left right d m) : d ≤ 3 :=
  h.le_limit

theorem Near.longer_pos {d m : Nat} (h : Near left right d m) : 0 < m :=
  Nat.zero_lt_of_lt h.lt_longer

theorem Near.length_le {d m : Nat} (h : Near left right d m) : left.length ≤ m := by
  rw [← h.longer_eq]
  exact le_max_left _ _

/-- The longer text is longer by no more than the edits. -/
theorem Near.le_add {d m : Nat} (h : Near left right d m) : m ≤ left.length + d := by
  have hlengths := length_le_add_distance left right
  rw [← h.longer_eq, ← h.distance_eq]
  omega

/-- The edit distance is worth nothing, or the texts are near. -/
theorem editWorth_cases (left right : Text) :
    editWorth left right = 0 ∨
      ∃ d m, Near left right d m ∧ editWorth left right = (1 - d / m) / 2 := by
  rw [editWorth]
  split
  · exact Or.inl rfl
  split
  · exact Or.inl rfl
  next hfilled hlimit =>
  rcases (distance_le_max left right).eq_or_lt with heq | hlt
  · left
    rw [Bool.or_eq_true, not_or, List.isEmpty_iff, List.isEmpty_iff] at hfilled
    have hpos : 0 < left.length := List.length_pos_iff.2 hfilled.1
    have hlonger : ((max left.length right.length : Nat) : Rat) ≠ 0 := by
      exact_mod_cast (lt_max_of_lt_left hpos).ne'
    rw [heq, div_self hlonger, sub_self, zero_div]
  · exact Or.inr ⟨_, _, ⟨rfl, rfl, Nat.not_lt.1 hlimit, hlt⟩, rfl⟩

/-- Three edits at most leave a quarter of a text that is longer than that. -/
theorem Near.le_half_share {d m : Nat} (h : Near left right d m) :
    (1 / 8 : Rat) ≤ (1 - d / m) / 2 ∧ ((1 - d / m) / 2 : Rat) ≤ 1 / 2 := by
  have hm : (0 : Rat) < m := by exact_mod_cast h.longer_pos
  have hedits : d * 4 ≤ 3 * m := by
    have := h.le_three
    have := h.lt_longer
    omega
  have hshare : (d / m : Rat) ≤ 3 / 4 := by
    rw [div_le_div_iff₀ hm (by norm_num)]
    exact_mod_cast hedits
  have hnonneg : (0 : Rat) ≤ d / m := by positivity
  constructor <;> linarith

/-- Half is left only where no edit is needed. -/
theorem editWorth_lt_half (h : left ≠ right) : editWorth left right < 1 / 2 := by
  rcases editWorth_cases left right with hzero | ⟨d, m, hnear, hworth⟩
  · rw [hzero]
    norm_num
  · have hd : 0 < d := Nat.pos_of_ne_zero fun hzero =>
      h (eq_of_distance_eq_zero (hnear.distance_eq.trans hzero))
    have hshare : (0 : Rat) < d / m :=
      div_pos (by exact_mod_cast hd) (by exact_mod_cast hnear.longer_pos)
    rw [hworth]
    linarith

theorem editWorth_eq_zero_or_le (left right : Text) :
    editWorth left right = 0 ∨ 1 / 8 ≤ editWorth left right := by
  rcases editWorth_cases left right with hzero | ⟨d, m, hnear, hworth⟩
  · exact Or.inl hzero
  · rw [hworth]
    exact Or.inr hnear.le_half_share.1

theorem editWorth_nonneg (left right : Text) : 0 ≤ editWorth left right := by
  rcases editWorth_eq_zero_or_le left right with hzero | hle
  · exact hzero.ge
  · linarith

theorem editWorth_le_one (left right : Text) : editWorth left right ≤ 1 := by
  rcases editWorth_cases left right with hzero | ⟨d, m, hnear, hworth⟩
  · rw [hzero]
    exact zero_le_one
  · rw [hworth]
    linarith [hnear.le_half_share.2]

/-- A command is worth nothing, what a rule is worth, or what few edits leave. -/
theorem worth_cases (text command : Text) :
    worth text command = 0 ∨ (∃ rule : Rule, worth text command = rule.worth) ∨
      ∃ d m, Near text.lower command.lower d m ∧ worth text command = (1 - d / m) / 2 := by
  cases hrule : rule? text.lower command.lower with
  | some rule => exact Or.inr (Or.inl ⟨rule, worth_of_rule hrule⟩)
  | none =>
    rw [worth_of_no_rule hrule]
    exact (editWorth_cases _ _).imp_right Or.inr

theorem worth_eq_zero_or_le (text command : Text) :
    worth text command = 0 ∨ 1 / 8 ≤ worth text command := by
  cases hrule : rule? text.lower command.lower with
  | some rule =>
    right
    rw [worth_of_rule hrule]
    linarith [rule.le_worth]
  | none =>
    rw [worth_of_no_rule hrule]
    exact editWorth_eq_zero_or_le _ _

theorem worth_nonneg (text command : Text) : 0 ≤ worth text command := by
  rcases worth_eq_zero_or_le text command with hzero | hle
  · exact hzero.ge
  · linarith

theorem worth_le_one (text command : Text) : worth text command ≤ 1 := by
  cases hrule : rule? text.lower command.lower with
  | some rule =>
    rw [worth_of_rule hrule]
    exact rule.worth_le_one
  | none =>
    rw [worth_of_no_rule hrule]
    exact editWorth_le_one _ _

/-- Without a rule the texts differ, so the edit distance leaves less than half. -/
theorem worth_lt_half (h : rule? text.lower command.lower = none) : worth text command < 1 / 2 := by
  rw [worth_of_no_rule h]
  refine editWorth_lt_half fun hequal => ?_
  rw [rule?_eq_equal_iff.2 hequal.symm] at h
  contradiction

/-! ## Computed numbers -/

theorem round_half : Binary64.round (1 / 2) = 1 / 2 := by decide +kernel

theorem computed_zero : computed 0 = 0 := by decide +kernel

theorem computed_half : computed (1 / 2) = 1 / 2 := by decide +kernel

theorem computed_one : computed 1 = 1 := by decide +kernel

theorem round_one_sub_round_le (x : Rat) : Binary64.round (1 - Binary64.round x) ≤ 1 :=
  Binary64.round_le_one (sub_le_self 1 (Binary64.round_nonneg x))

/-- An edit score is computed as at most one half. -/
theorem computed_edit_le_half (share : Rat) :
    Binary64.round (Binary64.round (1 - Binary64.round share) * (1 / 2)) ≤ 1 / 2 := by
  have hdifference := round_one_sub_round_le share
  calc Binary64.round (Binary64.round (1 - Binary64.round share) * (1 / 2))
      ≤ Binary64.round (1 / 2) := Binary64.round_mono (by linarith)
    _ = 1 / 2 := round_half

theorem computed_mono : Monotone computed := by
  intro w v hwv
  rw [computed, computed]
  split_ifs with hw hv hv
  · -- The share that is edited falls as the worth grows, and what is left rises again.
    have hshare : Binary64.round (1 - 2 * v) ≤ Binary64.round (1 - 2 * w) :=
      Binary64.round_mono (by linarith)
    have hdifference := Binary64.round_mono (sub_le_sub_left hshare 1)
    exact Binary64.round_mono (mul_le_mul_of_nonneg_right hdifference (by norm_num))
  · calc Binary64.round (Binary64.round (1 - Binary64.round (1 - 2 * w)) * (1 / 2))
        ≤ 1 / 2 := computed_edit_le_half _
      _ = Binary64.round (1 / 2) := round_half.symm
      _ ≤ Binary64.round v := Binary64.round_mono (not_le.1 hv).le
  · exact absurd (hwv.trans hv) hw
  · exact Binary64.round_mono hwv

/-- What is worth an eighth is not lost. -/
theorem computed_pos_iff (h : w = 0 ∨ 1 / 8 ≤ w) : 0 < computed w ↔ 0 < w := by
  rcases h with rfl | hle
  · rw [computed_zero]
  · have heighth : 0 < computed (1 / 8) := by decide +kernel
    exact iff_of_true (heighth.trans_le (computed_mono hle)) (by linarith)

/-- Each of the three operations goes wrong by the 53rd binary fraction at most. -/
theorem abs_computed_sub_le (hzero : 0 ≤ w) (hone : w ≤ 1) : |computed w - w| ≤ 1 / 2 ^ 52 := by
  rw [computed]
  split_ifs with hw
  · have hshare := abs_le.1
      (Binary64.abs_round_sub_le_of_le_one (x := 1 - 2 * w) (by linarith) (by linarith))
    have hshareNonneg := Binary64.round_nonneg (1 - 2 * w)
    have hshareLe : Binary64.round (1 - 2 * w) ≤ 1 := Binary64.round_le_one (by linarith)
    have hdifferenceLe := round_one_sub_round_le (1 - 2 * w)
    generalize Binary64.round (1 - 2 * w) = share at *
    have hdifference := abs_le.1
      (Binary64.abs_round_sub_le_of_le_one (x := 1 - share) (by linarith) (by linarith))
    have hdifferenceNonneg := Binary64.round_nonneg (1 - share)
    generalize Binary64.round (1 - share) = difference at *
    have hproduct := abs_le.1
      (Binary64.abs_round_sub_le_of_le_one (x := difference * (1 / 2)) (by linarith) (by linarith))
    have hunit : (1 : Rat) / 2 ^ 52 = 2 * (1 / 2 ^ 53) := by norm_num
    rw [hunit, abs_le]
    constructor <;> linarith
  · refine (Binary64.abs_round_sub_le_of_le_one hzero hone).trans ?_
    norm_num

/-! ## Scores -/

theorem computed_worth (rule : Rule) : computed rule.worth = Binary64.round rule.worth := by
  have hworth := rule.le_worth
  rw [computed, if_neg (by linarith)]

theorem editScore_eq_computed (left right : Text) :
    editScore left right = computed (editWorth left right) := by
  rw [editScore, editWorth]
  split
  · exact computed_zero.symm
  dsimp only
  split
  · exact computed_zero.symm
  have hnonneg : (0 : Rat) ≤ distance left right / (max left.length right.length : Nat) := by
    positivity
  have hshare : mkRat (distance left right) (max left.length right.length) =
      1 - 2 * ((1 - distance left right / (max left.length right.length : Nat)) / 2 : Rat) := by
    rw [Rat.mkRat_eq_div, Int.cast_natCast]
    ring
  rw [if_pos (computed_edit_le_half _), computed, if_pos (by linarith), ← hshare]

/-- A score is what is computed for the worth. -/
theorem score_eq_computed (text command : Text) :
    score text command = computed (worth text command) := by
  rw [score, worth]
  cases rule? text.lower command.lower with
  | some rule => exact (computed_worth rule).symm
  | none => exact editScore_eq_computed _ _

theorem abs_score_sub_worth_le (text command : Text) :
    |score text command - worth text command| ≤ 1 / 2 ^ 52 := by
  rw [score_eq_computed]
  exact abs_computed_sub_le (worth_nonneg text command) (worth_le_one text command)

/-- A score is positive exactly if the worth is, since the smallest positive worth is one eighth. -/
theorem score_pos_iff : 0 < score text command ↔ 0 < worth text command := by
  rw [score_eq_computed]
  exact computed_pos_iff (worth_eq_zero_or_le text command)

theorem worth_eq_one_iff : worth text command = 1 ↔ text.lower = command.lower := by
  rw [eq_comm (a := text.lower), ← rule?_eq_equal_iff]
  cases hrule : rule? text.lower command.lower with
  | some rule =>
    rw [worth_of_rule hrule, Option.some.injEq]
    constructor
    · intro hone
      by_contra hother
      exact (Rule.worth_lt_one hother).ne hone
    · rintro rfl
      rfl
  | none =>
    refine iff_of_false (fun hone => ?_) (Option.some_ne_none _).symm
    linarith [worth_lt_half hrule]

theorem le_worth_iff : 6 / 10 ≤ worth text command ↔ rule? text.lower command.lower ≠ none := by
  cases hrule : rule? text.lower command.lower with
  | some rule =>
    rw [worth_of_rule hrule]
    exact iff_of_true rule.le_worth (Option.some_ne_none rule)
  | none =>
    refine iff_of_false (fun hle => ?_) (not_not_intro rfl)
    linarith [worth_lt_half hrule]

/-- The computed score is one exactly if the exact number is. -/
theorem score_eq_one_iff : score text command = 1 ↔ worth text command = 1 := by
  rw [score_eq_computed]
  refine ⟨fun hone => ?_, fun hone => by rw [hone, computed_one]⟩
  by_contra hother
  refine absurd hone (ne_of_lt ?_)
  cases hrule : rule? text.lower command.lower with
  | some rule =>
    rw [worth_of_rule hrule] at hother ⊢
    cases rule with
    | equal => exact absurd rfl hother
    | _ => decide +kernel
  | none =>
    have hhalf : computed (1 / 2) < 1 := by decide +kernel
    exact (computed_mono (worth_lt_half hrule).le).trans_lt hhalf

/-- The computed score is at least the double next to 0.6 exactly if the exact number is at least
0.6: below it there is nothing down to one half. -/
theorem le_score_iff :
    Binary64.round (6 / 10) ≤ score text command ↔ 6 / 10 ≤ worth text command := by
  rw [score_eq_computed]
  constructor
  · intro hle
    by_contra hless
    have hnone : rule? text.lower command.lower = none := not_not.1 (mt le_worth_iff.2 hless)
    have hhalf : computed (1 / 2) < Binary64.round (6 / 10) := by decide +kernel
    exact absurd (hle.trans (computed_mono (worth_lt_half hnone).le)) hhalf.not_ge
  · intro hle
    calc Binary64.round (6 / 10)
        = computed (6 / 10) := (computed_worth .abbreviation).symm
      _ ≤ computed (worth text command) := computed_mono hle

/--
A score means what its range says, letter case apart. Its exact number lies between zero and one;
it is one exactly if the texts are equal; it is at least 0.6 exactly if the command includes the
text or the segments of the text begin neighbouring segments of the command, one by one; and
otherwise it is below one half. The score that is computed is within the 52nd binary fraction of it,
and reaches one and the double next to 0.6 exactly where it reaches one and 0.6.
-/
theorem score_means_its_range (text command : Text) :
    (0 ≤ worth text command ∧ worth text command ≤ 1) ∧
    (worth text command = 1 ↔ text.lower = command.lower) ∧
    (6 / 10 ≤ worth text command ↔
      text.lower <:+: command.lower ∨ BeginsRun text.lower.segments command.lower.segments) ∧
    (6 / 10 ≤ worth text command ∨ worth text command < 1 / 2) ∧
    |score text command - worth text command| ≤ 1 / 2 ^ 52 ∧
    (score text command = 1 ↔ worth text command = 1) ∧
    (Binary64.round (6 / 10) ≤ score text command ↔ 6 / 10 ≤ worth text command) := by
  refine ⟨⟨worth_nonneg text command, worth_le_one text command⟩, worth_eq_one_iff, ?_, ?_,
    abs_score_sub_worth_le text command, score_eq_one_iff, le_score_iff⟩
  · rw [le_worth_iff, ne_eq, rule?_eq_none_iff, not_not]
  · rw [le_worth_iff, or_iff_not_imp_left, not_not]
    exact worth_lt_half

/--
The rule for last segments is the one for endings: the segments of a text are the last ones of a
command, fewer than all, exactly if the command ends with a dot and the text. Since the rule for
endings is tried before, no score has the value of the rule for last segments.
-/
theorem last_segments_are_ending (text command : Text) :
    (trailingSegments text command = true ↔ '.' :: text <:+ command) ∧
      score text command ≠ Binary64.round Rule.trailing.worth := by
  refine ⟨trailingSegments_iff, ?_⟩
  cases hrule : rule? text.lower command.lower with
  | some rule =>
    rw [score_eq_computed, worth_of_rule hrule, computed_worth]
    have hother : rule ≠ .trailing := by
      rintro rfl
      exact rule?_ne_trailing _ _ hrule
    revert hother
    cases rule <;> decide +kernel
  | none =>
    have hhalf : computed (1 / 2) < Binary64.round Rule.trailing.worth := by decide +kernel
    rw [score_eq_computed]
    exact ((computed_mono (worth_lt_half hrule).le).trans_lt hhalf).ne

end CommandShell.Match
