import CommandShell.Proofs.Match.Choice
import CommandShell.Proofs.Match.Worth

/-!
# The threshold for candidates

The threshold grows with the best score, and it is computed in rounded numbers. Rounding moves a
score and a threshold far less than they are apart, unless they are tied or the texts are very long;
and of two commands that are near one long text neither comes near the threshold of the other. Main
statements: more commands only narrow the old candidates; and the candidates are those by exact
numbers, but for three ties between edit distances.
-/

namespace CommandShell.Match

variable {text c top : Text} {commands old extra : List Text} {b w : Rat}

/-! ## More commands -/

theorem candidateShare_nonneg : 0 ≤ candidateShare :=
  Binary64.round_nonneg _

theorem threshold_mono : Monotone threshold := fun _ _ h =>
  Binary64.round_mono (mul_le_mul_of_nonneg_right h candidateShare_nonneg)

theorem bestScore_le_append (text : Text) (old extra : List Text) :
    bestScore text old ≤ bestScore text (old ++ extra) := by
  refine best_le_best fun s hs _ => ?_
  rw [List.map_append]
  exact List.mem_append_left _ hs

theorem bestScore_append_eq (h : ∀ e ∈ extra, score text e ≤ bestScore text old) :
    bestScore text (old ++ extra) = bestScore text old := by
  refine le_antisymm ?_ (bestScore_le_append text old extra)
  have hnonneg : 0 ≤ bestScore text (old ++ extra) := best_nonneg _
  rcases hnonneg.eq_or_lt with hzero | hpos
  · rw [← hzero]
    exact best_nonneg _
  · obtain ⟨top, htop, hscore⟩ := exists_score_eq_bestScore hpos
    rw [← hscore]
    exact (List.mem_append.1 htop).elim score_le_bestScore (h top)

/--
More commands only narrow the old candidates. An old command that is a candidate beside the added
ones is one without them. Where an old command scores and none of the added ones scores higher than
the best old one, the old candidates stay, in front of those that are added.
-/
theorem more_commands_narrow (text : Text) (old extra : List Text) :
    (∀ c ∈ old, c ∈ candidates text (old ++ extra) → c ∈ candidates text old) ∧
    (0 < bestScore text old → (∀ e ∈ extra, score text e ≤ bestScore text old) →
      (∀ c ∈ old, c ∈ candidates text (old ++ extra) ↔ c ∈ candidates text old) ∧
      ∃ added, List.Sublist added extra ∧
        candidates text (old ++ extra) = candidates text old ++ added) := by
  have hnarrow : ∀ c ∈ old, c ∈ candidates text (old ++ extra) → c ∈ candidates text old := by
    intro c hc hcandidate
    obtain ⟨-, hpos, hreach⟩ := mem_candidates_iff.1 hcandidate
    have hthreshold := threshold_mono (bestScore_le_append text old extra)
    exact mem_candidates_iff.2 ⟨hc, hpos, hthreshold.trans hreach⟩
  refine ⟨hnarrow, fun _ hbeaten => ?_⟩
  have hsame : candidates text (old ++ extra) = candidates text old ++ extra.filter fun c =>
      0 < score text c ∧ threshold (bestScore text old) ≤ score text c := by
    rw [candidates_eq_filter, candidates_eq_filter, bestScore_append_eq hbeaten, List.filter_append]
  refine ⟨fun c hc => ⟨hnarrow c hc, fun hcandidate => ?_⟩, _, List.filter_sublist, hsame⟩
  rw [hsame]
  exact List.mem_append_left _ hcandidate

/-- A command with a higher score drops one that only includes the text; commands with no higher
score drop nothing. -/
theorem more_commands_narrow_log :
    let old := ["logs".toList, "blog".toList]
    let better := ["sys.log".toList]
    let other := ["logic".toList, "catalog".toList]
    ("logs".toList ∈ old ∧ "logs".toList ∈ candidates "log".toList (old ++ better) ∧
      "logs".toList ∈ candidates "log".toList old ∧
      "blog".toList ∉ candidates "log".toList (old ++ better)) ∧
    (0 < bestScore "log".toList old ∧
      (∀ e ∈ other, score "log".toList e ≤ bestScore "log".toList old)) ∧
    ("blog".toList ∈ candidates "log".toList (old ++ other) ↔
      "blog".toList ∈ candidates "log".toList old) ∧
    ∃ added, List.Sublist added other ∧
      candidates "log".toList (old ++ other) = candidates "log".toList old ++ added := by
  intro old better other
  obtain ⟨hnarrow, -⟩ := more_commands_narrow "log".toList old better
  obtain ⟨-, hsame⟩ := more_commands_narrow "log".toList old other
  have hkept : "logs".toList ∈ candidates "log".toList (old ++ better) := by decide +kernel
  have hpos : 0 < bestScore "log".toList old := by decide +kernel
  have hbeaten : ∀ e ∈ other, score "log".toList e ≤ bestScore "log".toList old := by
    decide +kernel
  obtain ⟨hcandidate, hadded⟩ := hsame hpos hbeaten
  exact ⟨⟨by decide, hkept, hnarrow _ (by decide) hkept, by decide +kernel⟩, ⟨hpos, hbeaten⟩,
    hcandidate _ (by decide), hadded⟩

/-! ## The best exact number -/

/-- The best exact number that a command has for a text. -/
def bestWorth (text : Text) (commands : List Text) : Rat :=
  best (commands.map (worth text))

/-- The best of numbers that were mapped in order is what the best one is mapped to. -/
theorem best_map {f : Rat → Rat} (hf : Monotone f) (hzero : f 0 = 0) (scores : List Rat) :
    best (scores.map f) = f (best scores) := by
  apply le_antisymm
  · rcases best_eq_zero_or_mem (scores.map f) with hbest | hmem
    · rw [hbest, ← hzero]
      exact hf (best_nonneg scores)
    · obtain ⟨s, hs, hbest⟩ := List.mem_map.1 hmem
      rw [← hbest]
      exact hf (le_best hs)
  · rcases best_eq_zero_or_mem scores with hbest | hmem
    · rw [hbest, hzero]
      exact best_nonneg _
    · exact le_best (List.mem_map_of_mem hmem)

theorem bestScore_eq_computed (text : Text) (commands : List Text) :
    bestScore text commands = computed (bestWorth text commands) := by
  have hscores : commands.map (score text) = (commands.map (worth text)).map computed := by
    rw [List.map_map]
    exact List.map_congr_left fun c _ => score_eq_computed text c
  rw [bestScore, hscores, best_map computed_mono computed_zero, bestWorth]

theorem worth_le_bestWorth (h : c ∈ commands) : worth text c ≤ bestWorth text commands :=
  le_best (List.mem_map_of_mem h)

theorem exists_worth_eq_bestWorth (h : 0 < bestWorth text commands) :
    ∃ top ∈ commands, worth text top = bestWorth text commands := by
  rcases best_eq_zero_or_mem (commands.map (worth text)) with hzero | hmem
  · exact absurd hzero h.ne'
  · exact List.mem_map.1 hmem

/-! ## Computed and exact comparison -/

/-- The ties that rounding breaks: the best exact number and four fifths of it. -/
def lostTies : List (Rat × Rat) :=
  [(3 / 8, 3 / 10), (7 / 16, 7 / 20), (5 / 14, 2 / 7)]

/-- The computed comparison with the threshold comes out as the exact one, the lost ties apart. -/
def Agrees (b w : Rat) : Prop :=
  threshold (computed b) ≤ computed w ↔ 4 / 5 * b ≤ w ∧ (b, w) ∉ lostTies

instance (b w : Rat) : Decidable (Agrees b w) :=
  inferInstanceAs (Decidable (_ ↔ _))

theorem eq_of_mem_lostTies (h : (b, w) ∈ lostTies) : w = 4 / 5 * b := by
  have hties : ∀ tie ∈ lostTies, tie.2 = 4 / 5 * tie.1 := by decide +kernel
  exact hties _ h

/-- Rounding moves the threshold by the 51st binary fraction at most. -/
theorem abs_threshold_computed_sub_le (hzero : 0 ≤ b) (hone : b ≤ 1) :
    |threshold (computed b) - 4 / 5 * b| ≤ 1 / 2 ^ 51 := by
  have hbest := abs_computed_sub_le hzero hone
  have hbestNonneg : 0 ≤ computed b := computed_zero.ge.trans (computed_mono hzero)
  have hbestLe : computed b ≤ 1 := (computed_mono hone).trans computed_one.le
  have hshare : |candidateShare - 8 / 10| ≤ 1 / 2 ^ 53 :=
    Binary64.abs_round_sub_le_of_le_one (by norm_num) (by norm_num)
  have hshareLe : candidateShare ≤ 1 := Binary64.round_le_one (by norm_num)
  have hround : |threshold (computed b) - computed b * candidateShare| ≤ 1 / 2 ^ 53 :=
    Binary64.abs_round_sub_le_of_le_one (mul_nonneg hbestNonneg candidateShare_nonneg)
      (mul_le_one₀ hbestLe candidateShare_nonneg hshareLe)
  have hleft : |(computed b - b) * candidateShare| ≤ 1 / 2 ^ 52 := by
    rw [abs_mul, abs_of_nonneg candidateShare_nonneg]
    exact (mul_le_of_le_one_right (abs_nonneg _) hshareLe).trans hbest
  have hright : |b * (candidateShare - 8 / 10)| ≤ 1 / 2 ^ 53 := by
    rw [abs_mul, abs_of_nonneg hzero]
    exact (mul_le_of_le_one_left (abs_nonneg _) hone).trans hshare
  have hunit : (1 : Rat) / 2 ^ 51 = 1 / 2 ^ 52 + 2 * (1 / 2 ^ 53) := by norm_num
  rw [abs_le] at hround hleft hright ⊢
  rw [hunit]
  constructor <;> linarith

/-- Numbers that are no near ties are compared as the exact ones are. -/
theorem agrees_of_apart (hb : 0 ≤ b ∧ b ≤ 1) (hw : 0 ≤ w ∧ w ≤ 1)
    (h : 1 / 2 ^ 50 ≤ |w - 4 / 5 * b|) : Agrees b w := by
  have hthreshold := abs_le.1 (abs_threshold_computed_sub_le hb.1 hb.2)
  have hscore := abs_le.1 (abs_computed_sub_le hw.1 hw.2)
  have hnone : (b, w) ∉ lostTies := fun hmem => by
    rw [eq_of_mem_lostTies hmem, sub_self, abs_zero] at h
    norm_num at h
  norm_num at hthreshold hscore h
  rw [Agrees, and_iff_left hnone]
  rcases le_abs.1 h with habove | hbelow
  · exact iff_of_true (by linarith) (by linarith)
  · exact iff_of_false (by linarith) (by linarith)

/-- A quotient of whole numbers that is not zero is no smaller than one over a bound of its
denominator. -/
theorem one_div_le_abs_div {num : Int} {den k : Nat} (hnum : num ≠ 0) (hden : 0 < den)
    (hle : den ≤ k) : (1 / k : Rat) ≤ |(num / den : Rat)| := by
  have hpos : (0 : Rat) < den := by exact_mod_cast hden
  have hone : (1 : Rat) ≤ |(num : Rat)| := by exact_mod_cast Int.one_le_abs hnum
  calc (1 / k : Rat)
      ≤ 1 / den := one_div_le_one_div_of_le hpos (by exact_mod_cast hle)
    _ ≤ |(num : Rat)| / den := div_le_div_of_nonneg_right hone hpos.le
    _ = |(num / den : Rat)| := by rw [abs_div, abs_of_pos hpos]

theorem agrees_of_rules (rule rule' : Rule) : Agrees rule.worth rule'.worth := by
  cases rule <;> cases rule' <;> decide +kernel

/-- Beside the weakest rule an edit score meets the threshold if one character in 25 is edited. -/
theorem agrees_of_weakest_of_near {left right : Text} {d m : Nat} (h : Near left right d m) :
    Agrees (6 / 10) ((1 - d / m) / 2) := by
  obtain ⟨hlow, hhigh⟩ := h.le_half_share
  have hlimit := h.le_three
  have hm : 0 < m := h.longer_pos
  have hmRat : (0 : Rat) < m := by exact_mod_cast hm
  have hapart := agrees_of_apart (b := 6 / 10) (w := (1 - d / m) / 2) (by norm_num)
    ⟨by linarith, by linarith⟩
  by_cases htie : m = 25 * d
  · have hd : (d : Rat) ≠ 0 := by
      rw [Nat.cast_ne_zero]
      omega
    have hshare : (d / m : Rat) = 1 / 25 := by
      rw [htie]
      push_cast
      field_simp
    rw [hshare]
    decide +kernel
  by_cases hshort : m ≤ 100
  · have hgap : ((1 - d / m) / 2 - 4 / 5 * (6 / 10) : Rat) =
        ((m - (25 * d : Nat) : Int) : Rat) / (50 * m : Nat) := by
      push_cast
      field_simp
      ring
    rw [hgap] at hapart
    refine hapart (le_trans (by norm_num) (one_div_le_abs_div (k := 5000) ?_ ?_ ?_))
    all_goals omega
  · have hshare : (d / m : Rat) ≤ 3 / 101 := by
      rw [div_le_div_iff₀ hmRat (by norm_num)]
      exact_mod_cast (by omega : d * 101 ≤ 3 * m)
    refine hapart (le_abs.2 (Or.inl ?_))
    norm_num
    linarith

/-- Any other rule puts the threshold above all edit scores. -/
theorem agrees_of_rule_of_near {left right : Text} {d m : Nat} (rule : Rule)
    (h : Near left right d m) : Agrees rule.worth ((1 - d / m) / 2) := by
  by_cases hweakest : rule = .abbreviation
  · subst hweakest
    exact agrees_of_weakest_of_near h
  obtain ⟨hlow, hhigh⟩ := h.le_half_share
  have hstrong : 7 / 10 ≤ rule.worth := by
    cases rule with
    | abbreviation => contradiction
    | _ => norm_num [Rule.worth]
  refine agrees_of_apart ⟨by linarith, rule.worth_le_one⟩ ⟨by linarith, by linarith⟩
    (le_abs.2 (Or.inr ?_))
  norm_num
  linarith

set_option synthInstance.maxSize 200 in
/-- The ties between edit scores of short texts, each compared as it is computed. -/
theorem agrees_of_tie : ∀ d : Nat, d < 4 → ∀ m : Nat, m < 22 → ∀ d' : Nat, d' < 4 →
    ∀ m' : Nat, m' < 19 → d < m ∧ d' < m' ∧ m * m' + 4 * (d * m') = 5 * (d' * m) →
      Agrees ((1 - d / m) / 2) ((1 - d' / m') / 2) := by
  decide +kernel

/-- How far an edit score is from the threshold beside another one. -/
theorem edit_gap {d m d' m' : Nat} (hm : 0 < m) (hm' : 0 < m') :
    ((1 - d' / m') / 2 - 4 / 5 * ((1 - d / m) / 2) : Rat) =
      (((m * m' + 4 * (d * m') : Nat) - (5 * (d' * m) : Nat) : Int) : Rat) /
        (10 * (m * m') : Nat) := by
  have hmRat : (m : Rat) ≠ 0 := by exact_mod_cast hm.ne'
  have hmRat' : (m' : Rat) ≠ 0 := by exact_mod_cast hm'.ne'
  push_cast
  field_simp
  ring

/-- Two commands that are near one text have lengths no more than three apart, and only short ones
come near a tie. -/
theorem agrees_of_near {left right right' : Text} {d m d' m' : Nat} (hbest : Near left right d m)
    (hnear : Near left right' d' m') : Agrees ((1 - d / m) / 2) ((1 - d' / m') / 2) := by
  obtain ⟨hlow, hhigh⟩ := hbest.le_half_share
  obtain ⟨hlow', hhigh'⟩ := hnear.le_half_share
  have hm : 0 < m := hbest.longer_pos
  have hm' : 0 < m' := hnear.longer_pos
  have hlimit := hbest.le_three
  have hlimit' := hnear.le_three
  have hapart := agrees_of_apart (b := (1 - d / m) / 2) (w := (1 - d' / m') / 2)
    ⟨by linarith, by linarith⟩ ⟨by linarith, by linarith⟩
  by_cases hshort : m' < 19
  · -- So few pairs are left that those with a tie are tried, and the others differ enough.
    have hclose : m < 22 := by
      have := hbest.le_add
      have := hnear.length_le
      omega
    by_cases htie : m * m' + 4 * (d * m') = 5 * (d' * m)
    · exact agrees_of_tie d (by omega) m hclose d' (by omega) m' hshort
        ⟨hbest.lt_longer, hnear.lt_longer, htie⟩
    · have hproduct : m * m' ≤ 21 * 18 := Nat.mul_le_mul (by omega) (by omega)
      have hpositive : 0 < m * m' := Nat.mul_pos hm hm'
      rw [edit_gap hm hm'] at hapart
      refine hapart (le_trans (by norm_num) (one_div_le_abs_div (k := 3780) ?_ ?_ ?_))
      all_goals omega
  · -- Less than a fifth is edited, and no threshold beside an edit score is as high as that.
    have hshare : (0 : Rat) ≤ d / m := by positivity
    have hshare' : (d' / m' : Rat) ≤ 3 / 19 := by
      rw [div_le_div_iff₀ (by exact_mod_cast hm') (by norm_num)]
      exact_mod_cast (by omega : d' * 19 ≤ 3 * m')
    refine hapart (le_abs.2 (Or.inl ?_))
    norm_num
    linarith

/-! ## Candidates by exact numbers -/

/-- Beside a best command of the list, whatever both of them score by. -/
theorem agrees_worth (hpos : 0 < worth text c) (hle : worth text c ≤ worth text top) :
    Agrees (worth text top) (worth text c) := by
  rcases worth_cases text top with hzero | ⟨rule, htop⟩ | ⟨d, m, hbest, htop⟩
  · linarith
  · rcases worth_cases text c with hzero | ⟨rule', hc⟩ | ⟨d', m', hnear, hc⟩
    · exact absurd hzero hpos.ne'
    · rw [htop, hc]
      exact agrees_of_rules rule rule'
    · rw [htop, hc]
      exact agrees_of_rule_of_near rule hnear
  · rcases worth_cases text c with hzero | ⟨rule', hc⟩ | ⟨d', m', hnear, hc⟩
    · exact absurd hzero hpos.ne'
    · -- A rule is worth more than any edit distance, so it would have been best.
      have hrule := rule'.le_worth
      have hhalf := hbest.le_half_share.2
      linarith
    · rw [htop, hc]
      exact agrees_of_near hbest hnear

/--
Which commands are candidates is decided as for exact numbers, three ties apart: a candidate is a
command whose exact number is positive and at least four fifths of the best one, but not one that
meets the four fifths exactly where the best number is 3/8, 7/16 or 5/14. Rounding lifts the
threshold above those, and the candidates are lost.
-/
theorem candidates_but_lost_ties (text : Text) (commands : List Text) :
    candidates text commands = commands.filter fun c =>
      0 < worth text c ∧ 4 / 5 * bestWorth text commands ≤ worth text c ∧
        (bestWorth text commands, worth text c) ∉ lostTies := by
  rw [candidates_eq_filter]
  refine List.filter_congr fun c hc => decide_eq_decide.2 ?_
  rw [score_pos_iff]
  refine and_congr_right fun hpos => ?_
  have hle : worth text c ≤ bestWorth text commands := worth_le_bestWorth hc
  obtain ⟨top, -, htop⟩ := exists_worth_eq_bestWorth (hpos.trans_le hle)
  rw [bestScore_eq_computed, score_eq_computed, ← htop]
  exact agrees_worth hpos (htop ▸ hle)

/-- One edit in four characters is best; two in five come to four fifths of it, and are lost. -/
example : candidates "abcd".toList ["abcx".toList, "abxde".toList] = ["abcx".toList] := by
  decide +kernel

end CommandShell.Match
