import CommandShell.Proofs.Match.Worth
import CommandShell.Proofs.Text.Case

/-!
# Parts of a name

The rules are tried from the strongest one down, so a rule that applies bounds the score from below
whether or not it is the one that decides. Main statement: neighbouring segments of a name, joined
by dots, find that name, with a score that depends on whether they begin it, end it or neither.
-/

namespace CommandShell.Match

variable {text command : Text} {rule : Rule}

/-! ## The strongest rule that applies -/

/-- Whether a rule applies, no matter which other ones do; letter case counts. -/
def Rule.applies (text command : Text) : Rule → Bool
  | .equal => command = text
  | .ending => ('.' :: text).isSuffixOf command
  | .segment => command.includes ('.' :: text ++ ['.'])
  | .trailing => trailingSegments text command
  | .beginning => text.isPrefixOf command
  | .inside => command.includes text
  | .abbreviation => abbreviates text command

/-- The rules in the order in which they are tried. -/
def Rule.ranked : List Rule :=
  [.equal, .ending, .segment, .trailing, .beginning, .inside, .abbreviation]

theorem Rule.mem_ranked (rule : Rule) : rule ∈ ranked := by
  cases rule <;> decide

theorem Rule.ranked_descending : ranked.Pairwise fun a b => b.worth ≤ a.worth := by
  decide +kernel

theorem rule?_eq_find? (text command : Text) :
    rule? text command = Rule.ranked.find? (Rule.applies text command) := by
  have hcons : ∀ (rule : Rule) (rest : List Rule),
      (rule :: rest).find? (Rule.applies text command) =
        if rule.applies text command then some rule
        else rest.find? (Rule.applies text command) := by
    intro rule rest
    rw [List.find?_cons]
    cases rule.applies text command <;> rfl
  simp only [rule?, Rule.ranked, hcons, List.find?_nil, Rule.applies, decide_eq_true_eq]
  congr

/-- Where a rule applies, the rule that decides is worth as much or more. -/
theorem exists_rule?_of_applies (h : rule.applies text command = true) :
    ∃ decided, rule? text command = some decided ∧ rule.worth ≤ decided.worth := by
  rw [rule?_eq_find?]
  cases hfind : Rule.ranked.find? (Rule.applies text command) with
  | none => exact absurd h (List.find?_eq_none.1 hfind rule rule.mem_ranked)
  | some decided =>
    refine ⟨decided, rfl, ?_⟩
    obtain ⟨-, before, after, hranked, hbefore⟩ := List.find?_eq_some_iff_append.1 hfind
    have hdescending := Rule.ranked_descending
    have hmem := rule.mem_ranked
    rw [hranked] at hdescending hmem
    rcases List.mem_append.1 hmem with hmem | hmem
    · have hnot := hbefore rule hmem
      rw [h] at hnot
      contradiction
    · rcases List.mem_cons.1 hmem with rfl | hmem
      · exact le_rfl
      · exact List.rel_of_pairwise_cons (List.pairwise_append.1 hdescending).2.1 hmem

theorem worth_le_of_applies (h : rule.applies text.lower command.lower = true) :
    rule.worth ≤ worth text command := by
  obtain ⟨decided, hrule, hworth⟩ := exists_rule?_of_applies h
  rw [worth_of_rule hrule]
  exact hworth

theorem round_worth_le_of_applies (h : rule.applies text.lower command.lower = true) :
    Binary64.round rule.worth ≤ score text command := by
  rw [score_eq_computed, ← computed_worth]
  exact computed_mono (worth_le_of_applies h)

/-! ## Runs of segments -/

variable {before run after : List Text}

/--
Every dotted part of a name finds it. The name is its own lower-case form and `run` are neighbouring
segments of it. If they are all of them, the score is one. Otherwise it is at least 0.95 if they are
the last ones, 0.9 if they are neither the last nor the first ones, and 0.8 if they are the first
ones. This holds of the exact number as well as of the score that is computed, which is compared
with the double next to the bound.
-/
theorem dotted_part_finds_name (hlower : command.lower = command)
    (hsegments : command.segments = before ++ run ++ after) (hrun : run ≠ []) :
    let text := Text.join ['.'] run
    (before = [] → after = [] → worth text command = 1 ∧ score text command = 1) ∧
    (before ≠ [] → after = [] →
      95 / 100 ≤ worth text command ∧ Binary64.round (95 / 100) ≤ score text command) ∧
    (before ≠ [] → after ≠ [] →
      9 / 10 ≤ worth text command ∧ Binary64.round (9 / 10) ≤ score text command) ∧
    (before = [] → after ≠ [] →
      8 / 10 ≤ worth text command ∧ Binary64.round (8 / 10) ≤ score text command) := by
  intro text
  have htext : text.lower = text :=
    Text.lower_of_isInfix hlower (Text.join_isInfix hsegments hrun)
  -- Neither side changes in lower case, so the rules can be judged by the names themselves.
  have hfound : ∀ rule : Rule, rule.applies text command = true →
      rule.worth ≤ worth text command ∧ Binary64.round rule.worth ≤ score text command := by
    intro rule h
    rw [← htext, ← hlower] at h
    exact ⟨worth_le_of_applies h, round_worth_le_of_applies h⟩
  have hname : command = Text.join ['.'] (before ++ run ++ after) := by
    rw [← hsegments, Text.join_segments]
  refine ⟨?_, ?_, ?_, ?_⟩
  · rintro rfl rfl
    rw [List.nil_append, List.append_nil] at hname
    have hone : worth text command = 1 := worth_eq_one_iff.2 (congrArg Text.lower hname.symm)
    exact ⟨hone, score_eq_one_iff.2 hone⟩
  · rintro hbefore rfl
    rw [List.append_nil, Text.join_dot_append hbefore hrun] at hname
    apply hfound .ending
    exact List.isSuffixOf_iff_suffix.2 (hname ▸ List.suffix_append _ _)
  · intro hbefore hafter
    rw [List.append_assoc, Text.join_dot_append hbefore (List.append_ne_nil_of_left_ne_nil hrun _),
      Text.join_dot_append hrun hafter] at hname
    apply hfound .segment
    refine Text.includes_iff.2 ⟨Text.join ['.'] before, Text.join ['.'] after, ?_⟩
    rw [hname]
    simp [text]
  · rintro rfl hafter
    rw [List.nil_append, Text.join_dot_append hrun hafter] at hname
    apply hfound .beginning
    exact List.isPrefixOf_iff_prefix.2 (hname ▸ List.prefix_append _ _)

/-- One segment at three places, and an empty segment at the end of a name. -/
theorem dotted_part_finds_name_repeated :
    let command := "log.log.sys.log.".toList
    let log := "log".toList
    let sys := "sys".toList
    Text.lower command = command ∧
      Text.segments command = [log, log, sys, log, []] ∧
      9 / 10 ≤ worth "log.sys".toList command ∧
      Binary64.round (9 / 10) ≤ score "log.sys".toList command ∧
      95 / 100 ≤ worth "log.".toList command ∧
      Binary64.round (95 / 100) ≤ score [] command ∧
      8 / 10 ≤ worth "log.log".toList command ∧
      score command command = 1 := by
  intro command log sys
  have hlower : Text.lower command = command := by decide +kernel
  have hsegments : Text.segments command = [log, log, sys, log, []] := by decide
  obtain ⟨-, -, hinner, -⟩ := dotted_part_finds_name hlower
    (show Text.segments command = [log] ++ [log, sys] ++ [log, []] from hsegments) (by decide)
  obtain ⟨-, hending, -, -⟩ := dotted_part_finds_name hlower
    (show Text.segments command = [log, log, sys] ++ [log, []] ++ [] from hsegments) (by decide)
  obtain ⟨-, hempty, -, -⟩ := dotted_part_finds_name hlower
    (show Text.segments command = [log, log, sys, log] ++ [[]] ++ [] from hsegments) (by decide)
  obtain ⟨-, -, -, hleading⟩ := dotted_part_finds_name hlower
    (show Text.segments command = [] ++ [log, log] ++ [sys, log, []] from hsegments) (by decide)
  obtain ⟨hwhole, -, -, -⟩ := dotted_part_finds_name hlower
    (show Text.segments command = [] ++ [log, log, sys, log, []] ++ [] from hsegments) (by decide)
  exact ⟨hlower, hsegments, (hinner (by decide) (by decide)).1, (hinner (by decide) (by decide)).2,
    (hending (by decide) rfl).1, (hempty (by decide) rfl).2, (hleading rfl (by decide)).1,
    (hwhole rfl rfl).2⟩

end CommandShell.Match
