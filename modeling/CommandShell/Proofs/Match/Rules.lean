import Mathlib.Data.List.Forall2
import CommandShell.Match.Similarity
import CommandShell.Proofs.Text.Segments

/-!
# When the rules hold

The rules are tried in order, so a rule decides the score only where none before it holds. Some rule
holds exactly if the command includes the text or the segments of the text begin neighbouring
segments of the command. Main statement: the segments of a text are the last ones of a command
exactly if the command ends with the text after a dot, so the rule for them never decides.
-/

namespace CommandShell.Match

variable {text command : Text} {parts names : List Text}

/-! ## Abbreviations -/

/-- Each of the parts begins the name at its place in a run of neighbouring names. -/
def BeginsRun (parts names : List Text) : Prop :=
  ∃ before run after, names = before ++ run ++ after ∧
    List.Forall₂ (fun part name => part <+: name) parts run

theorem beginEach_iff :
    beginEach parts names = true ↔ ∃ run after, names = run ++ after ∧
      List.Forall₂ (fun part name => part <+: name) parts run := by
  induction parts generalizing names with
  | nil => exact iff_of_true rfl ⟨[], names, rfl, List.Forall₂.nil⟩
  | cons part parts ih =>
    cases names with
    | nil =>
      refine iff_of_false Bool.false_ne_true ?_
      rintro ⟨run, after, hnames, hbegin⟩
      rw [(List.append_eq_nil_iff.1 hnames.symm).1] at hbegin
      cases hbegin
    | cons name names =>
      rw [beginEach, Bool.and_eq_true, List.isPrefixOf_iff_prefix, ih]
      constructor
      · rintro ⟨hpart, run, after, rfl, hbegin⟩
        exact ⟨name :: run, after, rfl, List.Forall₂.cons hpart hbegin⟩
      · rintro ⟨run, after, hnames, hbegin⟩
        cases hbegin with
        | cons hpart hbegin =>
          obtain ⟨rfl, rfl⟩ := List.cons.inj hnames
          exact ⟨hpart, _, after, rfl, hbegin⟩

theorem beginRun_iff : beginRun parts names = true ↔ BeginsRun parts names := by
  induction names with
  | nil =>
    rw [beginRun, beginEach_iff]
    constructor
    · rintro ⟨run, after, hnames, hbegin⟩
      exact ⟨[], run, after, hnames, hbegin⟩
    · rintro ⟨before, run, after, hnames, hbegin⟩
      obtain ⟨hfront, rfl⟩ := List.append_eq_nil_iff.1 hnames.symm
      obtain ⟨-, rfl⟩ := List.append_eq_nil_iff.1 hfront
      exact ⟨[], [], rfl, hbegin⟩
  | cons name names ih =>
    rw [beginRun, Bool.or_eq_true, beginEach_iff, ih]
    constructor
    · rintro (⟨run, after, hnames, hbegin⟩ | ⟨before, run, after, rfl, hbegin⟩)
      · exact ⟨[], run, after, hnames, hbegin⟩
      · exact ⟨name :: before, run, after, rfl, hbegin⟩
    · rintro ⟨before, run, after, hnames, hbegin⟩
      cases before with
      | nil => exact Or.inl ⟨run, after, hnames, hbegin⟩
      | cons first before => exact Or.inr ⟨before, run, after, (List.cons.inj hnames).2, hbegin⟩

theorem abbreviates_iff :
    abbreviates text command = true ↔ BeginsRun text.segments command.segments :=
  beginRun_iff

/-! ## Last segments -/

theorem trailingSegments_iff : trailingSegments text command = true ↔ '.' :: text <:+ command := by
  rw [← Text.segments_eq_append_segments_iff, trailingSegments, Bool.and_eq_true, decide_eq_true_eq,
    List.isSuffixOf_iff_suffix]
  constructor
  · rintro ⟨hlength, front, hsegments⟩
    refine ⟨front, ?_, hsegments.symm⟩
    rintro rfl
    rw [← hsegments] at hlength
    exact lt_irrefl _ hlength
  · rintro ⟨front, hfront, hsegments⟩
    refine ⟨?_, front, hsegments.symm⟩
    rw [hsegments, List.length_append]
    exact Nat.lt_add_of_pos_left (List.length_pos_iff.2 hfront)

/-- Where the segments of the text are the last ones, the rule for endings comes first. -/
theorem rule?_ne_trailing (text command : Text) : rule? text command ≠ some .trailing := by
  have hsame : trailingSegments text command = ('.' :: text).isSuffixOf command := by
    rw [Bool.eq_iff_iff, trailingSegments_iff, List.isSuffixOf_iff_suffix]
  rw [rule?, hsame]
  split_ifs <;> simp

/-! ## Rules that hold -/

theorem rule?_eq_equal_iff : rule? text command = some .equal ↔ command = text := by
  rw [rule?]
  split_ifs <;> simp_all

/-- Each rule but the last one takes the text to be in the command. -/
theorem rule?_of_not_isInfix (h : ¬text <:+: command) :
    rule? text command = if abbreviates text command then some .abbreviation else none := by
  have hequal : command ≠ text := by
    rintro rfl
    exact h List.infix_rfl
  have hending : ¬('.' :: text).isSuffixOf command = true := fun hrule =>
    h ((List.suffix_cons '.' text).trans (List.isSuffixOf_iff_suffix.1 hrule)).isInfix
  have hsegment : ¬command.includes ('.' :: text ++ ['.']) = true := fun hrule =>
    h (List.IsInfix.trans ⟨['.'], ['.'], rfl⟩ (Text.includes_iff.1 hrule))
  have htrailing : ¬trailingSegments text command = true := by
    rwa [trailingSegments_iff, ← List.isSuffixOf_iff_suffix]
  have hbeginning : ¬text.isPrefixOf command = true := fun hrule =>
    h (List.isPrefixOf_iff_prefix.1 hrule).isInfix
  have hinside : ¬command.includes text = true := fun hrule => h (Text.includes_iff.1 hrule)
  rw [rule?, if_neg hequal, if_neg hending, if_neg hsegment, if_neg htrailing, if_neg hbeginning,
    if_neg hinside]

theorem rule?_eq_none_iff :
    rule? text command = none ↔
      ¬(text <:+: command ∨ BeginsRun text.segments command.segments) := by
  by_cases hin : text <:+: command
  · have hincludes : command.includes text = true := Text.includes_iff.2 hin
    refine iff_of_false ?_ fun hnone => hnone (Or.inl hin)
    rw [rule?, if_pos hincludes]
    split_ifs <;> simp
  · rw [rule?_of_not_isInfix hin, ← abbreviates_iff]
    by_cases habbreviates : abbreviates text command = true <;> simp [hin, habbreviates]

end CommandShell.Match
