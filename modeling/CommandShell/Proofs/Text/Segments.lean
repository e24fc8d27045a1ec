import CommandShell.Proofs.Text.Parts

/-!
# The segments of a text

A text is its segments with dots between them. Main statement: the last segments of a text, fewer
than all, are those of another text exactly if the text ends with a dot and the other text.
-/

namespace CommandShell.Text

variable {t u : Text}

theorem segments_ne_nil (t : Text) : t.segments ≠ [] :=
  List.splitOn_ne_nil '.' t

/-- A dot ends one segment and begins the next. -/
theorem segments_append_dot (t u : Text) : (t ++ '.' :: u).segments = t.segments ++ u.segments :=
  List.splitOn_append_cons_self t u

theorem join_segments (t : Text) : join ['.'] t.segments = t :=
  List.intercalate_splitOn '.'

theorem join_append (separator : Text) {parts others : List Text} (hparts : parts ≠ [])
    (hothers : others ≠ []) :
    join separator (parts ++ others) =
      join separator parts ++ (separator ++ join separator others) := by
  induction parts with
  | nil => contradiction
  | cons part parts ih =>
    cases parts with
    | nil =>
      obtain ⟨next, others, rfl⟩ := List.exists_cons_of_ne_nil hothers
      rw [List.singleton_append, join_cons_cons, join_singleton]
    | cons next parts =>
      rw [List.cons_append, List.cons_append, join_cons_cons, join_cons_cons, ← List.cons_append,
        ih (List.cons_ne_nil next parts), List.append_assoc, List.append_assoc]

/-- Between neighbouring segments stands a dot. -/
theorem join_dot_append {parts others : List Text} (hparts : parts ≠ []) (hothers : others ≠ []) :
    join ['.'] (parts ++ others) = join ['.'] parts ++ '.' :: join ['.'] others :=
  join_append ['.'] hparts hothers

/-- Neighbouring segments of a text stand in it side by side. -/
theorem join_isInfix {before run after : List Text} (h : t.segments = before ++ run ++ after)
    (hrun : run ≠ []) : join ['.'] run <:+: t := by
  rw [← join_segments t, h]
  have hfront : join ['.'] run <:+: join ['.'] (before ++ run) := by
    by_cases hbefore : before = []
    · simp only [hbefore, List.nil_append, List.infix_rfl]
    · rw [join_dot_append hbefore hrun]
      exact ((List.suffix_cons '.' _).trans (List.suffix_append _ _)).isInfix
  refine hfront.trans ?_
  by_cases hafter : after = []
  · simp only [hafter, List.append_nil, List.infix_rfl]
  · rw [join_dot_append (List.append_ne_nil_of_right_ne_nil before hrun) hafter]
    exact (List.prefix_append _ _).isInfix

/-- Of the segments of a text some come before those of another exactly if a dot stands between
the texts of both. -/
theorem segments_eq_append_segments_iff :
    (∃ front, front ≠ [] ∧ t.segments = front ++ u.segments) ↔ '.' :: u <:+ t := by
  constructor
  · rintro ⟨front, hfront, hsegments⟩
    refine ⟨join ['.'] front, ?_⟩
    calc join ['.'] front ++ '.' :: u
        = join ['.'] front ++ (['.'] ++ join ['.'] u.segments) := by rw [join_segments]; rfl
      _ = join ['.'] t.segments := by rw [hsegments, join_append _ hfront (segments_ne_nil u)]
      _ = t := join_segments t
  · rintro ⟨before, rfl⟩
    exact ⟨segments before, segments_ne_nil before, segments_append_dot before u⟩

end CommandShell.Text
