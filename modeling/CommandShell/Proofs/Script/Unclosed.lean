import CommandShell.Proofs.Script.Opener
import CommandShell.Proofs.Script.Progress

/-!
# Input that a script leaves open

A script is refused exactly if it ends inside the input that one of its lines opens. The lines
before that line are a whole script, and all lines after it would be its input: the marker behind
the text closes it. Main statement: `unclosed_input_reported`.
-/

namespace CommandShell.Script

/--
A text that ends inside the input which its line of that number opens, counted from one, for a
command up to a marker: the text before the line is read as the directives, and no later line is
the marker.
-/
structure EndsInside (text : Text) (number : Nat) (marker : Text) (before : List Directive)
    (line command : Text) (later : List Text) : Prop where
  counted : 0 < number
  lines_eq : (Text.scriptLines text).drop (number - 1) = line :: later
  parse_before : parse (text.beforeLine number) = .ok before
  no_comment : line.strip.head? ≠ some '#'
  opens : Directive.Opens line.strip command marker
  open_to_end : ∀ l ∈ later, l.strip ≠ marker

open Progress

variable {text marker line command : Text} {number : Nat} {before : List Directive}
  {earlier later : List Text}

theorem readLine_eq_opens_iff :
    readLine line = .opens command marker ↔
      line.strip.head? ≠ some '#' ∧ Directive.Opens line.strip command marker := by
  rw [← Directive.opener?_eq_some_iff, readLine]
  by_cases hempty : line.strip = []
  · simp [hempty, Directive.opener?]
  · by_cases hcomment : line.strip.head? = some '#'
    · simp [hcomment]
    · rw [if_neg (by simp [hempty, hcomment])]
      cases hopener : Directive.opener? line.strip with
      | none => simp
      | some opened => simp [hcomment, Prod.ext_iff]

/-- The text before a line is read as far as the lines before it are. -/
theorem parse_beforeLine (h : Text.scriptLines text = earlier ++ later) :
    parse (text.beforeLine (earlier.length + 1)) = (start.after earlier).result := by
  cases earlier with
  | nil => rfl
  | cons first others =>
    have hlines : Text.scriptLines (text.beforeEnd others.length) = first :: others := by
      rw [Text.scriptLines_beforeEnd, h]
      exact List.take_left' rfl
    show parse (text.beforeEnd others.length) = _
    rw [parse_eq, hlines]

/-- The lines from an opening line on are collected; of that line only the stripped text counts. -/
theorem after_opening (hbefore : (start.after earlier).result = .ok before)
    (hread : readLine line = .opens command marker) (hopen : ∀ l ∈ later, l.strip ≠ marker) :
    start.after (earlier ++ line :: later) =
      ⟨earlier.length + 2 + later.length, before,
        some ⟨command, marker, earlier.length + 1, later⟩⟩ := by
  have hnumber := after_number start earlier
  obtain ⟨hclosed, hdirectives⟩ := result_eq_ok_iff.1 hbefore
  rw [after_append, after_cons]
  generalize start.after earlier = p at hnumber hclosed hdirectives ⊢
  obtain ⟨number, directives, pending⟩ := p
  obtain rfl : pending = none := hclosed
  obtain rfl : directives = before := hdirectives
  obtain rfl : number = 1 + earlier.length := hnumber
  have hstep : step ⟨1 + earlier.length, directives, none⟩ line =
      ⟨1 + earlier.length + 1, directives, some ⟨command, marker, 1 + earlier.length, []⟩⟩ := by
    simp [step, hread]
  rw [hstep, after_pending hopen]
  simp [Nat.add_comm, Nat.add_left_comm]

/-! ## Where the input was opened -/

theorem EndsInside.number_le (h : EndsInside text number marker before line command later) :
    number ≤ (Text.scriptLines text).length := by
  have hlength := congrArg List.length h.lines_eq
  rw [List.length_drop, List.length_cons] at hlength
  omega

theorem EndsInside.exists_earlier
    (h : EndsInside text number marker before line command later) :
    ∃ earlier, Text.scriptLines text = earlier ++ line :: later ∧ number = earlier.length + 1 ∧
      (start.after earlier).result = .ok before := by
  have hsplit := List.take_append_drop (number - 1) (Text.scriptLines text)
  have hnumber : number = ((Text.scriptLines text).take (number - 1)).length + 1 := by
    have hcounted := h.counted
    have hle := h.number_le
    rw [List.length_take]
    omega
  rw [h.lines_eq] at hsplit
  have hbefore := h.parse_before
  rw [hnumber, parse_beforeLine hsplit.symm] at hbefore
  exact ⟨_, hsplit.symm, hnumber, hbefore⟩

theorem EndsInside.readLine_eq (h : EndsInside text number marker before line command later) :
    readLine line = .opens command marker :=
  readLine_eq_opens_iff.2 ⟨h.no_comment, h.opens⟩

theorem endsInside_of_lines (hlines : Text.scriptLines text = earlier ++ line :: later)
    (hbefore : (start.after earlier).result = .ok before)
    (hread : readLine line = .opens command marker) (hopen : ∀ l ∈ later, l.strip ≠ marker) :
    EndsInside text (earlier.length + 1) marker before line command later where
  counted := by omega
  lines_eq := by rw [hlines]; exact List.drop_left' rfl
  parse_before := (parse_beforeLine hlines).trans hbefore
  no_comment := (readLine_eq_opens_iff.1 hread).1
  opens := (readLine_eq_opens_iff.1 hread).2
  open_to_end := hopen

theorem parse_eq_error_iff :
    parse text = .error ⟨marker, number⟩ ↔
      ∃ before line command later, EndsInside text number marker before line command later := by
  rw [parse_eq, result_eq_error_iff]
  constructor
  · rintro ⟨h, hpending, rfl, rfl⟩
    obtain ⟨earlier, line, hlines, hstart, hclosed, hread, hopen⟩ := exists_of_pending hpending
    rw [hstart]
    exact ⟨_, line, h.command, h.lines,
      endsInside_of_lines hlines (result_eq_ok_iff.2 ⟨hclosed, rfl⟩) hread hopen⟩
  · rintro ⟨before, line, command, later, h⟩
    obtain ⟨earlier, hlines, rfl, hbefore⟩ := h.exists_earlier
    rw [hlines, after_opening hbefore h.readLine_eq h.open_to_end]
    exact ⟨_, rfl, rfl, rfl⟩

/-! ## Closing the input -/

theorem strip_of_mem_modifyLast {l : Text} (h : l ∈ later.modifyLast Text.dropReturn) :
    ∃ l' ∈ later, l.strip = l'.strip := by
  obtain rfl | ⟨front, last, rfl⟩ := later.eq_nil_or_concat
  · contradiction
  · rw [List.concat_eq_append] at h ⊢
    rw [List.modifyLast_concat] at h
    rcases List.mem_append.1 h with hfront | hlast
    · exact ⟨l, List.mem_append_left _ hfront, rfl⟩
    · rw [List.mem_singleton.1 hlast]
      exact ⟨last, by simp, Text.strip_dropReturn last⟩

theorem modifyLast_append_cons (earlier : List Text) (line : Text) (later : List Text) :
    ∃ line' : Text, line'.strip = line.strip ∧
      (earlier ++ line :: later).modifyLast Text.dropReturn =
        earlier ++ line' :: later.modifyLast Text.dropReturn := by
  cases later with
  | nil => exact ⟨line.dropReturn, Text.strip_dropReturn line, List.modifyLast_concat _ _ _⟩
  | cons next later =>
    refine ⟨line, rfl, ?_⟩
    rw [List.modifyLast_append_of_right_ne_nil _ _ _ (by simp), Text.modifyLast_cons _ (by simp)]

/-- The marker behind the text closes the input, with the later lines as they are. -/
theorem EndsInside.parse_closed (h : EndsInside text number marker before line command later) :
    parse (text ++ '\n' :: marker) =
      .ok (before ++ [.heredoc command marker (later.modifyLast Text.dropReturn)]) := by
  obtain ⟨earlier, hlines, -, hbefore⟩ := h.exists_earlier
  obtain ⟨line', hstrip, hmodify⟩ := modifyLast_append_cons earlier line later
  obtain ⟨-, -, -, -, -, -, -, hword⟩ := h.opens
  have hfeed : '\n' ∉ marker := Text.lineFeed_not_mem_of_word hword
  -- without later lines, it is the opening line that may lose a carriage return
  have hread : readLine line' = .opens command marker :=
    (readLine_congr hstrip).trans h.readLine_eq
  have hopen : ∀ l ∈ later.modifyLast Text.dropReturn, l.strip ≠ marker := by
    intro l hl
    obtain ⟨l', hl', hsame⟩ := strip_of_mem_modifyLast hl
    rw [hsame]
    exact h.open_to_end l' hl'
  rw [parse_eq, Text.scriptLines_append_lineFeed, Text.scriptLines_of_not_mem hfeed, hlines,
    hmodify, after_concat, after_opening hbefore hread hopen]
  simp [step, result, Text.strip_eq_self_of_word hword]

/--
The reading of a text fails at a line, for a marker, exactly if the text ends inside the input that
this line opens. Then the text before the line is what stands before the line end in front of it,
and a line feed and the marker behind the text make it a script: the directives before the line,
and the command with all later lines as its input, the last one without a carriage return at its
end.
-/
theorem unclosed_input_reported (text marker : Text) (number : Nat) :
    (parse text = .error ⟨marker, number⟩ ↔
      ∃ before line command later, EndsInside text number marker before line command later) ∧
    ∀ before line command later, EndsInside text number marker before line command later →
      parse (text ++ '\n' :: marker) =
          .ok (before ++ [.heredoc command marker (later.modifyLast Text.dropReturn)]) ∧
        (1 < number → ∃ (lineEnd : Text.LineEnd) (rest : Text),
          text = text.beforeLine number ++ (lineEnd.text ++ rest) ∧
          Text.scriptLines rest = line :: later) := by
  refine ⟨parse_eq_error_iff, ?_⟩
  intro before line command later h
  refine ⟨h.parse_closed, fun hlate => ?_⟩
  obtain ⟨n, rfl⟩ : ∃ n, number = n + 2 := ⟨number - 2, by omega⟩
  obtain ⟨lineEnd, rest, htext, hrest⟩ := Text.exists_eq_beforeEnd_append h.number_le
  exact ⟨lineEnd, rest, htext, hrest.trans h.lines_eq⟩

/-- Of three lines that look like openers, one is a comment and one lies in the input itself. -/
theorem unclosed_input_reported_third :
    EndsInside "a\r\n# b <<E\nc <<E \r\nd <<F\r".toList 3 ['E'] [.plain ['a']]
        "c <<E ".toList ['c'] ["d <<F\r".toList] ∧
      parse "a\r\n# b <<E\nc <<E \r\nd <<F\r".toList = .error ⟨['E'], 3⟩ ∧
      parse ("a\r\n# b <<E\nc <<E \r\nd <<F\r".toList ++ ['\n', 'E']) =
        .ok [.plain ['a'], .heredoc ['c'] ['E'] ["d <<F".toList]] := by
  have hends : EndsInside "a\r\n# b <<E\nc <<E \r\nd <<F\r".toList 3 ['E'] [.plain ['a']]
      "c <<E ".toList ['c'] ["d <<F\r".toList] :=
    { counted := by decide
      lines_eq := by decide +kernel
      parse_before := by decide +kernel
      no_comment := by decide +kernel
      opens := Directive.opener?_eq_some_iff.1 (by decide +kernel)
      open_to_end := by decide +kernel }
  obtain ⟨hreported, hclosed⟩ :=
    unclosed_input_reported "a\r\n# b <<E\nc <<E \r\nd <<F\r".toList ['E'] 3
  exact ⟨hends, hreported.2 ⟨_, _, _, _, hends⟩, (hclosed _ _ _ _ hends).1⟩

end CommandShell.Script
