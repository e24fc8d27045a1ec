import CommandShell.Proofs.Output.Display
import CommandShell.Proofs.Shell.Printing

/-!
# Blank lines

Displaying a result leaves out its blank lines and nothing else, and the lines that are left are the
same when the text that joins them is read again. Main statement: what the console is handed for a
result, and that it is handed the same text again if this text is displayed once more.
-/

namespace CommandShell.Display

variable {formatters : List Formatter} {t u shown line : Text} {lines : List Text}

/-! ## Formatters that do not fail -/

/-- Formatters that never fail are functions on texts. -/
theorem exists_steps (h : ∀ formatter ∈ formatters, ∀ t, ∃ u, formatter t = .ok u) :
    ∃ steps : List (Text → Text), formatters = steps.map fun step t => .ok (step t) := by
  induction formatters with
  | nil => exact ⟨[], rfl⟩
  | cons formatter formatters ih =>
    obtain ⟨hfirst, hothers⟩ := List.forall_mem_cons.1 h
    obtain ⟨steps, rfl⟩ := ih hothers
    choose step hstep using hfirst
    exact ⟨step :: steps, congrArg (· :: _) (funext hstep)⟩

theorem format_steps (steps : List (Text → Text)) (t : Text) :
    format (steps.map fun step t => .ok (step t)) t =
      .ok (steps.foldl (fun t step => step t) t) := by
  induction steps generalizing t with
  | nil => rfl
  | cons step steps ih => exact ih (step t)

/-! ## Lines that are displayed -/

theorem visibleLines_eq_filter (t : Text) :
    visibleLines t = (Text.screenLines t).filter fun line => line.any (!Text.isBlank ·) := by
  refine List.filter_congr fun line _ => ?_
  rw [Bool.eq_iff_iff, Bool.not_eq_true', ← Bool.not_eq_true, List.isEmpty_iff,
    Text.strip_eq_nil_iff]
  simp

theorem clear_of_mem_visibleLines (h : line ∈ visibleLines t) :
    line ≠ [] ∧ ∀ c ∈ line, Text.isLineBoundary c = false := by
  obtain ⟨hline, hvisible⟩ := List.mem_filter.1 h
  refine ⟨?_, Text.isLineBoundary_of_mem_screenLines hline⟩
  rintro rfl
  contradiction

/-- The lines that are left are left again. -/
theorem visibleLines_join_visibleLines (t : Text) :
    visibleLines (Text.join ['\n'] (visibleLines t)) = visibleLines t := by
  have hlines : Text.screenLines (Text.join ['\n'] (visibleLines t)) = visibleLines t :=
    Text.screenLines_join_lines fun _ h => clear_of_mem_visibleLines h
  rw [visibleLines, hlines, visibleLines, List.filter_filter]
  simp only [Bool.and_self]

/-! ## What is handed over -/

theorem handed_of_isHelp (h : helpMarker <:+: t) (formatters : List Formatter) :
    handed formatters t = .ok (some t) := by
  have hhelp : isHelp t = true := Text.includes_iff.2 h
  have hne : ¬t.isEmpty = true := by
    rw [List.isEmpty_iff]
    rintro rfl
    exact absurd hhelp (by decide)
  rw [handed, if_neg hne, if_pos hhelp]

theorem handed_of_format (hne : t ≠ []) (hhelp : ¬helpMarker <:+: t)
    (hformat : format formatters t = .ok u) :
    handed formatters t =
      .ok (if visibleLines u = [] then none else some (Text.join ['\n'] (visibleLines u))) := by
  have hempty : ¬t.isEmpty = true := by rwa [List.isEmpty_iff]
  have hmarker : ¬isHelp t = true := fun h => hhelp (Text.includes_iff.1 h)
  rw [handed, if_neg hempty, if_neg hmarker, hformat]
  cases hlines : visibleLines u <;> simp [hlines]

/-- A text that was handed over is handed over as it is. -/
theorem handed_again (h : handed formatters t = .ok (some shown)) :
    handed [] shown = .ok (some shown) := by
  by_cases hhelp : helpMarker <:+: t
  · rw [handed_of_isHelp hhelp] at h
    obtain rfl := Option.some.inj (Except.ok.inj h)
    exact handed_of_isHelp hhelp []
  · have hne : t ≠ [] := by
      rintro rfl
      exact Option.some_ne_none shown (Except.ok.inj h).symm
    cases hformat : format formatters t with
    | error f =>
      have hfails := Shell.handed_eq_error_iff.2 ⟨hne, ?_, hformat⟩
      · rw [hfails] at h
        contradiction
      · rw [Bool.eq_false_iff]
        exact fun hmarker => hhelp (Text.includes_iff.1 hmarker)
    | ok u =>
      rw [handed_of_format hne hhelp hformat] at h
      have hsome := Except.ok.inj h
      split at hsome
      · contradiction
      · next hvisible =>
        obtain rfl := Option.some.inj hsome
        have hsame := visibleLines_join_visibleLines u
        rw [handed_nil (hsame.symm ▸ hvisible), plainly, hsame, ite_self]

/--
Displaying a result drops blank lines and nothing else. A rendered text with the help marker is
handed over as it is and for an empty one nothing is, whatever the formatters are and whether or not
they fail. If none of them can fail, then for any other rendered text, with the lines on which the
text stands that the formatters make of it one after another, the console is handed those lines that
are not all blanks; they are joined by line feeds, and nothing is handed over if there are none.
Displaying again what was handed over, without formatters, hands over the same. What is handed over
is printed, and nothing else is.
-/
theorem display_drops_blank_lines (formatters : List Formatter) (value : Value) :
    (helpMarker <:+: value.render →
      handed formatters value.render = .ok (some value.render)) ∧
    (value.render = [] → handed formatters value.render = .ok none) ∧
    ((∀ formatter ∈ formatters, ∀ t, ∃ u, formatter t = .ok u) → value.render ≠ [] →
      ¬helpMarker <:+: value.render →
      ∃ steps : List (Text → Text), formatters = (steps.map fun step t => .ok (step t)) ∧
        ∃ lines, (∀ others, Text.StandsOn (steps.foldl (fun t step => step t) value.render) others ↔
            lines = others) ∧
          let shown := lines.filter fun line => line.any (!Text.isBlank ·)
          handed formatters value.render =
            .ok (if shown = [] then none else some (Text.join ['\n'] shown))) ∧
    (∀ shown, handed formatters value.render = .ok (some shown) →
      handed [] (Value.ofText shown).render = .ok (some shown)) ∧
    ∀ (shell : Shell) (s : Session) (given : Option Text), shell.formatters = formatters →
      handed formatters value.render = .ok given →
      shell.print (.result value) s = (.ok (), given.elim s s.print) := by
  refine ⟨fun hhelp => handed_of_isHelp hhelp formatters, fun hnil => ?_, fun hsure hne hhelp => ?_,
    fun shown => handed_again, ?_⟩
  · rw [hnil]
    rfl
  · obtain ⟨steps, rfl⟩ := exists_steps hsure
    refine ⟨steps, rfl, _, fun _ => Text.standsOn_iff, ?_⟩
    rw [← visibleLines_eq_filter]
    exact handed_of_format hne hhelp (format_steps steps _)
  · rintro shell s given rfl hgiven
    rw [Shell.print, hgiven]
    cases given <;> rfl

/-- A formatter that doubles a text, with a line end of two characters and a blank line between. -/
example : handed [fun t => .ok (t ++ "\r\n\t\u2028".toList ++ t)]
    (Value.list [.text ['a'], .text [], .number 5]).render = .ok (some "a\n5\na\n5".toList) :=
  rfl

end CommandShell.Display
