import CommandShell.Shell.Evaluation

/-!
# What printing does

Printing writes to the screen and does nothing else. Only a formatter can make it fail, and only on
a result. The interactive loop reports such a failure and goes on.
-/

namespace CommandShell

/-- The session that has printed some texts, one after another. -/
def Session.shown (s : Session) (texts : List Text) : Session := texts.foldl print s

/-- The session with some more texts on its screen and all else as it is. -/
def Session.withScreen (s : Session) (written : List Text) : Session :=
  { s with terminal := { s.terminal with screen := s.terminal.screen ++ written } }

theorem Session.shown_concat (s : Session) (texts : List Text) (text : Text) :
    s.shown (texts ++ [text]) = (s.shown texts).print text := by
  rw [shown, List.foldl_append]
  rfl

theorem Session.shown_eq (s : Session) (texts : List Text) :
    s.shown texts = s.withScreen (texts.map Console.written) := by
  induction texts generalizing s with
  | nil =>
    rw [List.map_nil, withScreen, List.append_nil]
    rfl
  | cons text texts ih =>
    change (s.print text).shown texts = _
    rw [ih, List.map_cons, withScreen, withScreen]
    change { s with terminal := { s.terminal with
      screen := (s.terminal.screen ++ [Console.written text]) ++ _ } } = _
    rw [List.append_assoc]
    rfl

namespace Shell

variable {shell : Shell}

/-- Whether an outcome can be printed. -/
def printing (shell : Shell) (outcome : Outcome) : Except Failure Unit :=
  match outcome with
  | .result value => (Display.handed shell.formatters value.render).map fun _ => ()
  | _ => .ok ()

theorem print_eq (shell : Shell) (outcome : Outcome) (s : Session) :
    ∃ texts, shell.print outcome s = (shell.printing outcome, s.shown texts) := by
  cases outcome with
  | failed report => exact ⟨[report], rfl⟩
  | quit => exact ⟨[], rfl⟩
  | result value =>
    rw [print, printing]
    cases Display.handed shell.formatters value.render with
    | error f => exact ⟨[], rfl⟩
    | ok given =>
      cases given with
      | none => exact ⟨[], rfl⟩
      | some text => exact ⟨[text], rfl⟩

theorem print_withScreen (shell : Shell) (outcome : Outcome) (s : Session) :
    ∃ written, shell.print outcome s = (shell.printing outcome, s.withScreen written) := by
  obtain ⟨texts, hprint⟩ := print_eq shell outcome s
  exact ⟨_, hprint.trans (by rw [Session.shown_eq])⟩

theorem print_ofText {t shown : Text} (h : Display.handed shell.formatters t = .ok (some shown))
    (s : Session) : shell.print (.result (.ofText t)) s = (.ok (), s.print shown) := by
  have hrender : Display.handed shell.formatters (Value.ofText t).render = .ok (some shown) := h
  rw [print]
  simp only [hrender]

theorem handed_eq_error_iff {formatters : List Formatter} {t : Text} {f : Failure} :
    Display.handed formatters t = .error f ↔
      t ≠ [] ∧ Display.isHelp t = false ∧ Display.format formatters t = .error f := by
  rw [Display.handed]
  by_cases hempty : t = []
  · simp [hempty]
  by_cases hhelp : Display.isHelp t = true
  · simp [hempty, hhelp]
  rw [if_neg (by simpa using hempty), if_neg hhelp]
  cases Display.format formatters t with
  | error g => simp [hempty, hhelp]
  | ok u =>
    cases hlines : Display.visibleLines u <;> simp [hlines]

/-- Nothing but a formatter keeps an outcome from being printed. -/
theorem printing_eq_error_iff {outcome : Outcome} {f : Failure} :
    shell.printing outcome = .error f ↔
      ∃ value, outcome = .result value ∧ value.render ≠ [] ∧
        Display.isHelp value.render = false ∧
        Display.format shell.formatters value.render = .error f := by
  cases outcome with
  | failed report => simp [printing]
  | quit => simp [printing]
  | result value =>
    have hmap : shell.printing (.result value) = .error f ↔
        Display.handed shell.formatters value.render = .error f := by
      rw [printing]
      cases Display.handed shell.formatters value.render <;> simp [Except.map]
    rw [hmap, handed_eq_error_iff]
    simp

theorem printOrReport_eq (shell : Shell) (outcome : Outcome) (s : Session) :
    ∃ texts, shell.printOrReport outcome s = s.shown texts := by
  obtain ⟨texts, hprint⟩ := print_eq shell outcome s
  rw [printOrReport, hprint]
  cases shell.printing outcome with
  | ok _ => exact ⟨texts, rfl⟩
  | error f =>
    exact ⟨texts ++ [Failure.report [] f.message], (Session.shown_concat s texts _).symm⟩

/-- A turn that evaluates a line goes on unless the line asks to leave, printed or not. -/
theorem turn_of_evaluateLine {answer : Answerer} {s heard mid : Session} {line : Text}
    {outcome : Outcome} (hread : shell.readInput s = (some line, heard))
    (hline : shell.evaluateLine answer line heard = some (outcome, mid)) :
    ∃ written, shell.turn answer s = some (!outcome.isQuit, mid.withScreen written) := by
  obtain ⟨texts, hprint⟩ := printOrReport_eq shell outcome mid
  refine ⟨texts.map Console.written, ?_⟩
  simp only [turn, hread, hline, hprint, Session.shown_eq]

end Shell

end CommandShell
