import CommandShell.Proofs.Shell.Decision

/-!
# What evaluation can do to a session

Whatever commands do, a session changes only in the few ways that `Shell.Closed` lists. Every
evaluation, performance, execution and interaction is a sequence of such changes, at any depth of
nesting, so a relation that holds of each of them holds of all of these. `Session.Evolves` is such
a relation; it says what the changes are whatever the shell.
-/

namespace CommandShell

/-- What printing and reading do to a terminal. -/
inductive Terminal.Step : Terminal → Terminal → Prop where
  | print (t : Terminal) (text : Text) : Step t (t.print text)
  | prompt (t : Terminal) (text : Text) : Step t (t.prompt text).2
  | ask (t : Terminal) (text : Text) : Step t (t.ask text).2
  | promptTerminal (t : Terminal) (text : Text) : Step t (t.promptTerminal text).2
  | readLine (t : Terminal) : Step t t.readLine.2
  | read (t : Terminal) (size : Int) : Step t (t.read size).2

/--
What can become of a session. Scripted input is installed for a stretch of changes only, after
which its own installation is undone.
-/
inductive Session.Evolves : Session → Session → Prop where
  | refl (s : Session) : Evolves s s
  | trans {s mid after : Session} : Evolves s mid → Evolves mid after → Evolves s after
  | terminal {s : Session} {t : Terminal} :
      Terminal.Step s.terminal t → Evolves s { s with terminal := t }
  | heard (s : Session) (line : Text) : Evolves s { s with lastInput := some line.strip }
  | recorded (s : Session) (line : Text) : Evolves s { s with history := s.history.record line }
  | flushed (s : Session) : Evolves s { s with history := s.history.flush }
  | noted (s : Session) (e : Event) : Evolves s (s.note e)
  | interacting (s : Session) (on : Bool) : Evolves s { s with interactive := on }
  | scripted {s after : Session} {lines : List Text} {installation : Installation} {t : Terminal} :
      s.terminal.install lines .screen = .ok (installation, t) →
      Evolves { s with terminal := t } after →
      Evolves s { after with terminal := after.terminal.remove installation }

/-- An answerer whose every answer leaves a session that evolved. -/
def Answerer.Evolving (answer : Answerer) : Prop :=
  ∀ {r : Request} {s after : Session} {a : r.Answer},
    answer r s = some (a, after) → s.Evolves after

/-- The relation holds between the sessions before and after whatever the answerer answers. -/
def Answerer.Keeps (answer : Answerer) (rel : Session → Session → Prop) : Prop :=
  ∀ {r : Request} {s after : Session} {a : r.Answer},
    answer r s = some (a, after) → rel s after

/-- A relation that holds of each change that the shell makes to a session, and of sequences. -/
structure Shell.Closed (shell : Shell) (rel : Session → Session → Prop) : Prop where
  refl (s : Session) : rel s s
  trans {s mid after : Session} : rel s mid → rel mid after → rel s after
  terminal {s : Session} {t : Terminal} :
    Terminal.Step s.terminal t → rel s { s with terminal := t }
  taken (line : Text) (s : Session) : rel s (shell.taken (.line line) s)
  flushed (s : Session) : rel s { s with history := s.history.flush }
  noted (s : Session) (e : Event) : rel s (s.note e)
  interacting (s : Session) (on : Bool) : rel s { s with interactive := on }
  scripted {s after : Session} {lines : List Text} {installation : Installation} {t : Terminal} :
    s.terminal.install lines .screen = .ok (installation, t) →
    rel { s with terminal := t } after →
    rel s { after with terminal := after.terminal.remove installation }

/-! ## Relations that hold of every change -/

namespace Shell.Closed

variable {shell : Shell} {rel : Session → Session → Prop} {answer : Answerer}
  {s after : Session} {outcome : Outcome}

theorem print (closed : shell.Closed rel) (s : Session) (text : Text) : rel s (s.print text) :=
  closed.terminal (.print s.terminal text)

theorem info (closed : shell.Closed rel) (s : Session) (text : Text) : rel s (s.info text) := by
  rw [Session.info]
  split
  · exact closed.refl s
  · exact closed.print s text

theorem onTerminal (closed : shell.Closed rel) {operation : Terminal → α × Terminal} {a : α}
    (hstep : Terminal.Step s.terminal (operation s.terminal).2)
    (h : some (s.onTerminal operation) = some (a, after)) : rel s after := by
  have hafter : { s with terminal := (operation s.terminal).2 } = after :=
    congrArg Prod.snd (Option.some.inj h)
  rw [← hafter]
  exact closed.terminal hstep

theorem run (closed : shell.Closed rel) (hanswer : answer.Keeps rel) {p : Program α}
    {result : Except Failure α} (h : p.run answer s = some (result, after)) : rel s after := by
  induction p generalizing s with
  | done a =>
    obtain ⟨-, rfl⟩ := Prod.mk.inj (Option.some.inj h)
    exact closed.refl s
  | fail f =>
    obtain ⟨-, rfl⟩ := Prod.mk.inj (Option.some.inj h)
    exact closed.refl s
  | call request next ih =>
    rw [Program.run] at h
    cases hreply : answer request s with
    | none => simp [hreply] at h
    | some reply =>
      rw [hreply] at h
      exact closed.trans (hanswer hreply) (ih reply.1 h)

theorem invoke_noted (closed : shell.Closed rel) (hanswer : answer.Keeps rel) {d : Descriptor}
    {tokens : List Text} (h : shell.invoke answer d tokens s = some (outcome, after)) :
    rel (s.note (.ran d.name tokens)) after := by
  obtain ⟨result, hrun⟩ := exists_run_of_invoke h
  exact closed.run hanswer hrun

/-- Whatever an input decides is done in the session that has taken the input in. -/
theorem evaluateInput_taken (closed : shell.Closed rel) (hanswer : answer.Keeps rel)
    {input : Input} (h : shell.evaluateInput answer input s = some (outcome, after)) :
    rel (shell.taken input s) after := by
  rw [evaluateInput_eq] at h
  cases hdecision : shell.decision input with
  | answer given =>
    rw [hdecision] at h
    obtain ⟨-, rfl⟩ := Prod.mk.inj (Option.some.inj h)
    exact closed.refl _
  | call d tokens =>
    rw [hdecision] at h
    exact closed.trans (closed.noted _ _) (closed.invoke_noted hanswer h)

theorem evaluateLine (closed : shell.Closed rel) (hanswer : answer.Keeps rel) {line : Text}
    (h : shell.evaluateLine answer line s = some (outcome, after)) : rel s after := by
  have hline : shell.evaluateInput answer (.line line) s = some (outcome, after) := h
  exact closed.trans (closed.taken line s) (closed.evaluateInput_taken hanswer hline)

theorem performWith (closed : shell.Closed rel) (hanswer : answer.Keeps rel) {d : Directive}
    (h : shell.performWith answer d s = some (outcome, after)) : rel s after := by
  cases d with
  | plain text => exact closed.evaluateLine hanswer h
  | heredoc text marker lines =>
    rw [Shell.performWith] at h
    split at h
    · obtain ⟨-, rfl⟩ := Prod.mk.inj (Option.some.inj h)
      exact closed.refl s
    · next installation t hinstall =>
      split at h
      · contradiction
      · next given mid hline =>
        obtain ⟨-, rfl⟩ := Prod.mk.inj (Option.some.inj h)
        exact closed.scripted hinstall (closed.evaluateLine hanswer hline)

theorem print_outcome (closed : shell.Closed rel) (outcome : Outcome) (s : Session) :
    rel s (shell.print outcome s).2 := by
  cases outcome with
  | failed report => exact closed.print s report
  | quit => exact closed.refl s
  | result value =>
    rw [Shell.print]
    split
    · exact closed.refl s
    · exact closed.refl s
    · exact closed.print s _

theorem printOrReport (closed : shell.Closed rel) (outcome : Outcome) (s : Session) :
    rel s (shell.printOrReport outcome s) := by
  have hprint := closed.print_outcome outcome s
  rw [Shell.printOrReport]
  split
  · next hok => rwa [hok] at hprint
  · next herror =>
    rw [herror] at hprint
    exact closed.trans hprint (closed.print _ _)

theorem readInput (closed : shell.Closed rel) (s : Session) : rel s (shell.readInput s).2 :=
  closed.terminal (.prompt _ _)

theorem turn (closed : shell.Closed rel) (hanswer : answer.Keeps rel) {on : Bool}
    (h : shell.turn answer s = some (on, after)) : rel s after := by
  have hread := closed.readInput s
  rw [Shell.turn] at h
  split at h
  · next mid hinput =>
    obtain ⟨-, rfl⟩ := Prod.mk.inj (Option.some.inj h)
    rwa [hinput] at hread
  · next line mid hinput =>
    rw [hinput] at hread
    split at h
    · contradiction
    · next given evaluated hline =>
      obtain ⟨-, rfl⟩ := Prod.mk.inj (Option.some.inj h)
      have hevaluated := closed.evaluateLine hanswer hline
      exact closed.trans hread (closed.trans hevaluated (closed.printOrReport given evaluated))

theorem turns (closed : shell.Closed rel) (hanswer : answer.Keeps rel) {budget : Nat}
    (h : shell.turns answer budget s = some after) : rel s after := by
  induction budget generalizing s with
  | zero => contradiction
  | succ budget ih =>
    rw [Shell.turns] at h
    split at h
    · contradiction
    · next mid hturn =>
      rw [← Option.some.inj h]
      exact closed.turn hanswer hturn
    · next mid hturn => exact closed.trans (closed.turn hanswer hturn) (ih h)

theorem enter (closed : shell.Closed rel) (s : Session) : rel s (shell.enter s) :=
  closed.trans (closed.interacting s true) (closed.info _ _)

theorem leave (closed : shell.Closed rel) (s : Session) : rel s (leave s) :=
  closed.trans (closed.interacting s false) (closed.info _ _)

theorem loop (closed : shell.Closed rel) (hanswer : answer.Keeps rel)
    (h : shell.loop answer s = some after) : rel s after := by
  rw [Shell.loop, Option.map_eq_some_iff] at h
  obtain ⟨mid, hturns, rfl⟩ := h
  have hrest := closed.trans (closed.turns hanswer hturns) (closed.leave mid)
  exact closed.trans (closed.enter s) hrest

theorem serve (closed : shell.Closed rel) {deeper : Answerer} (hdeeper : deeper.Keeps rel) :
    (shell.serve deeper).Keeps rel := by
  intro r s after a h
  cases r with
  | prompt text => exact closed.onTerminal (.prompt _ text) h
  | ask text => exact closed.onTerminal (.ask _ text) h
  | promptTerminal text => exact closed.onTerminal (.promptTerminal _ text) h
  | readLine => exact closed.onTerminal (.readLine _) h
  | read size => exact closed.onTerminal (.read _ size) h
  | echo text =>
    obtain ⟨-, rfl⟩ := Prod.mk.inj (Option.some.inj h)
    exact closed.print s text
  | print outcome =>
    have hafter : (shell.print outcome s).2 = after := congrArg Prod.snd (Option.some.inj h)
    rw [← hafter]
    exact closed.print_outcome outcome s
  | evaluate line => exact closed.evaluateLine hdeeper h
  | perform d => exact closed.performWith hdeeper h
  | loop =>
    rw [Shell.serve, Option.map_eq_some_iff] at h
    obtain ⟨mid, hloop, hmid⟩ := h
    obtain ⟨-, rfl⟩ := Prod.mk.inj hmid
    exact closed.loop hdeeper hloop
  | script path =>
    obtain ⟨-, rfl⟩ := Prod.mk.inj (Option.some.inj h)
    exact closed.noted s _
  | look =>
    obtain ⟨-, rfl⟩ := Prod.mk.inj (Option.some.inj h)
    exact closed.refl s
  | flush =>
    obtain ⟨-, rfl⟩ := Prod.mk.inj (Option.some.inj h)
    exact closed.flushed s

theorem answers (closed : shell.Closed rel) (depth : Nat) : (shell.answer depth).Keeps rel := by
  induction depth with
  | zero =>
    rw [Shell.answer]
    exact closed.serve fun h => absurd h (by simp)
  | succ depth ih =>
    rw [Shell.answer]
    exact closed.serve ih

end Shell.Closed

/-! ## Evolving -/

namespace Shell

variable {shell : Shell} {answer : Answerer} {s after : Session} {outcome : Outcome}

theorem taken_evolves (shell : Shell) (input : Input) (s : Session) :
    s.Evolves (shell.taken input s) := by
  cases input with
  | line line =>
    rw [taken]
    split
    · exact .refl s
    · split
      · exact (Session.Evolves.heard s line).trans (.recorded _ line.strip)
      · exact .heard s line
  | tokens tokens =>
    cases tokens with
    | nil => exact .refl s
    | cons token rest => exact .recorded s _

theorem closed_evolves (shell : Shell) : shell.Closed Session.Evolves where
  refl := .refl
  trans := .trans
  terminal := .terminal
  taken line s := taken_evolves shell (.line line) s
  flushed := .flushed
  noted := .noted
  interacting := .interacting
  scripted := .scripted

theorem invoke_evolves_noted (hanswer : answer.Evolving) {d : Descriptor} {tokens : List Text}
    (h : shell.invoke answer d tokens s = some (outcome, after)) :
    (s.note (.ran d.name tokens)).Evolves after :=
  (closed_evolves shell).invoke_noted hanswer h

theorem evaluateInput_evolves (hanswer : answer.Evolving) (input : Input)
    (h : shell.evaluateInput answer input s = some (outcome, after)) : s.Evolves after :=
  (taken_evolves shell input s).trans ((closed_evolves shell).evaluateInput_taken hanswer h)

theorem enter_evolves (shell : Shell) (s : Session) : s.Evolves (shell.enter s) :=
  (closed_evolves shell).enter s

theorem printOrReport_evolves (shell : Shell) (outcome : Outcome) (s : Session) :
    s.Evolves (shell.printOrReport outcome s) :=
  (closed_evolves shell).printOrReport outcome s

theorem answer_evolving (shell : Shell) (depth : Nat) : (shell.answer depth).Evolving :=
  (closed_evolves shell).answers depth

theorem evaluate_evolves {depth : Nat} {input : Input}
    (h : shell.evaluate depth input s = some (outcome, after)) : s.Evolves after :=
  evaluateInput_evolves (answer_evolving shell depth) input h

theorem execute_evolves {depth : Nat} {p : Program α} {result : Except Failure α}
    (h : shell.execute depth p s = some (result, after)) : s.Evolves after :=
  (closed_evolves shell).run (answer_evolving shell depth) h

end Shell

end CommandShell
