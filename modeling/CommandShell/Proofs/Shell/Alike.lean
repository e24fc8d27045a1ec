import CommandShell.Proofs.Input.Alike
import CommandShell.Proofs.Script.Performance

/-!
# Sessions that are alike

Two sessions are alike if they look the same and their terminals are alike. What evaluates nothing
further is answered alike in them and leaves them alike, request by request and so over a whole
program.
-/

namespace CommandShell

namespace Session

/-- Nothing that a request tells of either session, unless it evaluates further input, differs. -/
structure Alike (s other : Session) : Prop where
  terminal : s.terminal.Alike other.terminal
  view : s.view = other.view

/-- Both gave up, or both have the same result in sessions that are alike. -/
def AlikeAfter (first second : Option (α × Session)) : Prop :=
  first = none ∧ second = none ∨
    ∃ a s other, first = some (a, s) ∧ second = some (a, other) ∧ s.Alike other

variable {s other : Session}

theorem Alike.some (h : s.Alike other) (a : α) :
    AlikeAfter (Option.some (a, s)) (Option.some (a, other)) :=
  .inr ⟨a, s, other, rfl, rfl, h⟩

theorem Alike.withTerminal (h : s.Alike other) {t t' : Terminal} (ht : t.Alike t') :
    Alike { s with terminal := t } { other with terminal := t' } :=
  ⟨ht, h.view⟩

theorem Alike.onTerminal (h : s.Alike other) {operation : Terminal → α × Terminal}
    (hresult : (operation s.terminal).1 = (operation other.terminal).1)
    (hafter : (operation s.terminal).2.Alike (operation other.terminal).2) :
    AlikeAfter (Option.some (s.onTerminal operation))
      (Option.some (other.onTerminal operation)) := by
  have hother : other.onTerminal operation = ((operation s.terminal).1,
      { other with terminal := (operation other.terminal).2 }) := by
    rw [hresult]
    rfl
  rw [hother]
  exact (h.withTerminal hafter).some _

theorem Alike.history (h : s.Alike other) : s.history = other.history :=
  congrArg SessionView.history h.view

theorem Alike.lastInput (h : s.Alike other) : s.lastInput = other.lastInput :=
  congrArg SessionView.lastInput h.view

theorem Alike.interactive (h : s.Alike other) : s.interactive = other.interactive :=
  congrArg SessionView.interactive h.view

theorem Alike.withScreen (h : s.Alike other) (written written' : List Text) :
    (s.withScreen written).Alike (other.withScreen written') :=
  ⟨⟨h.terminal.typed, h.terminal.locked, h.terminal.active, h.terminal.active_other,
    h.terminal.current⟩, h.view⟩

end Session

namespace Shell

variable {shell : Shell} {deeper : Answerer} {s other : Session}

theorem serve_alike {r : Request} (hr : r.nests = false) (h : s.Alike other) :
    Session.AlikeAfter (shell.serve deeper r s) (shell.serve deeper r other) := by
  cases r with
  | prompt text => exact h.onTerminal (h.terminal.prompt text).1 (h.terminal.prompt text).2
  | ask text => exact h.onTerminal (h.terminal.ask text).1 (h.terminal.ask text).2
  | promptTerminal text =>
    exact h.onTerminal (h.terminal.promptTerminal text).1 (h.terminal.promptTerminal text).2
  | readLine => exact h.onTerminal h.terminal.readLine.1 h.terminal.readLine.2
  | read size => exact h.onTerminal (h.terminal.read size).1 (h.terminal.read size).2
  | echo text => exact (h.withTerminal (h.terminal.write .screen _)).some ()
  | print outcome =>
    obtain ⟨written, hprint⟩ := print_withScreen shell outcome s
    obtain ⟨written', hprint'⟩ := print_withScreen shell outcome other
    rw [serve, serve, hprint, hprint']
    exact (h.withScreen written written').some _
  | script path =>
    have hnoted : (s.note (.opened path)).Alike (other.note (.opened path)) :=
      ⟨h.terminal, h.view⟩
    exact hnoted.some _
  | look =>
    rw [serve, serve, h.view]
    exact h.some _
  | flush =>
    apply Session.Alike.some
    refine ⟨h.terminal, ?_⟩
    rw [Session.view, Session.view, h.history, h.lastInput, h.interactive]
  | _ => contradiction

/-- What answers the requests of commands answers requests that evaluate nothing alike. -/
theorem below_alike (shell : Shell) (depth : Nat) {r : Request} (hr : r.nests = false)
    (h : s.Alike other) :
    Session.AlikeAfter (shell.below depth r s) (shell.below depth r other) := by
  cases depth with
  | zero => exact .inl ⟨rfl, rfl⟩
  | succ depth =>
    rw [below, answer_eq]
    exact serve_alike hr h

end Shell

theorem Program.run_alike (shell : Shell) (depth : Nat) {p : Program α}
    (hp : p.Only (·.nests = false)) {s other : Session} (h : s.Alike other) :
    Session.AlikeAfter (p.run (shell.below depth) s) (p.run (shell.below depth) other) ∧
      (p.exchanges (shell.below depth) s).map Exchange.told =
        (p.exchanges (shell.below depth) other).map Exchange.told := by
  induction p generalizing s other with
  | done a => exact ⟨h.some _, rfl⟩
  | fail f => exact ⟨h.some _, rfl⟩
  | call request next ih =>
    rw [run, run, exchanges, exchanges]
    rcases Shell.below_alike shell depth hp.1 h with
      ⟨hnone, hnone'⟩ | ⟨a, mid, mid', hreply, hreply', hmid⟩
    · rw [hnone, hnone']
      exact ⟨.inl ⟨rfl, rfl⟩, rfl⟩
    · rw [hreply, hreply']
      obtain ⟨hrun, htold⟩ := ih a (hp.2 a) hmid
      simp only [List.map_cons, htold]
      exact ⟨hrun, rfl⟩

namespace Shell

variable {shell : Shell} {s other : Session} {depth : Nat}

theorem taken_view (input : Input) (h : s.view = other.view) :
    (shell.taken input s).view = (shell.taken input other).view := by
  have hhistory : s.history = other.history := congrArg SessionView.history h
  have hinteractive : s.interactive = other.interactive := congrArg SessionView.interactive h
  have hlast : s.lastInput = other.lastInput := congrArg SessionView.lastInput h
  cases input with
  | line line =>
    rw [taken, taken]
    split
    · exact h
    · split <;> rw [Session.view, Session.view, hhistory, hinteractive]
  | tokens tokens =>
    cases tokens with
    | nil => exact h
    | cons token rest =>
      rw [taken, taken, Session.view, Session.view, hhistory, hinteractive, hlast]
      all_goals simp

theorem taken_alike (shell : Shell) (input : Input) (h : s.Alike other) :
    (shell.taken input s).Alike (shell.taken input other) := by
  refine ⟨?_, taken_view input h.view⟩
  rw [taken_terminal, taken_terminal]
  exact h.terminal

/-- A line whose command evaluates nothing further is evaluated alike. -/
theorem evaluateLine_alike (depth : Nat) {line : Text}
    (hflat : shell.CommandOnly (·.nests = false) (.line line)) (h : s.Alike other) :
    Session.AlikeAfter (shell.evaluateLine (shell.below depth) line s)
        (shell.evaluateLine (shell.below depth) line other) ∧
      (shell.lineExchanges (shell.below depth) line s).map Exchange.told =
        (shell.lineExchanges (shell.below depth) line other).map Exchange.told := by
  have htaken := taken_alike shell (.line line) h
  rw [evaluateLine_eq, evaluateLine_eq, lineExchanges, lineExchanges]
  cases hdecision : shell.decision (.line line) with
  | answer given => exact ⟨htaken.some _, rfl⟩
  | call d tokens =>
    have hnoted : ((shell.taken (.line line) s).note (.ran d.name tokens)).Alike
        ((shell.taken (.line line) other).note (.ran d.name tokens)) :=
      ⟨htaken.terminal, htaken.view⟩
    obtain ⟨hrun, htold⟩ :=
      Program.run_alike shell depth (hflat d tokens hdecision) hnoted
    refine ⟨?_, htold⟩
    rw [carryOut, carryOut, invoke_eq, invoke_eq]
    rcases hrun with ⟨hnone, hnone'⟩ | ⟨result, mid, mid', hended, hended', hmid⟩
    · rw [hnone, hnone']
      exact .inl ⟨rfl, rfl⟩
    · rw [hended, hended']
      exact hmid.some _

end Shell

end CommandShell
