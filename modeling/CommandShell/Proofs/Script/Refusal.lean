import CommandShell.Proofs.Script.Performance
import CommandShell.Proofs.Shell.Interaction
import CommandShell.Proofs.Shell.Retrigger

/-!
# Scripted input inside scripted input

A directive with lines of its own that finds scripted input in force is refused before anything is
done, and performing a directive leaves in force what was in force before. So whatever is asked for
while such a directive is performed, in its command or in scripts that it runs at any depth, is
asked for while its own lines are in force, and no directive inside it gets lines of its own.
-/

namespace CommandShell

/-- Running the program, in the session, comes to make that request, in the session beside it. -/
inductive Program.Asks (answer : Answerer) : Program α → Session → Request → Session → Prop where
  | now {r : Request} {next : r.Answer → Program α} {s : Session} :
      Asks answer (.call r next) s r s
  | later {r other : Request} {next : r.Answer → Program α} {s mid asking : Session}
      {a : r.Answer} :
      answer r s = some (a, mid) → Asks answer (next a) mid other asking →
      Asks answer (.call r next) s other asking

/--
Answering the first request, in the session beside it, comes to make the second one, in the session
beside that. It is made by a command that is called, or by one that answering its requests calls.
-/
inductive Shell.Asks (shell : Shell) : Request → Session → Request → Session → Prop where
  | command {line : Text} {s asking : Session} {d : Descriptor} {tokens : List Text} {depth : Nat}
      {r : Request} :
      shell.decision (.line line) = .call d tokens →
      (d.handler ⟨d.name, tokens, shell.settings⟩).Asks (shell.answer depth)
        ((shell.taken (.line line) s).note (.ran d.name tokens)) r asking →
      Asks shell (.evaluate line) s r asking
  | plain {text : Text} {s asking : Session} {r : Request} :
      Asks shell (.evaluate text) s r asking → Asks shell (.perform (.plain text)) s r asking
  | heredoc {text marker : Text} {lines : List Text} {s asking : Session} {r : Request}
      {installation : Installation} {t : Terminal} :
      s.terminal.install lines .screen = .ok (installation, t) →
      Asks shell (.evaluate text) { s with terminal := t } r asking →
      Asks shell (.perform (.heredoc text marker lines)) s r asking
  | loop {line : Text} {s heard asking : Session} {r : Request} :
      shell.Comes (shell.enter s) line heard → Asks shell (.evaluate line) heard r asking →
      Asks shell .loop s r asking
  | deeper {r mid other : Request} {s between asking : Session} :
      Asks shell r s mid between → Asks shell mid between other asking →
      Asks shell r s other asking

variable {shell : Shell} {s asking after : Session} {r other : Request}

theorem Session.Evolves.installed (h : s.Evolves after) :
    after.terminal.installed = s.terminal.installed :=
  h.moves.installed

theorem Terminal.locked_of_installed {t after : Terminal} (h : after.installed = t.installed) :
    after.locked = t.locked :=
  congrArg (·.1) h

/-- Every exchange of a run is about a request that is made in it. -/
theorem Program.asks_of_mem_exchanges {answer : Answerer} {p : Program α} {e : Exchange}
    (h : e ∈ p.exchanges answer s) : p.Asks answer s e.request e.before := by
  induction p generalizing s with
  | done a => contradiction
  | fail f => contradiction
  | call request next ih =>
    rw [exchanges] at h
    split at h
    · contradiction
    · next a mid hreply =>
      rcases List.mem_cons.1 h with rfl | hrest
      · exact .now
      · exact .later hreply (ih a hrest)

namespace Shell

theorem asks_of_mem_lineExchanges {depth : Nat} {line : Text} {e : Exchange}
    (h : e ∈ shell.lineExchanges (shell.answer depth) line s) :
    shell.Asks (.evaluate line) s e.request e.before := by
  rw [lineExchanges] at h
  cases hdecision : shell.decision (.line line) with
  | answer outcome =>
    rw [hdecision] at h
    contradiction
  | call d tokens =>
    rw [hdecision] at h
    exact .command hdecision (Program.asks_of_mem_exchanges h)

/-- What the command of a directive exchanges is asked for when the directive is performed. -/
theorem asks_of_mem_directiveExchanges {depth : Nat} {d : Directive} {e : Exchange}
    (h : e ∈ shell.directiveExchanges (shell.answer depth) d s) :
    shell.Asks (.perform d) s e.request e.before := by
  cases d with
  | plain text => exact .plain (asks_of_mem_lineExchanges h)
  | heredoc text marker lines =>
    rw [directiveExchanges] at h
    cases hinstall : s.terminal.install lines .screen with
    | error f =>
      rw [hinstall] at h
      contradiction
    | ok installed =>
      obtain ⟨i, terminal⟩ := installed
      rw [hinstall] at h
      exact .heredoc hinstall (asks_of_mem_lineExchanges h)

end Shell

theorem Program.Asks.evolves {answer : Answerer} (hanswer : answer.Evolving) {p : Program α}
    (h : p.Asks answer s r asking) : s.Evolves asking := by
  induction h with
  | now => exact .refl _
  | later hreply _ ih => exact (hanswer hreply).trans ih

theorem Shell.readInput_evolves {line : Text} (h : shell.readInput s = (some line, after)) :
    s.Evolves after := by
  have hread := (closed_evolves shell).readInput s
  rwa [h] at hread

theorem Turn.Of.evolves {t : Turn} (h : t.Of shell s) : s.Evolves (t.printed shell) := by
  obtain ⟨depth, hrun⟩ := h.evaluates
  have hheard := Shell.readInput_evolves h.read
  exact hheard.trans ((Shell.evaluate_evolves hrun).trans (Shell.printOrReport_evolves shell _ _))

namespace Shell

theorem Comes.evolves {line : Text} (h : shell.Comes s line asking) : s.Evolves asking := by
  induction h with
  | now hread => exact readInput_evolves hread
  | later hturn _ _ ih => exact hturn.evolves.trans ih

/-- While scripted input is in force, the same is in force at every request, at any depth. -/
theorem Asks.installed (h : shell.Asks r s other asking) (hlocked : s.terminal.locked = true) :
    asking.terminal.installed = s.terminal.installed := by
  induction h with
  | @command line s asking d tokens depth r _ hasks =>
    have htaken := (taken_evolves shell (.line line) s).trans (.noted _ (.ran d.name tokens))
    exact (htaken.trans (hasks.evolves (answer_evolving shell depth))).installed
  | plain _ ih => exact ih hlocked
  | heredoc hinstall _ _ =>
    have hfree := (Terminal.install_eq_ok hinstall).1
    rw [hlocked] at hfree
    contradiction
  | loop hcomes _ ih =>
    have hheard := ((enter_evolves shell _).trans hcomes.evolves).installed
    exact (ih ((Terminal.locked_of_installed hheard).trans hlocked)).trans hheard
  | deeper _ _ ih ih' =>
    have hbetween := ih hlocked
    exact (ih' ((Terminal.locked_of_installed hbetween).trans hlocked)).trans hbetween

/-- What is asked for while a directive with lines of its own is performed finds them in force. -/
theorem Asks.installed_of_heredoc {text marker : Text} {lines : List Text}
    (h : shell.Asks (.perform (.heredoc text marker lines)) s other asking) :
    asking.terminal.installed =
      (true, some s.terminal.streams.length, some s.terminal.streams.length) := by
  generalize hr : Request.perform (.heredoc text marker lines) = r at h
  induction h with
  | heredoc hinstall hasks _ =>
    obtain ⟨-, -, rfl⟩ := Terminal.install_eq_ok hinstall
    exact hasks.installed rfl
  | deeper _ hinner ih _ =>
    have hbetween := ih hr
    have hlocked := congrArg (·.1) hbetween
    exact (hinner.installed hlocked).trans hbetween
  | _ => cases hr

theorem performWith_of_locked (shell : Shell) (answer : Answerer) (text marker : Text)
    (lines : List Text) (hlocked : s.terminal.locked = true) :
    shell.performWith answer (.heredoc text marker lines) s =
      some (.failed (shell.report text .inputInstalled), s) := by
  rw [performWith, Terminal.install, if_pos hlocked]

/--
A directive with lines of its own that finds scripted input in force has the outcome that reports
it, and leaves the session as it is. Whatever directive is performed, and whatever its command
does, the same is in force afterwards as before, and at every request that is made in between while
something was in force; among these requests are the exchanges of its command. So a directive inside
one with lines of its own, at any depth, finds these in force, and is refused if it has lines
itself.
-/
theorem scripted_input_refused (shell : Shell) :
    (∀ answer s text marker lines, s.terminal.locked = true →
      shell.performWith answer (.heredoc text marker lines) s =
        some (.failed (shell.report text .inputInstalled), s)) ∧
    (∀ depth d s outcome after, shell.perform depth d s = some (outcome, after) →
      after.terminal.installed = s.terminal.installed) ∧
    (∀ depth d s, ∀ e ∈ shell.directiveExchanges (shell.answer depth) d s,
      shell.Asks (.perform d) s e.request e.before) ∧
    (∀ r s other asking, shell.Asks r s other asking → s.terminal.locked = true →
      asking.terminal.installed = s.terminal.installed) ∧
    (∀ text marker lines s other asking,
      shell.Asks (.perform (.heredoc text marker lines)) s other asking →
      asking.terminal.installed =
        (true, some s.terminal.streams.length, some s.terminal.streams.length)) ∧
    ∀ text marker lines s text' marker' lines' asking,
      shell.Asks (.perform (.heredoc text marker lines)) s
        (.perform (.heredoc text' marker' lines')) asking →
      ∀ depth, shell.answer depth (.perform (.heredoc text' marker' lines')) asking =
        some (.failed (shell.report text' .inputInstalled), asking) := by
  refine ⟨?_, ?_, ?_, ?_, ?_, ?_⟩
  · intro answer s text marker lines hlocked
    exact performWith_of_locked shell answer text marker lines hlocked
  · intro depth d s outcome after hrun
    exact ((closed_evolves shell).performWith (answer_evolving shell depth) hrun).installed
  · intro depth d s e he
    exact asks_of_mem_directiveExchanges he
  · intro r s other asking hasks hlocked
    exact hasks.installed hlocked
  · intro text marker lines s other asking hasks
    exact hasks.installed_of_heredoc
  · intro text marker lines s text' marker' lines' asking hasks depth
    have hlocked : asking.terminal.locked = true := congrArg (·.1) hasks.installed_of_heredoc
    rw [answer_eq]
    exact performWith_of_locked shell _ text' marker' lines' hlocked

/-- The built-in commands, and a script that gives `dbg.echo` a line of its own. -/
def nested : Shell :=
  { bare with
    files := fun _ => .ok ("dbg.echo a <<E\nb\nE\n".toList.map fun c => c.toNat.toUInt8) }

def nestedSession : Session := .start nested.settings (.ofTyped [])

/-- The terminal of that session while one line of scripted input is in force. -/
def nestedTerminal : Terminal := ⟨[], [], [], [⟨.ofLines [['z']], .screen⟩], true, some 0, some 0⟩

set_option maxRecDepth 4000 in
/-- The script, run with a line of its own, has its directive refused. -/
theorem scripted_input_refused_nested :
    let outer := Directive.heredoc "cli.script s".toList ['X'] [['z']]
    let inner := Directive.heredoc "dbg.echo a".toList ['E'] [['b']]
    ∃ asking, nested.Asks (.perform outer) nestedSession (.perform inner) asking ∧
      ∀ depth, nested.answer depth (.perform inner) asking =
        some (.failed "error: dbg.echo a: virtual input is already installed".toList, asking) := by
  intro outer inner
  have hinstall : nestedSession.terminal.install [['z']] .screen =
      .ok (⟨0, none, none⟩, nestedTerminal) := rfl
  have hreading : nested.reading (Text.strip "cli.script s".toList) = .command := by
    decide +kernel
  have hcut : Token.ofLine (Text.strip "cli.script s".toList) = ["cli.script".toList, ['s']] := by
    decide +kernel
  have hget : nested.registry.get? "cli.script".toList =
      some (Builtin.descriptor "cli.script".toList "Run commands from a script file.".toList
        "cli.script FILE".toList Builtin.script) := rfl
  have hdecision := decision_line_eq_call_iff.2
    ⟨hreading, _, hcut, choose_eq_run_iff.2 (Or.inl hget)⟩
  have hasked : ((Builtin.script ⟨"cli.script".toList, [['s']], nested.settings⟩).exchanges
      (nested.answer 0) ((nested.taken (.line "cli.script s".toList)
        { nestedSession with terminal := nestedTerminal }).note
          (.ran "cli.script".toList [['s']]))).any fun e => e.request = .perform inner := by
    decide +kernel
  obtain ⟨e, he, hrequest⟩ := List.any_eq_true.1 hasked
  have hasks := Program.asks_of_mem_exchanges he
  rw [of_decide_eq_true hrequest] at hasks
  have houter : nested.Asks (.perform outer) nestedSession (.perform inner) e.before :=
    .heredoc hinstall (.command hdecision hasks)
  obtain ⟨-, -, -, -, -, hrefused⟩ := scripted_input_refused nested
  exact ⟨e.before, houter, hrefused _ _ _ _ _ _ _ _ houter⟩

end Shell

end CommandShell
