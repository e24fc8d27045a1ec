import CommandShell.Proofs.Input.Alike
import CommandShell.Proofs.Script.Performance
import CommandShell.Proofs.Script.RoundTrip

/-!
# What the directives of a script read

While no scripted input is in force, a directive with lines of its own reads these and takes nothing
that is typed; a plain directive reads what is typed, and goes on where the last one left off.
-/

namespace CommandShell

namespace Shell

variable {shell : Shell} {depth : Nat} {lead : Text} {s after : Session} {outcome : Outcome}

/-- How many typed lines were read in performances: the reads of the plain directives. -/
def typedReads (shell : Shell) (depth : Nat) : List Performance → Nat
  | [] => 0
  | p :: ps =>
    match p.directive with
    | .plain _ => (lineReads (p.exchanges shell depth)).length + typedReads shell depth ps
    | .heredoc _ _ _ => typedReads shell depth ps

/-! ## One directive -/

/-- A command that reads by lines reads the lines to come, and leaves the others. -/
theorem lineExchanges_yield (depth : Nat) {line : Text}
    (hby : shell.CommandOnly (·.byLine = true) (.line line)) (hs : s.terminal.ByLines) :
    YieldInOrder (lineReads (shell.lineExchanges (shell.below depth) line s)) s.terminal.upcoming ∧
      ∀ outcome after,
        shell.evaluateLine (shell.below depth) line s = some (outcome, after) →
        after.terminal.upcoming = s.terminal.upcoming.drop
          (lineReads (shell.lineExchanges (shell.below depth) line s)).length := by
  rw [evaluateLine_eq, lineExchanges]
  cases hdecision : shell.decision (.line line) with
  | answer given =>
    refine ⟨.nil _, ?_⟩
    intro outcome after h
    obtain ⟨-, rfl⟩ := Prod.mk.inj (Option.some.inj h)
    rw [taken_terminal]
    rfl
  | call d tokens =>
    have hterminal : ((shell.taken (.line line) s).note (.ran d.name tokens)).terminal =
        s.terminal := taken_terminal shell (.line line) s
    have hreads := lineReads_exchanges (below_within shell depth) (hby d tokens hdecision)
      (s := (shell.taken (.line line) s).note (.ran d.name tokens)) (by rwa [hterminal])
    rw [hterminal] at hreads
    refine ⟨hreads.1, ?_⟩
    intro outcome after h
    obtain ⟨result, hrun⟩ := exists_run_of_invoke h
    exact hreads.2 result after hrun

theorem byLines_of_idle {t : Terminal} (h : t.Idle) :
    t.ByLines ∧ t.upcoming = t.typed.inputLines := by
  have hupcoming : t.upcoming = t.typed.inputLines := by rw [Terminal.upcoming, h.input]
  refine ⟨⟨h.active.trans h.input.symm, ?_⟩, hupcoming⟩
  intro line hline
  rw [hupcoming] at hline
  exact Text.isInputLine_of_mem hline

theorem byLines_of_install {t mid : Terminal} {lines : List Text} {outlet : Outlet}
    {i : Installation} (h : t.install lines outlet = .ok (i, mid))
    (hlines : ∀ line ∈ lines, '\n' ∉ line) :
    mid.ByLines ∧ mid.upcoming = lines.map (· ++ ['\n']) := by
  obtain ⟨-, -, rfl⟩ := Terminal.install_eq_ok h
  have hupcoming : Terminal.upcoming { t with
      streams := t.streams ++ [⟨.ofLines lines, outlet⟩]
      locked := true
      active := some t.streams.length
      input := some t.streams.length } = lines.map (· ++ ['\n']) := by
    simp [Terminal.upcoming, Source.lines, Source.ofLines]
  refine ⟨⟨rfl, ?_⟩, hupcoming⟩
  intro line hline
  rw [hupcoming] at hline
  obtain ⟨front, hfront, rfl⟩ := List.mem_map.1 hline
  exact Text.isInputLine_append (hlines front hfront)

/-- Whatever the command of a directive with lines of its own does, it takes nothing typed. -/
theorem typed_of_heredoc {text marker : Text} {lines : List Text}
    (h : shell.answer depth (.perform (.heredoc text marker lines)) s = some (outcome, after)) :
    after.terminal.typed = s.terminal.typed := by
  rw [answer_eq, serve, performWith] at h
  split at h
  · obtain ⟨-, rfl⟩ := Prod.mk.inj (Option.some.inj h)
    rfl
  · next i mid hinstall =>
    split at h
    · contradiction
    · next given evaluated hline =>
      obtain ⟨-, rfl⟩ := Prod.mk.inj (Option.some.inj h)
      have hdeep := evaluateInput_within (below_within shell depth) (.line text) hline
      have hmoves := (evaluateInput_evolves (answer_evolving shell depth) (.line text) hdeep).moves
      exact (Terminal.scripted_moves hinstall hmoves).2

theorem heredoc_yield {text marker : Text} {lines : List Text}
    (hlines : ∀ line ∈ lines, '\n' ∉ line)
    (hby : shell.CommandOnly (·.byLine = true) (.line text)) :
    YieldInOrder (lineReads (shell.directiveExchanges (shell.below depth)
      (.heredoc text marker lines) s)) (lines.map (· ++ ['\n'])) := by
  rw [directiveExchanges]
  cases hinstall : s.terminal.install lines .screen with
  | error f => exact .nil _
  | ok installed =>
    obtain ⟨i, mid⟩ := installed
    obtain ⟨hmid, hupcoming⟩ := byLines_of_install hinstall hlines
    have hreads := (lineExchanges_yield depth (s := { s with terminal := mid }) hby hmid).1
    rwa [hupcoming] at hreads

theorem plain_yield (depth : Nat) {text : Text} (hidle : s.terminal.Idle)
    (hby : shell.CommandOnly (·.byLine = true) (.line text)) :
    YieldInOrder (lineReads (shell.directiveExchanges (shell.below depth) (.plain text) s))
        s.terminal.typed.inputLines ∧
      ∀ outcome after, shell.answer depth (.perform (.plain text)) s = some (outcome, after) →
        after.terminal.typed.inputLines = s.terminal.typed.inputLines.drop
          (lineReads (shell.directiveExchanges (shell.below depth) (.plain text) s)).length := by
  obtain ⟨hbyLines, hupcoming⟩ := byLines_of_idle hidle
  obtain ⟨hyields, hleft⟩ := lineExchanges_yield depth hby hbyLines
  rw [hupcoming] at hyields hleft
  refine ⟨hyields, ?_⟩
  intro outcome after h
  have hafter : after.terminal.Idle := hidle.of_moves (answer_evolving shell depth h).moves
  rw [← (byLines_of_idle hafter).2]
  rw [answer_eq] at h
  exact hleft outcome after h

/-! ## A whole script -/

theorem shown_terminal (s : Session) (texts : List Text) :
    (s.shown texts).terminal.typed = s.terminal.typed ∧
      (s.shown texts).terminal.installed = s.terminal.installed := by
  rw [Session.shown_eq]
  exact ⟨rfl, rfl⟩

theorem printed_terminal (shell : Shell) (outcome : Outcome) (s : Session) :
    (shell.print outcome s).2.terminal.typed = s.terminal.typed ∧
      (shell.print outcome s).2.terminal.installed = s.terminal.installed := by
  obtain ⟨written, hprint⟩ := print_withScreen shell outcome s
  rw [hprint]
  exact ⟨rfl, rfl⟩

/-- Each performance is of a directive of the script, and finds and leaves no scripted input. -/
theorem Performs.idle {ds : List Directive} {ps : List Performance}
    (h : shell.Performs depth lead ds s ps) (hidle : s.terminal.Idle) :
    ∀ p ∈ ps, p.directive ∈ ds ∧ p.before.terminal.Idle ∧ p.after.terminal.Idle ∧
      shell.answer depth (.perform p.directive) p.before = some (p.outcome, p.after) := by
  induction h with
  | stop ds s => simp
  | @cons d ds ps outcome s mid hperform _ ih =>
    have hbefore : (s.shown ([] :: d.echo lead)).terminal.Idle :=
      (shown_terminal s _).2.trans hidle
    have hmid : mid.terminal.Idle := hbefore.of_moves (answer_evolving shell depth hperform).moves
    rw [List.forall_mem_cons]
    refine ⟨⟨List.mem_cons_self, hbefore, hmid, hperform⟩, ?_⟩
    intro p hp
    obtain ⟨hmem, hrest⟩ := ih ((printed_terminal shell outcome mid).2.trans hmid) p hp
    exact ⟨List.mem_cons_of_mem d hmem, hrest⟩

/-- The plain directives together read the typed lines in order. -/
theorem Performs.typed_yield {ds : List Directive} {ps : List Performance}
    (h : shell.Performs depth lead ds s ps) (hidle : s.terminal.Idle)
    (hby : ∀ text, .plain text ∈ ds → shell.CommandOnly (·.byLine = true) (.line text))
    {i : Nat} {p : Performance} {text : Text} (hp : ps[i]? = some p)
    (hplain : p.directive = .plain text) :
    YieldInOrder (lineReads (p.exchanges shell depth))
      (s.terminal.typed.inputLines.drop (shell.typedReads depth (ps.take i))) := by
  induction h generalizing i with
  | stop ds s => simp at hp
  | @cons d ds ps outcome s mid hperform _ ih =>
    have hbefore : (s.shown ([] :: d.echo lead)).terminal.Idle :=
      (shown_terminal s _).2.trans hidle
    have hmid : mid.terminal.Idle := hbefore.of_moves (answer_evolving shell depth hperform).moves
    have htyped := (shown_terminal s ([] :: d.echo lead)).1
    cases i with
    | zero =>
      obtain rfl := Option.some.inj hp
      obtain rfl : d = .plain text := hplain
      have hyields := (plain_yield depth hbefore (hby text List.mem_cons_self)).1
      rwa [htyped] at hyields
    | succ i =>
      have hrest := ih ((printed_terminal shell outcome mid).2.trans hmid)
        (fun text hmem => hby text (List.mem_cons_of_mem d hmem)) hp
      rw [(printed_terminal shell outcome mid).1] at hrest
      cases d with
      | plain first =>
        have hleft := (plain_yield depth hbefore (hby first List.mem_cons_self)).2
        rw [hleft outcome mid hperform, htyped, List.drop_drop] at hrest
        exact hrest
      | heredoc first marker lines =>
        rw [typed_of_heredoc hperform, htyped] at hrest
        exact hrest

end Shell

end CommandShell
