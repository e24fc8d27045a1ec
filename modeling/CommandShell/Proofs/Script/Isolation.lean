import Mathlib.Data.List.Forall2
import CommandShell.Proofs.Script.Supply
import CommandShell.Proofs.Shell.Alike

/-!
# Scripts that differ in scripted input alone

In two scripts of the same commands, a directive with the same lines of its own is told the same,
whatever lines the others have: by then the sessions are alike. Only a command that is given other
lines, and forgets the history because of them, can make a difference that later ones can see.
-/

namespace CommandShell

/-- Directives of the same command line that both have, or both lack, lines of their own. -/
inductive Directive.SameCommand : Directive → Directive → Prop where
  | plain (text : Text) : SameCommand (.plain text) (.plain text)
  | heredoc (text marker marker' : Text) (lines lines' : List Text) :
      SameCommand (.heredoc text marker lines) (.heredoc text marker' lines')

namespace Shell

variable {shell : Shell} {depth : Nat} {lead : Text} {s other after : Session} {outcome : Outcome}

/-! ## What a command leaves as it was -/

theorem serve_view {deeper : Answerer} {r : Request} {a : r.Answer} (hflat : r.nests = false)
    (hkept : r ≠ .flush) (h : shell.serve deeper r s = some (a, after)) :
    after.view = s.view := by
  cases r with
  | evaluate line => contradiction
  | perform d => contradiction
  | loop => contradiction
  | flush => contradiction
  | print outcome =>
    obtain ⟨written, hprint⟩ := print_withScreen shell outcome s
    rw [serve, hprint] at h
    exact congrArg (·.2.view) (Option.some.inj h).symm
  | _ => exact congrArg (·.2.view) (Option.some.inj h).symm

theorem run_view {p : Program α} (hflat : p.Only (·.nests = false)) (hkept : p.Only (· ≠ .flush))
    {result : Except Failure α} (h : p.run (shell.below depth) s = some (result, after)) :
    after.view = s.view := by
  induction p generalizing s with
  | done a =>
    obtain ⟨-, rfl⟩ := Prod.mk.inj (Option.some.inj h)
    rfl
  | fail f =>
    obtain ⟨-, rfl⟩ := Prod.mk.inj (Option.some.inj h)
    rfl
  | call request next ih =>
    rw [Program.run] at h
    cases hreply : shell.below depth request s with
    | none =>
      rw [hreply] at h
      contradiction
    | some reply =>
      obtain ⟨a, mid⟩ := reply
      rw [hreply] at h
      have hanswer := below_within shell depth hreply
      rw [answer_eq] at hanswer
      rw [ih a (hflat.2 a) (hkept.2 a) h, serve_view hflat.1 hkept.1 hanswer]

theorem evaluateLine_view {line : Text} (hflat : shell.CommandOnly (·.nests = false) (.line line))
    (hkept : shell.CommandOnly (· ≠ .flush) (.line line))
    (h : shell.evaluateLine (shell.below depth) line s = some (outcome, after)) :
    after.view = (shell.taken (.line line) s).view := by
  rw [evaluateLine_eq] at h
  cases hdecision : shell.decision (.line line) with
  | answer given =>
    rw [hdecision] at h
    obtain ⟨-, rfl⟩ := Prod.mk.inj (Option.some.inj h)
    rfl
  | call d tokens =>
    rw [hdecision] at h
    obtain ⟨result, hrun⟩ := exists_run_of_invoke h
    have hview := run_view (hflat d tokens hdecision) (hkept d tokens hdecision) hrun
    exact hview

/-! ## One directive in two runs -/

theorem exists_install {t : Terminal} (h : t.Idle) (lines : List Text) (outlet : Outlet) :
    ∃ i mid, t.install lines outlet = .ok (i, mid) := by
  rw [Terminal.install, h.locked]
  exact ⟨_, _, rfl⟩

/-- Performing a directive unfolds in the exchanges of its performance, and in no others. -/
theorem unfolds_performed {p : Performance}
    (h : shell.answer depth (.perform p.directive) p.before = some (p.outcome, p.after))
    {es : List Exchange} :
    shell.DirectiveUnfolds (shell.below depth) p.before p.directive es outcome after ↔
      es = p.exchanges shell depth ∧ outcome = p.outcome ∧ after = p.after := by
  rw [answer_eq] at h
  have hperform : shell.performWith (shell.below depth) p.directive p.before =
      some (p.outcome, p.after) := h
  rw [directiveUnfolds_iff, hperform, Option.some.injEq, Prod.mk.injEq]
  constructor
  · rintro ⟨⟨houtcome, hafter⟩, hes⟩
    exact ⟨hes, houtcome.symm, hafter.symm⟩
  · rintro ⟨hes, rfl, rfl⟩
    exact ⟨⟨rfl, rfl⟩, hes⟩

/-- A directive with lines of its own is its line, evaluated while these are installed. -/
theorem perform_heredoc (shell : Shell) (depth : Nat) (text marker : Text) (lines : List Text)
    (hidle : s.terminal.Idle) :
    ∃ i mid, s.terminal.install lines .screen = .ok (i, mid) ∧
      shell.directiveExchanges (shell.below depth) (.heredoc text marker lines) s =
        shell.lineExchanges (shell.below depth) text { s with terminal := mid } ∧
      shell.answer depth (.perform (.heredoc text marker lines)) s =
        (shell.evaluateLine (shell.below depth) text { s with terminal := mid }).map fun given =>
          (given.1, { given.2 with terminal := given.2.terminal.remove i }) := by
  obtain ⟨i, mid, hinstall⟩ := exists_install hidle lines .screen
  refine ⟨i, mid, hinstall, ?_, ?_⟩
  · rw [directiveExchanges, hinstall]
  · rw [answer_eq, serve, performWith, hinstall]
    simp only
    cases shell.evaluateLine (shell.below depth) text { s with terminal := mid } <;> rfl

theorem heredoc_view {text marker : Text} {lines : List Text} (hidle : s.terminal.Idle)
    (hflat : shell.CommandOnly (·.nests = false) (.line text))
    (hkept : shell.CommandOnly (· ≠ .flush) (.line text))
    (h : shell.answer depth (.perform (.heredoc text marker lines)) s = some (outcome, after)) :
    after.view = (shell.taken (.line text) s).view := by
  obtain ⟨i, mid, -, -, hanswer⟩ := perform_heredoc shell depth text marker lines hidle
  rw [hanswer, Option.map_eq_some_iff] at h
  obtain ⟨⟨given, evaluated⟩, hline, hafter⟩ := h
  obtain ⟨-, rfl⟩ := Prod.mk.inj hafter
  exact (evaluateLine_view hflat hkept hline).trans (taken_view _ rfl)

/-- What performing a directive leaves behind is alike if it looks and reads the same. -/
theorem alike_of_performed {d d' : Directive} {outcome' : Outcome} {after' : Session}
    (hidle : s.terminal.Idle) (hother : other.terminal.Idle)
    (hperform : shell.answer depth (.perform d) s = some (outcome, after))
    (hperform' : shell.answer depth (.perform d') other = some (outcome', after'))
    (htyped : after.terminal.typed = after'.terminal.typed) (hview : after.view = after'.view) :
    after.Alike after' := by
  have hafter := hidle.of_moves (answer_evolving shell depth hperform).moves
  have hafter' := hother.of_moves (answer_evolving shell depth hperform').moves
  exact ⟨hafter.alike hafter' htyped, hview⟩

/-- The same directive is told the same in sessions that are alike, and leaves them alike. -/
theorem perform_alike (depth : Nat) {d : Directive}
    (hflat : shell.CommandOnly (·.nests = false) (.line d.text))
    (h : s.Alike other) (hidle : s.terminal.Idle) (hother : other.terminal.Idle) :
    Session.AlikeAfter (shell.answer depth (.perform d) s) (shell.answer depth (.perform d) other) ∧
      (shell.directiveExchanges (shell.below depth) d s).map Exchange.told =
        (shell.directiveExchanges (shell.below depth) d other).map Exchange.told := by
  cases d with
  | plain text =>
    rw [answer_eq]
    exact evaluateLine_alike _ hflat h
  | heredoc text marker lines =>
    have hflat : shell.CommandOnly (·.nests = false) (.line text) := hflat
    obtain ⟨i, mid, hinstall, hexchanges, hanswer⟩ :=
      perform_heredoc shell depth text marker lines hidle
    obtain ⟨i', mid', hinstall', hexchanges', hanswer'⟩ :=
      perform_heredoc shell depth text marker lines hother
    have hmid : mid.Alike mid' := by
      obtain ⟨-, -, rfl⟩ := Terminal.install_eq_ok hinstall
      obtain ⟨-, -, rfl⟩ := Terminal.install_eq_ok hinstall'
      exact ⟨h.terminal.typed, rfl, rfl, rfl, by simp [Terminal.current]⟩
    obtain ⟨hline, htold⟩ := evaluateLine_alike depth hflat (h.withTerminal hmid)
    rw [hexchanges, hexchanges']
    refine ⟨?_, htold⟩
    rcases hline with ⟨hnone, hnone'⟩ | ⟨outcome, after, after', hline, hline', hafter⟩
    · rw [hanswer, hanswer', hnone, hnone']
      exact .inl ⟨rfl, rfl⟩
    · rw [hline] at hanswer
      rw [hline'] at hanswer'
      have htyped : (after.terminal.remove i).typed = (after'.terminal.remove i').typed := by
        rw [Terminal.typed_remove, Terminal.typed_remove, hafter.terminal.typed]
      have hremoved := alike_of_performed hidle hother hanswer hanswer' htyped hafter.view
      rw [hanswer, hanswer']
      exact hremoved.some outcome

/-- Directives of one command leave alike sessions alike if it does not forget the history. -/
theorem perform_sameCommand {d d' : Directive} (hsame : d.SameCommand d') (hne : d ≠ d')
    (hflat : shell.CommandOnly (·.nests = false) (.line d.text))
    (hkept : shell.CommandOnly (· ≠ .flush) (.line d.text))
    (h : s.Alike other) (hidle : s.terminal.Idle) (hother : other.terminal.Idle)
    {outcome' : Outcome} {after' : Session}
    (hperform : shell.answer depth (.perform d) s = some (outcome, after))
    (hperform' : shell.answer depth (.perform d') other = some (outcome', after')) :
    after.Alike after' := by
  cases hsame with
  | plain text => exact absurd rfl hne
  | heredoc text marker marker' lines lines' =>
    have htyped : after.terminal.typed = after'.terminal.typed := by
      rw [typed_of_heredoc hperform, typed_of_heredoc hperform', h.terminal.typed]
    refine alike_of_performed hidle hother hperform hperform' htyped ?_
    rw [heredoc_view hidle hflat hkept hperform, heredoc_view hother hflat hkept hperform']
    exact taken_view _ h.view

/-! ## Two scripts -/

/-- In runs of two scripts of the same commands, equal directives are told the same. -/
theorem Performs.told_eq {ds ds' : List Directive} {ps ps' : List Performance}
    (h : shell.Performs depth lead ds s ps) (h' : shell.Performs depth lead ds' other ps')
    (hsame : List.Forall₂ Directive.SameCommand ds ds')
    (hflat : ∀ d ∈ ds, shell.CommandOnly (·.nests = false) (.line d.text))
    (hkept : ∀ (i : Nat) d d', ds[i]? = some d → ds'[i]? = some d' → d ≠ d' →
      shell.CommandOnly (· ≠ .flush) (.line d.text))
    (halike : s.Alike other) (hidle : s.terminal.Idle) (hother : other.terminal.Idle)
    {i : Nat} {p p' : Performance} (hp : ps[i]? = some p) (hp' : ps'[i]? = some p')
    (heq : p.directive = p'.directive) :
    (p.exchanges shell depth).map Exchange.told = (p'.exchanges shell depth).map Exchange.told := by
  induction h generalizing ds' other ps' i with
  | stop ds s => simp at hp
  | @cons d ds ps outcome s mid hperform _ ih =>
    cases h' with
    | stop => simp at hp'
    | @cons d' ds' ps' outcome' _ mid' hperform' hrest' =>
      obtain ⟨hfirst, hsame⟩ := List.forall₂_cons.1 hsame
      rw [List.forall_mem_cons] at hflat
      have hshown : (s.shown ([] :: d.echo lead)).Alike (other.shown ([] :: d'.echo lead)) := by
        rw [Session.shown_eq, Session.shown_eq]
        exact halike.withScreen _ _
      have hbefore : (s.shown ([] :: d.echo lead)).terminal.Idle :=
        (shown_terminal s _).2.trans hidle
      have hbefore' : (other.shown ([] :: d'.echo lead)).terminal.Idle :=
        (shown_terminal other _).2.trans hother
      cases i with
      | zero =>
        obtain rfl := Option.some.inj hp
        obtain rfl := Option.some.inj hp'
        obtain rfl : d = d' := heq
        exact (perform_alike depth hflat.1 hshown hbefore hbefore').2
      | succ i =>
        -- the sessions stay alike past every directive; only here may the scripts differ
        have hmid : mid.Alike mid' := by
          by_cases hd : d = d'
          · subst hd
            rcases (perform_alike depth hflat.1 hshown hbefore hbefore').1 with
              ⟨hnone, -⟩ | ⟨_, _, _, hfirst, hsecond, hafter⟩
            · rw [hperform] at hnone
              contradiction
            · rw [hperform, Option.some.injEq, Prod.mk.injEq] at hfirst
              rw [hperform', Option.some.injEq, Prod.mk.injEq] at hsecond
              rwa [hfirst.2, hsecond.2]
          · exact perform_sameCommand hfirst hd hflat.1 (hkept 0 d d' rfl rfl hd) hshown hbefore
              hbefore' hperform hperform'
        obtain ⟨written, hprint⟩ := print_withScreen shell outcome mid
        obtain ⟨written', hprint'⟩ := print_withScreen shell outcome' mid'
        have hprinted : (shell.print outcome mid).2.Alike (shell.print outcome' mid').2 := by
          rw [hprint, hprint']
          exact hmid.withScreen written written'
        have hmidIdle := hbefore.of_moves (answer_evolving shell depth hperform).moves
        have hmidIdle' := hbefore'.of_moves (answer_evolving shell depth hperform').moves
        exact ih hrest' hsame hflat.2 (fun j e e' he he' => hkept (j + 1) e e' he he') hprinted
          ((printed_terminal shell outcome mid).2.trans hmidIdle)
          ((printed_terminal shell outcome' mid').2.trans hmidIdle') hp hp'

end Shell

namespace Script

open Shell

variable {shell : Shell}

theorem not_mem_of_parse {text command marker line : Text} {ds : List Directive}
    {lines : List Text} (hparse : parse text = .ok ds)
    (hmem : .heredoc command marker lines ∈ ds) (hline : line ∈ lines) : '\n' ∉ line := by
  have hformed := wellFormed_of_parseLines (fun _ => Text.not_mem_of_mem_scriptLines)
    (fun h he => by cases he) hparse _ hmem
  exact (hformed.2.2 line hline).1

/-- In any run of any script, a directive with lines of its own reads these. -/
theorem heredoc_performed {path text : Text} {ds : List Directive} {depth : Nat} {lead : Text}
    (hload : load shell.files path = .ok text) (hparse : parse text = .ok ds) {s : Session}
    (hidle : s.terminal.Idle) {p : Performance} (hp : p ∈ shell.performances depth lead path s)
    {command marker : Text} {lines : List Text}
    (hdirective : p.directive = .heredoc command marker lines)
    (hby : shell.CommandOnly (·.byLine = true) (.line command)) :
    YieldInOrder (lineReads (p.exchanges shell depth)) (lines.map (· ++ ['\n'])) := by
  have hperforms := performs_performances depth lead hload hparse s
  have hmem := (hperforms.idle hidle p hp).1
  rw [hdirective] at hmem
  rw [Performance.exchanges, hdirective]
  exact heredoc_yield (fun line => not_mem_of_parse hparse hmem) hby

/--
Scripted input belongs to its directive alone. While none is in force, every directive of a script
finds none in force and leaves none, and performing it unfolds in its exchanges, and in no others.
One with lines of its own takes nothing typed, and its reads by lines yield these in order and then
the end of input, in whatever script it stands; the reads of the plain ones yield what is typed, and
nothing else. If two scripts differ in scripted input alone, a directive that is the same in both is
told the same in both, unless a command forgot the history because of other lines.
-/
theorem scripted_input_isolated {path text : Text} {ds : List Directive}
    (hload : load shell.files path = .ok text) (hparse : parse text = .ok ds) (depth : Nat)
    (lead : Text) {s : Session} (hidle : s.terminal.Idle) :
    (shell.performances depth lead path s).map (·.directive) <+: ds ∧
    (∀ p ∈ shell.performances depth lead path s,
      p.before.terminal.Idle ∧ p.after.terminal.Idle ∧
      shell.answer depth (.perform p.directive) p.before = some (p.outcome, p.after) ∧
      (∀ es outcome after,
        shell.DirectiveUnfolds (shell.below depth) p.before p.directive es outcome after ↔
          es = p.exchanges shell depth ∧ outcome = p.outcome ∧ after = p.after) ∧
      ∀ command marker lines, p.directive = .heredoc command marker lines →
        p.after.terminal.typed = p.before.terminal.typed ∧
        (shell.CommandOnly (·.byLine = true) (.line command) →
          YieldInOrder (lineReads (p.exchanges shell depth)) (lines.map (· ++ ['\n'])))) ∧
    ((∀ command, .plain command ∈ ds → shell.CommandOnly (·.byLine = true) (.line command)) →
      ∀ (i : Nat) p command, (shell.performances depth lead path s)[i]? = some p →
        p.directive = .plain command →
        YieldInOrder (lineReads (p.exchanges shell depth)) (s.terminal.typed.inputLines.drop
          (shell.typedReads depth ((shell.performances depth lead path s).take i)))) ∧
    ∀ path' text' ds', load shell.files path' = .ok text' → parse text' = .ok ds' →
      (∀ other, other.terminal.Idle → ∀ p ∈ shell.performances depth lead path s,
        ∀ p' ∈ shell.performances depth lead path' other, p.directive = p'.directive →
        ∀ command marker lines, p.directive = .heredoc command marker lines →
        shell.CommandOnly (·.byLine = true) (.line command) →
        ∀ (k : Nat) e e', (lineReads (p.exchanges shell depth))[k]? = some e →
          (lineReads (p'.exchanges shell depth))[k]? = some e' →
          ∃ line, e.Yields line ∧ e'.Yields line) ∧
      (List.Forall₂ Directive.SameCommand ds ds' →
        (∀ d ∈ ds, shell.CommandOnly (·.nests = false) (.line d.text)) →
        (∀ (i : Nat) d d', ds[i]? = some d → ds'[i]? = some d' → d ≠ d' →
          shell.CommandOnly (· ≠ .flush) (.line d.text)) →
        ∀ (i : Nat) p p', (shell.performances depth lead path s)[i]? = some p →
          (shell.performances depth lead path' s)[i]? = some p' → p.directive = p'.directive →
          (p.exchanges shell depth).map Exchange.told =
            (p'.exchanges shell depth).map Exchange.told) := by
  have hperforms := performs_performances depth lead hload hparse s
  refine ⟨hperforms.isPrefix, ?_, ?_, ?_⟩
  · intro p hp
    obtain ⟨-, hbefore, hafter, hperform⟩ := hperforms.idle hidle p hp
    refine ⟨hbefore, hafter, hperform, fun es outcome after => unfolds_performed hperform, ?_⟩
    intro command marker lines hdirective
    rw [hdirective] at hperform
    exact ⟨typed_of_heredoc hperform, heredoc_performed hload hparse hidle hp hdirective⟩
  · intro hby i p command hp hplain
    exact hperforms.typed_yield hidle hby hp hplain
  · intro path' text' ds' hload' hparse'
    constructor
    · intro other hother p hp p' hp' heq command marker lines hdirective hby k e e' he he'
      have hyields := heredoc_performed hload hparse hidle hp hdirective hby
      have hyields' :=
        heredoc_performed hload' hparse' hother hp' (heq.symm.trans hdirective) hby
      exact ⟨_, hyields k e he, hyields' k e' he'⟩
    · intro hsame hflat hkept i p p' hp hp' heq
      have hperforms' := performs_performances depth lead hload' hparse' s
      have halike : (s.note (.opened path)).Alike (s.note (.opened path')) :=
        ⟨hidle.alike hidle rfl, rfl⟩
      exact hperforms.told_eq hperforms' hsame hflat hkept halike hidle hidle hp hp' heq

/-- A script whose first directive is given the line. -/
def askingText (line : Text) : Text :=
  "ask <<E\n".toList ++ line ++ "\nE\nask\nask <<E\nb\nc\nE\n".toList

def askingScript (line : Text) : List Directive :=
  [.heredoc "ask".toList ['E'] [line], .plain "ask".toList,
    .heredoc "ask".toList ['E'] ["b".toList, "c".toList]]

/-- A command that asks for three lines, each in another way. -/
def asking : Shell :=
  { registry := ⟨[⟨"ask".toList, [], [], false, fun _ => do
      let first ← Program.request (.prompt [])
      let second ← Program.request (.ask [])
      let third ← Program.request .readLine
      return .ofLines [first.getD [], second.getD [], third]⟩], by decide⟩
    settings := .default
    formatters := []
    files := fun line => .ok ((askingText line).map fun c => c.toNat.toUInt8) }

def askingSession : Session := .start asking.settings (.ofTyped "one\ntwo\n".toList)

theorem asking_only (kind : Request → Prop) (hprompt : kind (.prompt [])) (hask : kind (.ask []))
    (hline : kind .readLine) (line : Text) : asking.CommandOnly kind (.line line) := by
  apply commandOnly_of_forall
  intro d hd i
  obtain rfl := List.mem_singleton.1 hd
  exact ⟨hprompt, fun _ => ⟨hask, fun _ => ⟨hline, fun _ => trivial⟩⟩⟩

set_option maxRecDepth 4000 in
/-- The line that the first directive is given is no matter to the other two. -/
theorem scripted_input_isolated_asking :
    load asking.files ['x'] = .ok (askingText ['x']) ∧
      parse (askingText ['x']) = .ok (askingScript ['x']) ∧
      askingSession.terminal.Idle ∧
      (asking.performances 1 [] ['x'] askingSession).map (·.directive) = askingScript ['x'] ∧
      (∀ (i : Nat) p command, (asking.performances 1 [] ['x'] askingSession)[i]? = some p →
        p.directive = .plain command →
        YieldInOrder (lineReads (p.exchanges asking 1))
          (askingSession.terminal.typed.inputLines.drop
            (asking.typedReads 1 ((asking.performances 1 [] ['x'] askingSession).take i)))) ∧
      ∀ (i : Nat) p p', (asking.performances 1 [] ['x'] askingSession)[i]? = some p →
        (asking.performances 1 [] ['y'] askingSession)[i]? = some p' → p.directive = p'.directive →
        (p.exchanges asking 1).map Exchange.told = (p'.exchanges asking 1).map Exchange.told := by
  have hload : ∀ line ∈ [['x'], ['y']], load asking.files line = .ok (askingText line) := by
    decide +kernel
  have hparse : ∀ line ∈ [['x'], ['y']],
      parse (askingText line) = .ok (askingScript line) := by
    decide +kernel
  have hx : ['x'] ∈ [['x'], ['y']] := by decide
  have hy : ['y'] ∈ [['x'], ['y']] := by decide
  have hsame : List.Forall₂ Directive.SameCommand (askingScript ['x']) (askingScript ['y']) :=
    .cons (.heredoc _ _ _ _ _) (.cons (.plain _) (.cons (.heredoc _ _ _ _ _) .nil))
  obtain ⟨-, -, hplain, hscripts⟩ :=
    scripted_input_isolated (hload _ hx) (hparse _ hx) 1 [] (s := askingSession) rfl
  have htold := (hscripts ['y'] _ _ (hload _ hy) (hparse _ hy)).2 hsame
    (fun d _ => asking_only (·.nests = false) rfl rfl rfl d.text)
    (fun _ d _ _ _ _ => asking_only (· ≠ .flush) (by decide) (by decide) (by decide) d.text)
  exact ⟨hload _ hx, hparse _ hx, rfl, by decide +kernel,
    hplain fun command _ => asking_only (·.byLine = true) rfl rfl rfl command, htold⟩

end Script

end CommandShell
