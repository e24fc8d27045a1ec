import CommandShell.Proofs.Command.LineReads
import CommandShell.Proofs.Script.Replay

/-!
# The performances of a script

Among the exchanges of a script that is replayed are those in which its directives are performed.
They follow the script from its beginning: each directive is performed in the session that the one
before it left, but for what was printed between. The exchanges of a performance are those in which
performing its directive unfolds, and no others.
-/

namespace CommandShell

/-- A directive that was performed, with the sessions before and after it. -/
structure Performance where
  directive : Directive
  before : Session
  outcome : Outcome
  after : Session

/-- The performance that an exchange is, if it is one. -/
def Exchange.performance? : Exchange → Option Performance
  | ⟨.perform directive, before, outcome, after⟩ => some ⟨directive, before, outcome, after⟩
  | _ => none

namespace Shell

/-- The performances in a run of the script at a path. -/
def performances (shell : Shell) (depth : Nat) (lead path : Text) (s : Session) :
    List Performance :=
  ((Script.replay lead path).exchanges (shell.answer depth) s).filterMap Exchange.performance?

/-- The exchanges of the command that a line calls. -/
def lineExchanges (shell : Shell) (answer : Answerer) (line : Text) (s : Session) :
    List Exchange :=
  match shell.decision (.line line) with
  | .answer _ => []
  | .call d tokens => (d.handler ⟨d.name, tokens, shell.settings⟩).exchanges answer
      ((shell.taken (.line line) s).note (.ran d.name tokens))

/-- The exchanges of the command that a directive calls. -/
def directiveExchanges (shell : Shell) (answer : Answerer) (d : Directive) (s : Session) :
    List Exchange :=
  match d with
  | .plain text => shell.lineExchanges answer text s
  | .heredoc text _ lines =>
    match s.terminal.install lines .screen with
    | .error _ => []
    | .ok (_, terminal) => shell.lineExchanges answer text { s with terminal }

/-- Evaluating the line comes to the outcome, with these exchanges of the command that it calls. -/
inductive LineUnfolds (shell : Shell) (answer : Answerer) (line : Text) (s : Session) :
    List Exchange → Outcome → Session → Prop where
  | answered {outcome : Outcome} : shell.decision (.line line) = .answer outcome →
      LineUnfolds shell answer line s [] outcome (shell.taken (.line line) s)
  | called {d : Descriptor} {tokens : List Text} {es : List Exchange}
      {result : Except Failure Value} {after : Session} :
      shell.decision (.line line) = .call d tokens →
      (d.handler ⟨d.name, tokens, shell.settings⟩).Unfolds answer
        ((shell.taken (.line line) s).note (.ran d.name tokens)) es result after →
      LineUnfolds shell answer line s es (shell.concluded d.name result) after

/-- Evaluating the directive comes to the outcome, with these exchanges of the command it calls. -/
inductive DirectiveUnfolds (shell : Shell) (answer : Answerer) (s : Session) :
    Directive → List Exchange → Outcome → Session → Prop where
  | plain {text : Text} {es : List Exchange} {outcome : Outcome} {after : Session} :
      shell.LineUnfolds answer text s es outcome after →
      DirectiveUnfolds shell answer s (.plain text) es outcome after
  | refused {text marker : Text} {lines : List Text} {f : Failure} :
      s.terminal.install lines .screen = .error f →
      DirectiveUnfolds shell answer s (.heredoc text marker lines) []
        (.failed (shell.report text f)) s
  | given {text marker : Text} {lines : List Text} {i : Installation} {terminal : Terminal}
      {es : List Exchange} {outcome : Outcome} {after : Session} :
      s.terminal.install lines .screen = .ok (i, terminal) →
      shell.LineUnfolds answer text { s with terminal } es outcome after →
      DirectiveUnfolds shell answer s (.heredoc text marker lines) es outcome
        { after with terminal := after.terminal.remove i }

variable {shell : Shell} {answer : Answerer} {s after : Session} {outcome : Outcome}
  {es : List Exchange}

theorem lineUnfolds_iff {line : Text} :
    shell.LineUnfolds answer line s es outcome after ↔
      shell.evaluateLine answer line s = some (outcome, after) ∧
        es = shell.lineExchanges answer line s := by
  rw [evaluateLine_eq, lineExchanges]
  constructor
  · intro h
    cases h with
    | answered hdecision =>
      rw [hdecision]
      exact ⟨rfl, rfl⟩
    | called hdecision hunfolds =>
      obtain ⟨hrun, hes⟩ := Program.unfolds_iff.1 hunfolds
      rw [hdecision, carryOut, invoke_eq, hrun]
      exact ⟨rfl, hes⟩
  · rintro ⟨h, rfl⟩
    cases hdecision : shell.decision (.line line) with
    | answer given =>
      rw [hdecision] at h
      obtain ⟨rfl, rfl⟩ := Prod.mk.inj (Option.some.inj h)
      exact .answered hdecision
    | call d tokens =>
      rw [hdecision, carryOut, invoke_eq, Option.map_eq_some_iff] at h
      obtain ⟨⟨result, mid⟩, hrun, hended⟩ := h
      obtain ⟨rfl, rfl⟩ := Prod.mk.inj hended
      exact .called hdecision (Program.unfolds_iff.2 ⟨hrun, rfl⟩)

/-- What performing a directive comes to, and the exchanges in it, are what it unfolds to. -/
theorem directiveUnfolds_iff {d : Directive} :
    shell.DirectiveUnfolds answer s d es outcome after ↔
      shell.performWith answer d s = some (outcome, after) ∧
        es = shell.directiveExchanges answer d s := by
  constructor
  · intro h
    cases h with
    | plain hline => exact lineUnfolds_iff.1 hline
    | refused hinstall =>
      rw [performWith, directiveExchanges, hinstall]
      exact ⟨rfl, rfl⟩
    | given hinstall hline =>
      obtain ⟨heval, hes⟩ := lineUnfolds_iff.1 hline
      rw [performWith, directiveExchanges, hinstall]
      simp only [heval, true_and]
      exact hes
  · rintro ⟨h, rfl⟩
    cases d with
    | plain text => exact .plain (lineUnfolds_iff.2 ⟨h, rfl⟩)
    | heredoc text marker lines =>
      rw [performWith] at h
      rw [directiveExchanges]
      cases hinstall : s.terminal.install lines .screen with
      | error f =>
        rw [hinstall] at h
        obtain ⟨rfl, rfl⟩ := Prod.mk.inj (Option.some.inj h)
        exact .refused hinstall
      | ok installed =>
        obtain ⟨i, terminal⟩ := installed
        simp only [hinstall] at h
        cases hline : shell.evaluateLine answer text { s with terminal } with
        | none =>
          rw [hline] at h
          contradiction
        | some evaluated =>
          obtain ⟨given, mid⟩ := evaluated
          rw [hline] at h
          obtain ⟨rfl, rfl⟩ := Prod.mk.inj (Option.some.inj h)
          exact .given hinstall (lineUnfolds_iff.2 ⟨hline, rfl⟩)

end Shell

/-- The exchanges of the command that was called in a performance. -/
def Performance.exchanges (shell : Shell) (depth : Nat) (p : Performance) : List Exchange :=
  shell.directiveExchanges (shell.below depth) p.directive p.before

namespace Shell

/--
Directives are performed in the session, from the first on. What is performed may end before the
directives do.
-/
inductive Performs (shell : Shell) (depth : Nat) (lead : Text) :
    List Directive → Session → List Performance → Prop where
  | stop (ds : List Directive) (s : Session) : Performs shell depth lead ds s []
  | cons {d : Directive} {ds : List Directive} {ps : List Performance} {outcome : Outcome}
      {s mid : Session} :
      shell.answer depth (.perform d) (s.shown ([] :: d.echo lead)) = some (outcome, mid) →
      Performs shell depth lead ds (shell.print outcome mid).2 ps →
      Performs shell depth lead (d :: ds) s (⟨d, s.shown ([] :: d.echo lead), outcome, mid⟩ :: ps)

theorem Performs.isPrefix {shell : Shell} {depth : Nat} {lead : Text} {ds : List Directive}
    {s : Session} {ps : List Performance} (h : shell.Performs depth lead ds s ps) :
    ps.map (·.directive) <+: ds := by
  induction h with
  | stop ds s => exact List.nil_prefix
  | cons _ _ ih => exact List.cons_prefix_cons.2 ⟨rfl, ih⟩

end Shell

namespace Script

open Program Shell

variable {shell : Shell} {depth : Nat} {lead : Text}

theorem performances_echoes (lines : List Text) (s : Session) :
    ((forEach lines fun line => request (.echo line)).exchanges (shell.answer depth) s).filterMap
      Exchange.performance? = [] := by
  induction lines generalizing s with
  | nil => rfl
  | cons line lines ih =>
    rw [forEach, exchanges_request_bind, answer_echo]
    exact ih (s.print line)

theorem performances_replayDirective (d : Directive) (s : Session) :
    ((replayDirective lead d).exchanges (shell.answer depth) s).filterMap Exchange.performance? =
      (shell.answer depth (.perform d) (s.shown ([] :: d.echo lead))).toList.map fun performed =>
        ⟨d, s.shown ([] :: d.echo lead), performed.1, performed.2⟩ := by
  change (((request (.echo [])).bind fun _ =>
    (forEach (d.echo lead) fun line => request (.echo line)).bind fun _ =>
      (request (.perform d)).bind fun outcome =>
        (request (.print outcome)).bind fun printed =>
          ofExcept printed).exchanges _ _).filterMap _ = _
  rw [exchanges_request_bind, answer_echo]
  simp only
  rw [List.filterMap_cons_none rfl, exchanges_bind, run_echoes, List.filterMap_append,
    performances_echoes, List.nil_append]
  change (((request (.perform d)).bind fun outcome =>
    (request (.print outcome)).bind fun printed => ofExcept printed).exchanges _
      (s.shown ([] :: d.echo lead))).filterMap _ = _
  rw [exchanges_request_bind]
  cases shell.answer depth (.perform d) (s.shown ([] :: d.echo lead)) with
  | none => rfl
  | some performed =>
    obtain ⟨outcome, mid⟩ := performed
    have hprinted : ((request (.print outcome)).bind fun printed => ofExcept printed).exchanges
        (shell.answer depth) mid =
          [⟨.print outcome, mid, (shell.print outcome mid).1, (shell.print outcome mid).2⟩] := by
      rw [exchanges_request_bind, answer_print]
      exact congrArg (_ :: ·) (exchanges_ofExcept _ _)
    change List.filterMap _ (_ :: ((request (.print outcome)).bind fun printed =>
      ofExcept printed).exchanges (shell.answer depth) mid) = _
    rw [hprinted]
    rfl

theorem performances_cons (d : Directive) (ds : List Directive) (s : Session) :
    ((forEach (d :: ds) (replayDirective lead)).exchanges (shell.answer depth) s).filterMap
        Exchange.performance? =
      match shell.answer depth (.perform d) (s.shown ([] :: d.echo lead)) with
      | none => []
      | some (outcome, mid) =>
        ⟨d, s.shown ([] :: d.echo lead), outcome, mid⟩ ::
          match shell.print outcome mid with
          | (.ok _, printed) =>
            ((forEach ds (replayDirective lead)).exchanges (shell.answer depth) printed).filterMap
              Exchange.performance?
          | (.error _, _) => [] := by
  rw [forEach, exchanges_bind, List.filterMap_append, performances_replayDirective,
    run_replayDirective]
  cases shell.answer depth (.perform d) (s.shown ([] :: d.echo lead)) with
  | none => rfl
  | some performed =>
    obtain ⟨outcome, mid⟩ := performed
    simp only [Option.toList_some, List.map_cons, List.map_nil, Option.map_some,
      List.singleton_append]
    cases shell.print outcome mid with
    | mk printing printed => cases printing <;> rfl

theorem performs_forEach (ds : List Directive) (s : Session) :
    shell.Performs depth lead ds s (((forEach ds (replayDirective lead)).exchanges
      (shell.answer depth) s).filterMap Exchange.performance?) := by
  induction ds generalizing s with
  | nil => exact .stop [] s
  | cons d ds ih =>
    rw [performances_cons]
    cases hperform : shell.answer depth (.perform d) (s.shown ([] :: d.echo lead)) with
    | none => exact .stop _ s
    | some performed =>
      obtain ⟨outcome, mid⟩ := performed
      apply Performs.cons hperform
      cases hprint : shell.print outcome mid with
      | mk printing printed =>
        cases printing with
        | error f => exact .stop ds _
        | ok _ => exact ih printed

/-- A run of a script performs its directives from the first on. -/
theorem performs_performances (depth : Nat) (lead : Text) {path text : Text} {ds : List Directive}
    (hload : load shell.files path = .ok text) (hparse : parse text = .ok ds) (s : Session) :
    shell.Performs depth lead ds (s.note (.opened path))
      (shell.performances depth lead path s) := by
  have hexchanges : (replay lead path).exchanges (shell.answer depth) s =
      ⟨.script path, s, load shell.files path, s.note (.opened path)⟩ ::
        (forEach ds (replayDirective lead)).exchanges (shell.answer depth)
          (s.note (.opened path)) := by
    change ((request (.script path)).bind fun read => (ofExcept read).bind fun text =>
      (ofExcept ((parse text).mapError Unclosed.failure)).bind fun directives =>
        forEach directives (replayDirective lead)).exchanges _ _ = _
    rw [exchanges_request_bind, answer_script, hload]
    change _ :: ((ofExcept ((parse text).mapError Unclosed.failure)).bind _).exchanges _ _ = _
    rw [hparse]
    rfl
  rw [performances, hexchanges]
  exact performs_forEach ds (s.note (.opened path))

end Script

end CommandShell
