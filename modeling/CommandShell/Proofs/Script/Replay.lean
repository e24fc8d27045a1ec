import CommandShell.Command.Builtin
import CommandShell.Proofs.Command.Program
import CommandShell.Proofs.Command.Requests
import CommandShell.Proofs.Shell.Printing

/-!
# What replaying a script performs

Each directive of a script is shown, performed once and printed, in order. Whatever performing it
comes to is an outcome and disturbs no other directive; only a formatter that fails on the outcome
ends the script before its end. Main statement: this is the exact condition.
-/

namespace CommandShell

namespace Shell

/--
Directives are performed one after another: each is shown, performed to an outcome, and its outcome
is printed, whether or not that succeeds.
-/
inductive Replays (shell : Shell) (depth : Nat) (lead : Text) :
    List Directive → List Outcome → Session → Session → Prop where
  | nil (s : Session) : Replays shell depth lead [] [] s s
  | cons {d : Directive} {ds : List Directive} {outcome : Outcome} {outcomes : List Outcome}
      {s mid after : Session} :
      shell.answer depth (.perform d) (s.shown ([] :: d.echo lead)) = some (outcome, mid) →
      Replays shell depth lead ds outcomes (shell.print outcome mid).2 after →
      Replays shell depth lead (d :: ds) (outcome :: outcomes) s after

theorem Replays.length_eq {shell : Shell} {depth : Nat} {lead : Text} {ds : List Directive}
    {outcomes : List Outcome} {s after : Session}
    (h : shell.Replays depth lead ds outcomes s after) : outcomes.length = ds.length := by
  induction h with
  | nil s => rfl
  | cons _ _ ih => rw [List.length_cons, List.length_cons, ih]

end Shell

namespace Script

open Program Shell

variable {shell : Shell} {depth : Nat} {lead : Text}

theorem run_echoes (shell : Shell) (depth : Nat) (lines : List Text) (s : Session) :
    (forEach lines fun line => request (.echo line)).run (shell.answer depth) s =
      some (.ok (), s.shown lines) := by
  induction lines generalizing s with
  | nil => rfl
  | cons line lines ih =>
    rw [run_forEach_cons, request, run, answer_echo]
    exact ih (s.print line)

/-- One directive: it is shown, performed and printed. -/
theorem run_replayDirective (d : Directive) (s : Session) :
    (replayDirective lead d).run (shell.answer depth) s =
      (shell.answer depth (.perform d) (s.shown ([] :: d.echo lead))).map fun performed =>
        shell.print performed.1 performed.2 := by
  change ((request (.echo [])).bind fun _ =>
    (forEach (d.echo lead) fun line => request (.echo line)).bind fun _ =>
      (request (.perform d)).bind fun outcome =>
        (request (.print outcome)).bind fun printed => ofExcept printed).run _ _ = _
  rw [run_request_bind, answer_echo, Option.bind_some, run_bind, run_echoes]
  change ((request (.perform d)).bind fun outcome =>
    (request (.print outcome)).bind fun printed => ofExcept printed).run _
      (s.shown ([] :: d.echo lead)) = _
  rw [run_request_bind]
  cases shell.answer depth (.perform d) (s.shown ([] :: d.echo lead)) with
  | none => rfl
  | some performed =>
    rw [Option.bind_some, run_request_bind, answer_print, Option.bind_some, run_ofExcept]
    rfl

theorem run_replay {path text : Text} {ds : List Directive}
    (hload : load shell.files path = .ok text) (hparse : parse text = .ok ds) (s : Session) :
    shell.execute depth (replay lead path) s =
      (forEach ds (replayDirective lead)).run (shell.answer depth) (s.note (.opened path)) := by
  rw [execute]
  change ((request (.script path)).bind fun read => (ofExcept read).bind fun text =>
    (ofExcept ((parse text).mapError Unclosed.failure)).bind fun directives =>
      forEach directives (replayDirective lead)).run _ _ = _
  rw [run_request_bind, answer_script, Option.bind_some, hload]
  change ((ofExcept ((parse text).mapError Unclosed.failure)).bind _).run _ _ = _
  rw [hparse]
  rfl

/-! ## The directives that a run performs -/

theorem forM_cons_eq (outcome : Outcome) (outcomes : List Outcome) :
    (outcome :: outcomes).forM shell.printing =
      (shell.printing outcome).bind fun _ => outcomes.forM shell.printing := rfl

theorem forM_cons_of_ok {outcome : Outcome} (h : shell.printing outcome = .ok ())
    (outcomes : List Outcome) :
    (outcome :: outcomes).forM shell.printing = outcomes.forM shell.printing := by
  rw [forM_cons_eq, h]
  rfl

theorem forM_of_forall_ok {outcomes : List Outcome}
    (h : ∀ o ∈ outcomes, shell.printing o = .ok ()) : outcomes.forM shell.printing = .ok () := by
  induction outcomes with
  | nil => rfl
  | cons outcome outcomes ih =>
    rw [List.forall_mem_cons] at h
    rw [forM_cons_of_ok h.1, ih h.2]

/-- A finished run performed the directives up to its end or to the first failure to print. -/
theorem replays_of_run {ds : List Directive} {s after : Session} {result : Except Failure Unit}
    (hrun : (forEach ds (replayDirective lead)).run (shell.answer depth) s =
      some (result, after)) :
    ∃ outcomes, shell.Replays depth lead (ds.take outcomes.length) outcomes s after ∧
      result = outcomes.forM shell.printing ∧
      (∀ o ∈ outcomes.dropLast, shell.printing o = .ok ()) ∧
      (outcomes.length = ds.length ∨ result ≠ .ok ()) := by
  induction ds generalizing s with
  | nil =>
    obtain ⟨rfl, rfl⟩ := Prod.mk.inj (Option.some.inj hrun)
    exact ⟨[], .nil s, rfl, by simp, Or.inl rfl⟩
  | cons d ds ih =>
    rw [run_forEach_cons, run_replayDirective] at hrun
    cases hperform : shell.answer depth (.perform d) (s.shown ([] :: d.echo lead)) with
    | none =>
      rw [hperform] at hrun
      cases hrun
    | some performed =>
      obtain ⟨outcome, mid⟩ := performed
      obtain ⟨texts, hprint⟩ := print_eq shell outcome mid
      rw [hperform, Option.map_some] at hrun
      change Run.andThen (some (shell.print outcome mid)) _ = _ at hrun
      rw [hprint] at hrun
      have hafter : (shell.print outcome mid).2 = mid.shown texts := congrArg Prod.snd hprint
      cases hprinting : shell.printing outcome with
      | error f =>
        rw [hprinting] at hrun
        obtain ⟨rfl, rfl⟩ := Prod.mk.inj (Option.some.inj hrun)
        refine ⟨[outcome], .cons hperform (hafter ▸ .nil _), ?_, by simp, Or.inr (by simp)⟩
        rw [forM_cons_eq, hprinting]
        rfl
      | ok _ =>
        rw [hprinting] at hrun
        obtain ⟨outcomes, hreplays, hresult, hprinted, hend⟩ := ih hrun
        refine ⟨outcome :: outcomes, .cons hperform (hafter ▸ hreplays), ?_, ?_, ?_⟩
        · rw [forM_cons_of_ok hprinting, hresult]
        · cases outcomes with
          | nil => simp
          | cons next outcomes =>
            rw [List.dropLast_cons_cons, List.forall_mem_cons]
            exact ⟨hprinting, hprinted⟩
        · exact hend.imp (congrArg Nat.succ) id

/-- Directives of which all but the last can be printed are all performed. -/
theorem run_of_replays {ds : List Directive} {outcomes : List Outcome} {s after : Session}
    (h : shell.Replays depth lead ds outcomes s after)
    (hprinted : ∀ o ∈ outcomes.dropLast, shell.printing o = .ok ()) :
    (forEach ds (replayDirective lead)).run (shell.answer depth) s =
      some (outcomes.forM shell.printing, after) := by
  induction h with
  | nil s => rfl
  | @cons d ds outcome outcomes s mid after hperform htail ih =>
    obtain ⟨texts, hprint⟩ := print_eq shell outcome mid
    have hafter : (shell.print outcome mid).2 = mid.shown texts := congrArg Prod.snd hprint
    rw [run_forEach_cons, run_replayDirective, hperform, Option.map_some]
    change Run.andThen (some (shell.print outcome mid)) _ = _
    rw [hprint]
    cases outcomes with
    | nil =>
      cases htail
      rw [hafter, forM_cons_eq]
      cases shell.printing outcome <;> rfl
    | cons next outcomes =>
      rw [List.dropLast_cons_cons, List.forall_mem_cons] at hprinted
      rw [forM_cons_of_ok hprinted.1, hprinted.1, ← hafter]
      exact ih hprinted.2

/-- A run that is not to end before its directives do must print every outcome but the last. -/
theorem length_eq_iff_of_printed {outcomes : List Outcome} {count : Nat}
    (hlength : outcomes.length ≤ count)
    (hprinted : ∀ o ∈ outcomes.dropLast, shell.printing o = .ok ())
    (hend : outcomes.length = count ∨ outcomes.forM shell.printing ≠ .ok ()) :
    outcomes.length = count ↔ ∀ o ∈ outcomes.take (count - 1), shell.printing o = .ok () := by
  constructor
  · rintro rfl
    rwa [← List.dropLast_eq_take]
  · intro hall
    by_cases hfull : outcomes.length = count
    · exact hfull
    · have htake : outcomes.take (count - 1) = outcomes := List.take_of_length_le (by omega)
      rw [htake] at hall
      exact absurd (forM_of_forall_ok hall) (hend.resolve_left hfull)

/--
A script whose text can be read and parsed is shown and performed directive by directive, each
once and in order, up to its end exactly if every outcome but the last can be printed. An outcome
that cannot be printed ends it there; such an outcome is a result that a formatter fails on.
Printing changes the screen only, and in the interactive loop a failure to print ends nothing.
-/
theorem performed_to_end_iff {path text : Text} {ds : List Directive}
    (hload : load shell.files path = .ok text) (hparse : parse text = .ok ds) (depth : Nat)
    (lead : Text) (s : Session) :
    (∀ result after, shell.execute depth (replay lead path) s = some (result, after) →
      ∃ outcomes,
        shell.Replays depth lead (ds.take outcomes.length) outcomes (s.note (.opened path))
          after ∧
        result = outcomes.forM shell.printing ∧
        (∀ o ∈ outcomes.dropLast, shell.printing o = .ok ()) ∧
        (outcomes.length = ds.length ↔
          ∀ o ∈ outcomes.take (ds.length - 1), shell.printing o = .ok ())) ∧
    (∀ outcomes after, shell.Replays depth lead ds outcomes (s.note (.opened path)) after →
      (∀ o ∈ outcomes.dropLast, shell.printing o = .ok ()) →
      shell.execute depth (replay lead path) s = some (outcomes.forM shell.printing, after)) ∧
    (∀ outcome f, shell.printing outcome = .error f ↔
      ∃ value, outcome = .result value ∧ value.render ≠ [] ∧
        Display.isHelp value.render = false ∧
        Display.format shell.formatters value.render = .error f) ∧
    (∀ outcome mid, ∃ written,
      shell.print outcome mid = (shell.printing outcome, mid.withScreen written)) ∧
    ∀ answer current heard mid line outcome, shell.readInput current = (some line, heard) →
      shell.evaluateLine answer line heard = some (outcome, mid) →
      ∃ written, shell.turn answer current = some (!outcome.isQuit, mid.withScreen written) := by
  refine ⟨?_, ?_, fun _ _ => printing_eq_error_iff, print_withScreen shell,
    fun _ _ _ _ _ _ => turn_of_evaluateLine⟩
  · intro result after hrun
    rw [run_replay hload hparse] at hrun
    obtain ⟨outcomes, hreplays, rfl, hprinted, hend⟩ := replays_of_run hrun
    have hlength := hreplays.length_eq
    rw [List.length_take] at hlength
    exact ⟨outcomes, hreplays, rfl, hprinted,
      length_eq_iff_of_printed (by omega) hprinted hend⟩
  · intro outcomes after hreplays hprinted
    rw [run_replay hload hparse]
    exact run_of_replays hreplays hprinted

/-- The built-in commands, a formatter that always fails, and the same two lines in every file. -/
def refusing : Shell :=
  { registry := Builtin.registry
    settings := .default
    formatters := [fun _ => .error (.raised "RuntimeError".toList "fmt".toList)]
    files := fun _ => .ok ("dbg.echo a\ndbg.echo b\n".toList.map fun c => c.toNat.toUInt8) }

def refusingSession : Session := .start refusing.settings (.ofTyped [])

def twoEchoes : List Directive := [.plain "dbg.echo a".toList, .plain "dbg.echo b".toList]

set_option maxRecDepth 4000 in
theorem refused_outcome_ends_script :
    load refusing.files ['s'] = .ok "dbg.echo a\ndbg.echo b\n".toList ∧
      parse "dbg.echo a\ndbg.echo b\n".toList = .ok twoEchoes ∧
      ∃ result after outcomes,
        refusing.execute 0 (replay [] ['s']) refusingSession = some (result, after) ∧
        refusing.Replays 0 [] (twoEchoes.take outcomes.length) outcomes
          (refusingSession.note (.opened ['s'])) after ∧
        outcomes.length ≠ twoEchoes.length := by
  have hload : load refusing.files ['s'] = .ok "dbg.echo a\ndbg.echo b\n".toList := by rfl
  have hparse : parse "dbg.echo a\ndbg.echo b\n".toList = .ok twoEchoes := by rfl
  have hfinished : (refusing.execute 0 (replay [] ['s']) refusingSession).isSome = true := by
    decide +kernel
  obtain ⟨⟨result, after⟩, hrun⟩ := Option.isSome_iff_exists.1 hfinished
  obtain ⟨outcomes, hreplays, -, -, hiff⟩ :=
    (performed_to_end_iff hload hparse 0 [] refusingSession).1 result after hrun
  refine ⟨hload, hparse, result, after, outcomes, hrun, hreplays, ?_⟩
  intro hlength
  have hprinted := hiff.1 hlength
  have hfirst : ((refusing.answer 0 (.perform (.plain "dbg.echo a".toList))
      ((refusingSession.note (.opened ['s'])).shown [[], "dbg.echo a".toList])).map (·.1)) =
        some (.result (.ofText ['a'])) := by decide +kernel
  rw [hlength] at hreplays
  cases hreplays with
  | cons hperform hrest =>
    change refusing.answer 0 _ (Session.shown _ [[], "dbg.echo a".toList]) = _ at hperform
    rw [hperform] at hfirst
    obtain rfl : _ = Outcome.result (.ofText ['a']) := Option.some.inj hfirst
    cases hprinted _ List.mem_cons_self

end Script

end CommandShell
