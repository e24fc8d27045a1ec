import CommandShell.Proofs.History
import CommandShell.Proofs.Shell.Evolution

/-!
# Reachable sessions

A session is reachable if inputs and programs lead to it, also in the middle of a command. In every
reachable session the history is one of admitted lines. Evaluating only ever adds to the journal.
-/

namespace CommandShell

/--
The states that a session of the shell can be in. The surroundings choose the terminal at any time;
`within` is the state that a command has come to when it has made some of its requests.
-/
inductive Shell.Reachable (shell : Shell) : Session → Prop where
  | start (t : Terminal) : Reachable shell (.start shell.settings t)
  | surroundings {s : Session} (t : Terminal) :
      Reachable shell s → Reachable shell { s with terminal := t }
  | evaluated {s after : Session} {depth : Nat} {input : Input} {outcome : Outcome} :
      Reachable shell s → shell.evaluate depth input s = some (outcome, after) →
      Reachable shell after
  | executed {s after : Session} {depth : Nat} {p : Program Unit} {result : Except Failure Unit} :
      Reachable shell s → shell.execute depth p s = some (result, after) → Reachable shell after
  | within {s after : Session} {input : Input} {d : Descriptor} {tokens : List Text} {depth : Nat}
      {p : Program Unit} {result : Except Failure Unit} :
      Reachable shell s → shell.decision input = .call d tokens →
      shell.execute depth p ((shell.taken input s).note (.ran d.name tokens)) =
        some (result, after) →
      Reachable shell after

namespace Session.Evolves

theorem journal_grows {s after : Session} (h : s.Evolves after) : s.journal <+: after.journal := by
  induction h with
  | refl s => exact List.prefix_rfl
  | trans _ _ ih₁ ih₂ => exact ih₁.trans ih₂
  | noted s e => exact List.prefix_append _ _
  | scripted _ _ ih => exact ih
  | _ => exact List.prefix_rfl

theorem admitted {s after : Session} (h : s.Evolves after) (hs : s.history.Admitted) :
    after.history.Admitted := by
  induction h with
  | trans _ _ ih₁ ih₂ => exact ih₂ (ih₁ hs)
  | recorded s line => exact hs.record line
  | flushed s => exact .flush s.history
  | scripted _ _ ih => exact ih hs
  | _ => exact hs

end Session.Evolves

theorem Shell.taken_journal (shell : Shell) (input : Input) (s : Session) :
    (shell.taken input s).journal = s.journal := by
  cases input with
  | line line =>
    rw [taken]
    split
    · rfl
    · split <;> rfl
  | tokens tokens => cases tokens <;> rfl

/-- An evaluation that calls a command puts the call into the journal, before all that it runs. -/
theorem Shell.journal_of_evaluate {shell : Shell} {depth : Nat} {input : Input}
    {s after : Session} {outcome : Outcome}
    (h : shell.evaluate depth input s = some (outcome, after)) :
    shell.decision input = .answer outcome ∧ after.journal = s.journal ∨
      ∃ d tokens own, shell.decision input = .call d tokens ∧
        after.journal = s.journal ++ .ran d.name tokens :: own := by
  rw [evaluate, evaluateInput_eq] at h
  cases hdecision : shell.decision input with
  | answer given =>
    rw [hdecision] at h
    obtain ⟨rfl, rfl⟩ := Prod.mk.inj (Option.some.inj h)
    exact Or.inl ⟨rfl, taken_journal shell input s⟩
  | call d tokens =>
    rw [hdecision] at h
    obtain ⟨own, hown⟩ := (invoke_evolves_noted (answer_evolving shell depth) h).journal_grows
    refine Or.inr ⟨d, tokens, own, rfl, ?_⟩
    rw [← hown, Session.note, taken_journal, List.append_assoc, List.singleton_append]

/-- What holds at the start, in new surroundings and after every evolution holds when reachable. -/
theorem Shell.Reachable.of_evolves {shell : Shell} {s : Session} (h : shell.Reachable s)
    (holds : Session → Prop) (start : ∀ t, holds (.start shell.settings t))
    (surroundings : ∀ (s : Session) (t : Terminal), holds s → holds { s with terminal := t })
    (evolves : ∀ {s after : Session}, s.Evolves after → holds s → holds after) : holds s := by
  induction h with
  | start t => exact start t
  | surroundings t _ ih => exact surroundings _ t ih
  | evaluated _ hrun ih => exact evolves (Shell.evaluate_evolves hrun) ih
  | executed _ hrun ih => exact evolves (Shell.execute_evolves hrun) ih
  | @within s _ input d tokens _ _ _ _ _ hrun ih =>
    have htaken := Shell.taken_evolves shell input s
    have hnoted := htaken.trans (.noted _ (.ran d.name tokens))
    exact evolves (hnoted.trans (Shell.execute_evolves hrun)) ih

theorem Shell.Reachable.admitted {shell : Shell} {s : Session} (h : shell.Reachable s) :
    s.history.Admitted :=
  h.of_evolves (·.history.Admitted) (fun _ => History.admitted_empty _) (fun _ _ hs => hs)
    fun hevolves hs => hevolves.admitted hs

end CommandShell
