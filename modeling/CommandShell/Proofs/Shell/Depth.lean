import CommandShell.Proofs.Shell.Following

/-!
# Depth does not change an answer

A request that is answered at some depth is answered alike at every greater depth, and so is all
that evaluation does by way of such answers. So a line evaluates to at most one outcome, whatever
depth that takes.
-/

namespace CommandShell

/-- What the first answers, the second answers alike. -/
abbrev Answerer.Within (first second : Answerer) : Prop :=
  first.Follows (fun _ _ alike => alike) second

theorem linking_within : Linking fun _ _ alike => alike :=
  ⟨fun _ => trivial, And.intro, fun h => h⟩

variable {first second : Answerer}

namespace Shell

variable {shell : Shell} {s : Session} {given : Outcome × Session}

theorem evaluateInput_within (h : first.Within second) (input : Input)
    (hrun : shell.evaluateInput first input s = some given) :
    shell.evaluateInput second input s = some given :=
  evaluateInput_follows linking_within h input hrun

theorem turn_within (h : first.Within second) {went : Bool × Session}
    (hrun : shell.turn first s = some went) : shell.turn second s = some went := by
  rw [turn] at hrun ⊢
  cases hread : shell.readInput s with
  | mk read heard =>
    cases read with
    | none => rwa [hread] at hrun
    | some line =>
      simp only [hread] at hrun ⊢
      cases hline : shell.evaluateLine first line heard with
      | none =>
        rw [hline] at hrun
        contradiction
      | some evaluated =>
        rw [hline] at hrun
        have hdeeper := evaluateInput_within h (.line line) hline
        rwa [show shell.evaluateLine second line _ = _ from hdeeper]

theorem turns_within (h : first.Within second) {budget : Nat} {after : Session}
    (hrun : shell.turns first budget s = some after) :
    shell.turns second budget s = some after := by
  induction budget generalizing s with
  | zero => contradiction
  | succ budget ih =>
    rw [turns] at hrun ⊢
    cases hturn : shell.turn first s with
    | none =>
      rw [hturn] at hrun
      contradiction
    | some went =>
      obtain ⟨more, mid⟩ := went
      rw [hturn] at hrun
      rw [turn_within h hturn]
      cases more with
      | false => exact hrun
      | true => exact ih hrun

theorem loop_within (h : first.Within second) {after : Session}
    (hrun : shell.loop first s = some after) : shell.loop second s = some after := by
  rw [loop, Option.map_eq_some_iff] at hrun ⊢
  obtain ⟨mid, hturns, hafter⟩ := hrun
  exact ⟨mid, turns_within h hturns, hafter⟩

theorem serve_within (h : first.Within second) :
    (shell.serve first).Within (shell.serve second) := by
  intro r s after a hreply
  by_cases hloop : r = .loop
  · subst hloop
    rw [serve, Option.map_eq_some_iff] at hreply ⊢
    obtain ⟨mid, hturns, hmid⟩ := hreply
    exact ⟨mid, loop_within h hturns, hmid⟩
  · exact serve_follows linking_within h hloop hreply

theorem answer_within_succ (shell : Shell) (depth : Nat) :
    (shell.answer depth).Within (shell.answer (depth + 1)) := by
  induction depth with
  | zero => exact serve_within fun h => absurd h (by simp)
  | succ depth ih => exact serve_within ih

theorem answer_within (shell : Shell) {depth more : Nat} (hle : depth ≤ more) :
    (shell.answer depth).Within (shell.answer more) := by
  induction hle with
  | refl => exact fun h => h
  | step _ ih => exact fun h => answer_within_succ shell _ (ih h)

theorem below_within (shell : Shell) (depth : Nat) :
    (shell.below depth).Within (shell.answer depth) := by
  cases depth with
  | zero => exact fun h => absurd h (by simp [below])
  | succ depth => exact answer_within_succ shell depth

/-! ## Evaluating at whatever depth it takes -/

/-- At some depth the line evaluates to the outcome and leaves the session after it. -/
def Evaluates (shell : Shell) (line : Text) (s : Session) (outcome : Outcome)
    (after : Session) : Prop :=
  ∃ depth, shell.evaluate depth (.line line) s = some (outcome, after)

theorem evaluate_mono {depth more : Nat} (hle : depth ≤ more) {input : Input}
    (h : shell.evaluate depth input s = some given) : shell.evaluate more input s = some given :=
  evaluateInput_within (answer_within shell hle) input h

theorem Evaluates.unique {line : Text} {outcome other : Outcome} {after later : Session}
    (h : shell.Evaluates line s outcome after) (h' : shell.Evaluates line s other later) :
    outcome = other ∧ after = later := by
  obtain ⟨depth, hrun⟩ := h
  obtain ⟨depth', hrun'⟩ := h'
  have hdeep := evaluate_mono (Nat.le_max_left depth depth') hrun
  have hdeep' := evaluate_mono (Nat.le_max_right depth depth') hrun'
  rw [hdeep', Option.some.injEq, Prod.mk.injEq] at hdeep
  exact ⟨hdeep.1.symm, hdeep.2.symm⟩

end Shell

end CommandShell
