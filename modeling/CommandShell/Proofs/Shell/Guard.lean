import CommandShell.Proofs.Shell.Depth

/-!
# Evaluating under a guard

A guard says which requests may be made, and in what sessions; under it, an evaluation that makes
another request at whatever depth comes to nothing. So what an evaluation under a guard yields, it
yields with allowed requests alone. An evaluation that never runs the loop anew stays interactive
throughout if it begins so; one that does run it ends without being interactive.
-/

namespace CommandShell

/-- Answers as the answerer does, but gives up on a request that is not allowed. -/
def Answerer.only (answer : Answerer) (allowed : Request → Session → Bool) : Answerer := fun r s =>
  if allowed r s then answer r s else none

/-- The link of answers that leave a session interactive, which found it so. -/
abbrev endingOn (before after : Bool) (alike : Prop) : Prop := after = true → before = true ∧ alike

/-- The link of answers to an interactive session, which leave it so. -/
abbrev startingOn (before after : Bool) (alike : Prop) : Prop :=
  before = true → after = true ∧ alike

theorem linking_endingOn : Linking endingOn where
  refl _ h := ⟨h, trivial⟩
  trans h h' hafter := ⟨(h (h' hafter).1).1, (h (h' hafter).1).2, (h' hafter).2⟩
  mono h h' hafter := (h' hafter).imp_right h

theorem linking_startingOn : Linking startingOn where
  refl _ h := ⟨h, trivial⟩
  trans h h' hbefore := ⟨(h' (h hbefore).1).1, (h hbefore).2, (h' (h hbefore).1).2⟩
  mono h h' hbefore := (h' hbefore).imp_right h

namespace Shell

/-- Answers requests that nest at most `depth` deep and are all allowed. -/
def guarded (shell : Shell) (allowed : Request → Session → Bool) : Nat → Answerer
  | 0 => Answerer.only (shell.serve fun _ _ => none) allowed
  | depth + 1 => Answerer.only (shell.serve (shell.guarded allowed depth)) allowed

/-- At some depth, and with allowed requests alone, the line evaluates to the outcome. -/
def EvaluatesWhile (shell : Shell) (allowed : Request → Session → Bool) (line : Text) (s : Session)
    (outcome : Outcome) (after : Session) : Prop :=
  ∃ depth, shell.evaluateInput (shell.guarded allowed depth) (.line line) s = some (outcome, after)

/-- Any request but the one to run the loop. -/
def unlooped (r : Request) (_ : Session) : Bool := decide (r ≠ .loop)

/-- Any request of a session that is interactive when it is made. -/
def attended (_ : Request) (s : Session) : Bool := s.interactive

variable {shell : Shell} {first second : Answerer} {s after : Session} {outcome : Outcome}

theorem loop_interactive {answer : Answerer} (h : shell.loop answer s = some after) :
    after.interactive = false := by
  rw [loop, Option.map_eq_some_iff] at h
  obtain ⟨mid, -, rfl⟩ := h
  rfl

theorem serve_follows_unlooped (h : first.Follows endingOn second) :
    (shell.serve first).Follows endingOn (Answerer.only (shell.serve second) unlooped) := by
  intro r s after a hreply
  by_cases hloop : r = .loop
  · -- a loop that ended left the session, so there is nothing to show
    subst hloop
    rw [serve, Option.map_eq_some_iff] at hreply
    obtain ⟨mid, hmid, hafter⟩ := hreply
    obtain ⟨-, rfl⟩ := Prod.mk.inj hafter
    intro hon
    rw [loop_interactive hmid] at hon
    contradiction
  · have hallowed : unlooped r s = true := decide_eq_true hloop
    rw [Answerer.only, if_pos hallowed]
    exact serve_follows linking_endingOn h hloop hreply

theorem unlooped_follows_attended (h : first.Follows startingOn second) :
    Answerer.Follows startingOn (Answerer.only (shell.serve first) unlooped)
      (Answerer.only (shell.serve second) attended) := by
  intro r s after a hreply hon
  rw [Answerer.only] at hreply
  split at hreply
  · next hloop =>
    have hallowed : attended r s = true := hon
    rw [Answerer.only, if_pos hallowed]
    exact serve_follows linking_startingOn h (of_decide_eq_true hloop) hreply hon
  · contradiction

/-- What leaves the session interactive was answered without running the loop. -/
theorem answer_follows_unlooped (shell : Shell) (depth : Nat) :
    (shell.answer depth).Follows endingOn (shell.guarded unlooped depth) := by
  induction depth with
  | zero => exact serve_follows_unlooped fun h => absurd h (by simp)
  | succ depth ih => exact serve_follows_unlooped ih

/-- Without running the loop, an interactive session makes every request while it is so. -/
theorem guarded_follows_attended (shell : Shell) (depth : Nat) :
    (shell.guarded unlooped depth).Follows startingOn (shell.guarded attended depth) := by
  induction depth with
  | zero => exact unlooped_follows_attended fun h => absurd h (by simp)
  | succ depth ih => exact unlooped_follows_attended ih

theorem Evaluates.unlooped {line : Text} (h : shell.Evaluates line s outcome after)
    (hafter : after.interactive = true) :
    s.interactive = true ∧ shell.EvaluatesWhile unlooped line s outcome after := by
  obtain ⟨depth, hrun⟩ := h
  have hfollows :=
    evaluateInput_follows linking_endingOn (answer_follows_unlooped shell depth) _ hrun
  exact (hfollows hafter).imp_right fun h => ⟨depth, h⟩

theorem EvaluatesWhile.attended {line : Text}
    (h : shell.EvaluatesWhile Shell.unlooped line s outcome after) (hs : s.interactive = true) :
    after.interactive = true ∧ shell.EvaluatesWhile attended line s outcome after := by
  obtain ⟨depth, hrun⟩ := h
  have hfollows :=
    evaluateInput_follows linking_startingOn (guarded_follows_attended shell depth) _ hrun
  exact (hfollows hs).imp_right fun h => ⟨depth, h⟩

end Shell

end CommandShell
