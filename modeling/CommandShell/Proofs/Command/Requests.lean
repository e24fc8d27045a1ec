import CommandShell.Proofs.Shell.Decision

/-!
# What a program may ask for

A program is of a kind if every request that it can come to make is. A program that does not nest
has the session evaluate nothing further: it comes to an end at every depth, and neither the depth
nor the registry has any part in its answers.
-/

namespace CommandShell

/-- Whether the session evaluates further input to answer a request. -/
def Request.nests : Request → Bool
  | .evaluate _ | .perform _ | .loop => true
  | _ => false

/-- What answers the requests of the programs that run to answer a request at a depth. -/
def Shell.below (shell : Shell) : Nat → Answerer
  | 0 => fun _ _ => none
  | depth + 1 => shell.answer depth

/-- Every request that the program can come to make is of the kind. -/
def Program.Only (kind : Request → Prop) : Program α → Prop
  | .done _ => True
  | .fail _ => True
  | .call request next => kind request ∧ ∀ answer, (next answer).Only kind

/-- Every request of the command that the input calls, if it calls one, is of the kind. -/
def Shell.CommandOnly (shell : Shell) (kind : Request → Prop) (input : Input) : Prop :=
  ∀ d tokens, shell.decision input = .call d tokens →
    (d.handler ⟨d.name, tokens, shell.settings⟩).Only kind

/-- Answerers that agree on a kind of requests run the programs of that kind alike. -/
theorem Program.run_congr {kind : Request → Prop} {first second : Answerer} {p : Program α}
    (hp : p.Only kind) (h : ∀ r s, kind r → first r s = second r s) (s : Session) :
    p.run first s = p.run second s := by
  induction p generalizing s with
  | done a => rfl
  | fail f => rfl
  | call request next ih =>
    rw [run, run, h request s hp.1]
    cases second request s with
    | none => rfl
    | some reply => exact ih reply.1 (hp.2 reply.1) reply.2

namespace Shell

variable {shell : Shell} {deeper other : Answerer} {r : Request}

/-- A line calls a command of the kind if all commands are of the kind. -/
theorem commandOnly_of_forall {kind : Request → Prop}
    (h : ∀ d ∈ shell.registry.commands, ∀ i, (d.handler i).Only kind) (line : Text) :
    shell.CommandOnly kind (.line line) := by
  intro d tokens hdecision
  obtain ⟨-, token, -, hrun⟩ := decision_line_eq_call_iff.1 hdecision
  rcases choose_eq_run_iff.1 hrun with hget | ⟨-, name, -, hget⟩
  · exact h d (Registry.get?_eq_some_iff.1 hget).1 _
  · exact h d (Registry.get?_eq_some_iff.1 hget).1 _

theorem answer_eq (shell : Shell) (depth : Nat) :
    shell.answer depth = shell.serve (shell.below depth) := by
  cases depth <;> rfl

theorem answer_echo (shell : Shell) (depth : Nat) (text : Text) (s : Session) :
    shell.answer depth (.echo text) s = some ((), s.print text) := by
  rw [answer_eq]
  rfl

theorem answer_print (shell : Shell) (depth : Nat) (outcome : Outcome) (s : Session) :
    shell.answer depth (.print outcome) s = some (shell.print outcome s) := by
  rw [answer_eq]
  rfl

theorem answer_script (shell : Shell) (depth : Nat) (path : Text) (s : Session) :
    shell.answer depth (.script path) s =
      some (Script.load shell.files path, s.note (.opened path)) := by
  rw [answer_eq]
  rfl

theorem answer_look (shell : Shell) (depth : Nat) (s : Session) :
    shell.answer depth .look s = some (s.view, s) := by
  rw [answer_eq]
  rfl

theorem exists_serve (shell : Shell) (deeper : Answerer) (h : r.nests = false) (s : Session) :
    ∃ a after, shell.serve deeper r s = some (a, after) := by
  cases r with
  | evaluate line => contradiction
  | perform d => contradiction
  | loop => contradiction
  | _ => exact ⟨_, _, rfl⟩

/-- Only nested requests are passed on to what is deeper, and only they look a command up. -/
theorem serve_congr (shell : Shell) (deeper other : Answerer) (h : r.nests = false)
    (registry : Registry) (s : Session) :
    { shell with registry }.serve other r s = shell.serve deeper r s := by
  cases r with
  | evaluate line => contradiction
  | perform d => contradiction
  | loop => contradiction
  | _ => rfl

/-- A program that does not nest comes to an end. -/
theorem exists_run (shell : Shell) (deeper : Answerer) {p : Program α}
    (hp : p.Only (·.nests = false)) (s : Session) :
    ∃ result after, p.run (shell.serve deeper) s = some (result, after) := by
  induction p generalizing s with
  | done a => exact ⟨_, _, rfl⟩
  | fail f => exact ⟨_, _, rfl⟩
  | call request next ih =>
    obtain ⟨a, mid, hserve⟩ := exists_serve shell deeper hp.1 s
    obtain ⟨result, after, hrun⟩ := ih a (hp.2 a) mid
    exact ⟨result, after, by rw [Program.run, hserve]; exact hrun⟩

end Shell

end CommandShell
