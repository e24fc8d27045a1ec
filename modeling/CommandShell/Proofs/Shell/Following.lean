import CommandShell.Proofs.Command.Requests
import CommandShell.Proofs.Shell.Printing

/-!
# Evaluating with another answerer

When whatever one answerer answers, another one answers alike, evaluation with the first is
evaluation with the second. That may hold only of sessions that are interactive before, or after,
an answer. A link says how these two hang together with the other answer being the same; what is
linked request by request is linked over a whole evaluation.
-/

namespace CommandShell

/-- A link that a stretch without requests satisfies, and two linked stretches after each other. -/
structure Linking (link : Bool → Bool → Prop → Prop) : Prop where
  refl : ∀ on, link on on True
  trans : ∀ {before mid after : Bool} {alike alike' : Prop},
    link before mid alike → link mid after alike' → link before after (alike ∧ alike')
  mono : ∀ {before after : Bool} {alike alike' : Prop},
    (alike → alike') → link before after alike → link before after alike'

/-- Each answer of the first answerer is linked with the second answering alike. -/
def Answerer.Follows (link : Bool → Bool → Prop → Prop) (first second : Answerer) : Prop :=
  ∀ {r : Request} {s after : Session} {a : r.Answer}, first r s = some (a, after) →
    link s.interactive after.interactive (second r s = some (a, after))

variable {link : Bool → Bool → Prop → Prop} {first second : Answerer}

theorem Linking.of_eq (hlink : Linking link) {before after : Bool} {alike : Prop}
    (hinteractive : after = before) (h : alike) : link before after alike := by
  rw [hinteractive]
  exact hlink.mono (fun _ => h) (hlink.refl before)

theorem Program.run_follows (hlink : Linking link) (h : first.Follows link second)
    {p : Program α} {s after : Session} {result : Except Failure α}
    (hrun : p.run first s = some (result, after)) :
    link s.interactive after.interactive (p.run second s = some (result, after)) := by
  induction p generalizing s with
  | done a =>
    obtain ⟨rfl, rfl⟩ := Prod.mk.inj (Option.some.inj hrun)
    exact hlink.of_eq rfl rfl
  | fail f =>
    obtain ⟨rfl, rfl⟩ := Prod.mk.inj (Option.some.inj hrun)
    exact hlink.of_eq rfl rfl
  | call request next ih =>
    rw [run] at hrun
    cases hreply : first request s with
    | none =>
      rw [hreply] at hrun
      contradiction
    | some reply =>
      obtain ⟨a, mid⟩ := reply
      rw [hreply] at hrun
      refine hlink.mono ?_ (hlink.trans (h hreply) (ih a hrun))
      rintro ⟨hother, hrest⟩
      rw [run, hother]
      exact hrest

namespace Shell

variable {shell : Shell} {s after : Session} {outcome : Outcome}

theorem taken_interactive (shell : Shell) (input : Input) (s : Session) :
    (shell.taken input s).interactive = s.interactive := by
  cases input with
  | line line =>
    rw [taken]
    split
    · rfl
    · split <;> rfl
  | tokens tokens => cases tokens <;> rfl

theorem taken_terminal (shell : Shell) (input : Input) (s : Session) :
    (shell.taken input s).terminal = s.terminal := by
  cases input with
  | line line =>
    rw [taken]
    split
    · rfl
    · split <;> rfl
  | tokens tokens => cases tokens <;> rfl

theorem invoke_follows (hlink : Linking link) (h : first.Follows link second) {d : Descriptor}
    {tokens : List Text} (hrun : shell.invoke first d tokens s = some (outcome, after)) :
    link s.interactive after.interactive
      (shell.invoke second d tokens s = some (outcome, after)) := by
  obtain ⟨result, hended⟩ := exists_run_of_invoke hrun
  have hfollows := Program.run_follows hlink h hended
  refine hlink.mono ?_ hfollows
  intro hother
  rw [invoke, hended] at hrun
  rw [invoke, hother]
  exact hrun

theorem evaluateInput_follows (hlink : Linking link) (h : first.Follows link second)
    (input : Input) (hrun : shell.evaluateInput first input s = some (outcome, after)) :
    link s.interactive after.interactive
      (shell.evaluateInput second input s = some (outcome, after)) := by
  rw [evaluateInput_eq] at hrun
  rw [evaluateInput_eq, ← taken_interactive shell input s]
  cases hdecision : shell.decision input with
  | answer given =>
    rw [hdecision] at hrun
    obtain ⟨rfl, rfl⟩ := Prod.mk.inj (Option.some.inj hrun)
    exact hlink.of_eq rfl rfl
  | call d tokens =>
    rw [hdecision] at hrun
    exact invoke_follows hlink h hrun

theorem evaluateLine_follows (hlink : Linking link) (h : first.Follows link second) {line : Text}
    (hrun : shell.evaluateLine first line s = some (outcome, after)) :
    link s.interactive after.interactive
      (shell.evaluateLine second line s = some (outcome, after)) :=
  evaluateInput_follows hlink h (.line line) hrun

theorem performWith_follows (hlink : Linking link) (h : first.Follows link second)
    {d : Directive} (hrun : shell.performWith first d s = some (outcome, after)) :
    link s.interactive after.interactive
      (shell.performWith second d s = some (outcome, after)) := by
  cases d with
  | plain text => exact evaluateLine_follows hlink h hrun
  | heredoc text marker lines =>
    rw [performWith] at hrun
    cases hinstall : s.terminal.install lines .screen with
    | error f =>
      rw [hinstall] at hrun
      refine hlink.of_eq ?_ (by rw [performWith, hinstall]; exact hrun)
      exact congrArg (·.2.interactive) (Option.some.inj hrun).symm
    | ok installed =>
      obtain ⟨installation, terminal⟩ := installed
      simp only [hinstall] at hrun
      cases hline : shell.evaluateLine first text { s with terminal } with
      | none =>
        rw [hline] at hrun
        contradiction
      | some evaluated =>
        obtain ⟨given, mid⟩ := evaluated
        rw [hline] at hrun
        obtain ⟨rfl, rfl⟩ := Prod.mk.inj (Option.some.inj hrun)
        have hfollows := evaluateLine_follows hlink h hline
        refine hlink.mono ?_ hfollows
        intro hother
        simp only [performWith, hinstall, hother]

/-- Printing and reading do not make a session interactive, nor end that it is. -/
theorem serve_interactive (shell : Shell) {deeper : Answerer} {r : Request} {a : r.Answer}
    (hflat : r.nests = false) (h : shell.serve deeper r s = some (a, after)) :
    after.interactive = s.interactive := by
  cases r with
  | evaluate line => contradiction
  | perform d => contradiction
  | loop => contradiction
  | print outcome =>
    obtain ⟨written, hprint⟩ := print_withScreen shell outcome s
    rw [serve, hprint] at h
    exact congrArg (·.2.interactive) (Option.some.inj h).symm
  | _ => exact congrArg (·.2.interactive) (Option.some.inj h).symm

theorem serve_follows (hlink : Linking link) (h : first.Follows link second) {r : Request}
    {a : r.Answer} (hloop : r ≠ .loop) (hreply : shell.serve first r s = some (a, after)) :
    link s.interactive after.interactive (shell.serve second r s = some (a, after)) := by
  cases r with
  | evaluate line => exact evaluateLine_follows hlink h hreply
  | perform d => exact performWith_follows hlink h hreply
  | loop => exact absurd rfl hloop
  | _ => exact hlink.of_eq (serve_interactive shell rfl hreply) hreply

end Shell

end CommandShell
