import CommandShell.Proofs.Command.Program
import CommandShell.Proofs.Command.Requests

/-!
# What is asked and answered in a run

The exchanges of a run are the requests that its program made, in order, with the sessions before
and after each and what was answered. Main statement: a run that comes to an end is these exchanges
one after another, and no others.
-/

namespace CommandShell

/-- A request that was made, and what was answered. -/
structure Exchange where
  request : Request
  before : Session
  answer : request.Answer
  after : Session

namespace Exchange

/-- The request with its answer, apart from the sessions. -/
def told (e : Exchange) : (r : Request) × r.Answer := ⟨e.request, e.answer⟩

end Exchange

namespace Program

/-- The exchanges of a run, up to its end or to where it gave up. -/
def exchanges (answer : Answerer) : Program α → Session → List Exchange
  | .done _, _ => []
  | .fail _, _ => []
  | .call request next, s =>
    match answer request s with
    | none => []
    | some (a, mid) => ⟨request, s, a, mid⟩ :: (next a).exchanges answer mid

/--
The program, begun in the session, makes these exchanges one after another and comes to the result,
in the session beside it.
-/
inductive Unfolds (answer : Answerer) :
    Program α → Session → List Exchange → Except Failure α → Session → Prop where
  | done (a : α) (s : Session) : Unfolds answer (.done a) s [] (.ok a) s
  | fail (f : Failure) (s : Session) : Unfolds answer (.fail f) s [] (.error f) s
  | call {request : Request} {next : request.Answer → Program α} {s mid after : Session}
      {a : request.Answer} {es : List Exchange} {result : Except Failure α} :
      answer request s = some (a, mid) → Unfolds answer (next a) mid es result after →
      Unfolds answer (.call request next) s (⟨request, s, a, mid⟩ :: es) result after

variable {answer : Answerer} {p : Program α} {s after : Session} {result : Except Failure α}
  {es : List Exchange}

/-- What a run comes to, and what was exchanged in it, are what the program unfolds to. -/
theorem unfolds_iff :
    p.Unfolds answer s es result after ↔
      p.run answer s = some (result, after) ∧ es = p.exchanges answer s := by
  constructor
  · intro h
    induction h with
    | done a s => exact ⟨rfl, rfl⟩
    | fail f s => exact ⟨rfl, rfl⟩
    | call hreply _ ih =>
      obtain ⟨hrun, rfl⟩ := ih
      rw [run, exchanges, hreply]
      exact ⟨hrun, rfl⟩
  · rintro ⟨hrun, rfl⟩
    induction p generalizing s with
    | done a =>
      obtain ⟨rfl, rfl⟩ := Prod.mk.inj (Option.some.inj hrun)
      exact .done a s
    | fail f =>
      obtain ⟨rfl, rfl⟩ := Prod.mk.inj (Option.some.inj hrun)
      exact .fail f s
    | call request next ih =>
      rw [run] at hrun
      rw [exchanges]
      cases hreply : answer request s with
      | none =>
        rw [hreply] at hrun
        contradiction
      | some reply =>
        obtain ⟨a, mid⟩ := reply
        rw [hreply] at hrun
        exact .call hreply (ih a hrun)

theorem exchanges_request_bind (r : Request) (next : r.Answer → Program α) (s : Session) :
    ((request r).bind next).exchanges answer s =
      match answer r s with
      | none => []
      | some (a, mid) => ⟨r, s, a, mid⟩ :: (next a).exchanges answer mid := by
  rw [request, bind, exchanges]
  rfl

theorem exchanges_bind (p : Program α) (next : α → Program β) (s : Session) :
    (p.bind next).exchanges answer s = p.exchanges answer s ++
      match p.run answer s with
      | some (.ok a, mid) => (next a).exchanges answer mid
      | _ => [] := by
  induction p generalizing s with
  | done a => rfl
  | fail f => rfl
  | call request rest ih =>
    rw [bind, exchanges, exchanges, run]
    cases answer request s with
    | none => rfl
    | some reply => simp only [ih, List.cons_append]

@[simp] theorem exchanges_ofExcept (result : Except Failure α) (s : Session) :
    (ofExcept result).exchanges answer s = [] := by
  cases result <;> rfl

end Program

end CommandShell
