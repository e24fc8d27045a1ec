import CommandShell.Shell.Evaluation

/-!
# Running a program

How a run goes through the parts that a program is put together from.
-/

namespace CommandShell

/-- Goes on with a finished run; one that gave up or failed stays as it is. -/
def Run.andThen (run : Option (Except Failure α × Session))
    (next : α → Session → Option (Except Failure β × Session)) :
    Option (Except Failure β × Session) :=
  match run with
  | none => none
  | some (.ok a, s) => next a s
  | some (.error f, s) => some (.error f, s)

namespace Program

variable {answer : Answerer}

theorem run_bind (p : Program α) (next : α → Program β) (s : Session) :
    (p.bind next).run answer s = Run.andThen (p.run answer s) fun a => (next a).run answer := by
  induction p generalizing s with
  | done a => rfl
  | fail f => rfl
  | call request rest ih =>
    rw [bind, run, run]
    cases answer request s with
    | none => rfl
    | some reply => exact ih reply.1 reply.2

theorem run_request_bind (r : Request) (next : r.Answer → Program α) (s : Session) :
    ((request r).bind next).run answer s =
      (answer r s).bind fun reply => (next reply.1).run answer reply.2 := by
  rw [request, bind, run]
  cases answer r s with
  | none => rfl
  | some reply => rfl

@[simp] theorem run_ofExcept (result : Except Failure α) (s : Session) :
    (ofExcept result).run answer s = some (result, s) := by
  cases result <;> rfl

/-- What a program recovers from is its failure, in the session that it failed in. -/
theorem run_recover (p : Program α) (handler : Failure → Program α) (s : Session) :
    (p.recover handler).run answer s = (p.run answer s).bind fun ended =>
      match ended with
      | (.ok a, after) => some (.ok a, after)
      | (.error f, after) => (handler f).run answer after := by
  induction p generalizing s with
  | done a => rfl
  | fail f => rfl
  | call request rest ih =>
    rw [recover, run, run]
    cases answer request s with
    | none => rfl
    | some reply => exact ih reply.1 reply.2

theorem run_forEach_cons (item : β) (items : List β) (body : β → Program Unit) (s : Session) :
    (forEach (item :: items) body).run answer s =
      Run.andThen ((body item).run answer s) fun _ => (forEach items body).run answer := by
  rw [forEach, run_bind]

end Program

end CommandShell
