import CommandShell.Input.Responder

/-!
# A responder and its callers

A responder works for several callers at once. It has a worker, which takes what stands in a queue
in order: a request is answered, and an end mark ends the worker. A caller looks whether the
responder was stopped; if not, it puts its request into the queue and waits for the reply. A stopper
looks, too; if it is the first, it raises the flag that the callers look at, puts an end mark into
the queue and waits until the worker has ended. All of them take their steps in any order. What each
of them does in one step is an action, and an action that no one can take is refused.
-/

namespace CommandShell

namespace Mailbox

/-- What stands in the queue. -/
inductive Item (ι : Type) where
  | request (caller : ι) (request : InputRequest)
  | endMark
  deriving DecidableEq, Repr

/-- Where the worker is. -/
inductive Worker (ι : Type) where
  | unstarted
  | idle
  | serving (caller : ι) (request : InputRequest)
  | exited
  deriving DecidableEq, Repr

/-- Where a caller is; one that waits may find its reply there. -/
inductive Caller where
  | away
  | admitted (request : InputRequest)
  | waiting (request : InputRequest) (reply : Option (Option Text))
  | returned (reply : Option Text)
  deriving DecidableEq, Repr

/-- Where a stopper is. -/
inductive Stopper where
  | away
  | admitted
  | raised
  | joining
  | returned
  deriving DecidableEq, Repr

/-- One step of the worker, of a caller or of a stopper. -/
inductive Action (ι κ : Type) where
  | start
  | take
  | answer
  | call (caller : ι) (request : InputRequest)
  | put (caller : ι)
  | receive (caller : ι)
  | stop (stopper : κ)
  | raise (stopper : κ)
  | mark (stopper : κ)
  | join (stopper : κ)
  deriving DecidableEq, Repr

end Mailbox

/-- A responder with its queue, its worker, its callers and its stoppers. -/
structure Mailbox (ι κ : Type) where
  responder : Responder
  stopped : Bool
  queue : List (Mailbox.Item ι)
  worker : Mailbox.Worker ι
  caller : ι → Mailbox.Caller
  stopper : κ → Mailbox.Stopper

namespace Mailbox

variable {ι κ : Type}

/-- A responder that no one has turned to yet. -/
def fresh (responder : Responder) : Mailbox ι κ :=
  ⟨responder, false, [], .unstarted, fun _ => .away, fun _ => .away⟩

/-- The mailbox with one more item in its queue. -/
def enqueue (m : Mailbox ι κ) (item : Item ι) : Mailbox ι κ :=
  { m with queue := m.queue ++ [item] }

/-- The mailbox with one caller elsewhere. -/
def setCaller [DecidableEq ι] (m : Mailbox ι κ) (i : ι) (c : Caller) : Mailbox ι κ :=
  { m with caller := fun j => if j = i then c else m.caller j }

/-- The mailbox with one stopper elsewhere. -/
def setStopper [DecidableEq κ] (m : Mailbox ι κ) (k : κ) (c : Stopper) : Mailbox ι κ :=
  { m with stopper := fun l => if l = k then c else m.stopper l }

variable [DecidableEq ι] [DecidableEq κ]

/-- The mailbox after an action, unless this is refused. -/
def act (m : Mailbox ι κ) : Action ι κ → Option (Mailbox ι κ)
  | .start =>
    match m.worker with
    | .unstarted => some { m with worker := .idle }
    | _ => none
  | .take =>
    match m.worker, m.queue with
    | .idle, .request i r :: rest => some { m with worker := .serving i r, queue := rest }
    | .idle, .endMark :: rest => some { m with worker := .exited, queue := rest }
    | _, _ => none
  | .answer =>
    match m.worker with
    | .serving i r =>
      let (reply, responder) := m.responder.handle r
      some { m.setCaller i (.waiting r (some reply)) with worker := .idle, responder }
    | _ => none
  | .call i r =>
    match m.caller i with
    | .away | .returned _ =>
      some (m.setCaller i (if m.stopped then .returned none else .admitted r))
    | _ => none
  | .put i =>
    match m.caller i with
    | .admitted r => some ((m.setCaller i (.waiting r none)).enqueue (.request i r))
    | _ => none
  | .receive i =>
    match m.caller i with
    | .waiting _ (some reply) => some (m.setCaller i (.returned reply))
    | _ => none
  | .stop k =>
    match m.stopper k with
    | .away | .returned => some (m.setStopper k (if m.stopped then .returned else .admitted))
    | _ => none
  | .raise k =>
    match m.stopper k with
    | .admitted => some { m.setStopper k .raised with stopped := true }
    | _ => none
  | .mark k =>
    match m.stopper k with
    | .raised => some ((m.setStopper k .joining).enqueue .endMark)
    | _ => none
  | .join k =>
    match m.stopper k, m.worker with
    | .joining, .unstarted | .joining, .exited => some (m.setStopper k .returned)
    | _, _ => none

/-- The mailbox after some actions, unless one of them is refused. -/
def run (m : Mailbox ι κ) (actions : List (Action ι κ)) : Option (Mailbox ι κ) :=
  actions.foldlM act m

end Mailbox

end CommandShell
