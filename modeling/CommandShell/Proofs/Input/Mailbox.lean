import Mathlib.Data.List.Induction
import Mathlib.Data.List.Nodup
import CommandShell.Input.Mailbox
import CommandShell.Proofs.Input.Responder

/-!
# Calls that are never answered

Callers that come one after another are answered as the responder itself answers them. But a caller
that has found the responder running may put its request into the queue behind the end mark, and the
worker never comes to it. Main statement: these are the callers that wait for ever, and each of them
stood between its look at the flag and its request when the flag was raised.
-/

namespace CommandShell.Mailbox

variable {ι κ : Type}

/-- The request that the worker is about to answer. -/
def Worker.current : Worker ι → List (ι × InputRequest)
  | .serving i r => [(i, r)]
  | .unstarted | .idle | .exited => []

/-- The request of an item, with its caller. -/
def Item.request? : Item ι → Option (ι × InputRequest)
  | .request i r => some (i, r)
  | .endMark => none

/-- The requests that were put and not answered, in order. -/
def pending (m : Mailbox ι κ) : List (ι × InputRequest) :=
  m.worker.current ++ m.queue.filterMap Item.request?

/-- What stands behind the first end mark. -/
def behindMark : List (Item ι) → List (Item ι)
  | [] => []
  | .request _ _ :: rest => behindMark rest
  | .endMark :: rest => rest

/-- The items of a queue that a worker does not come to. -/
def Worker.leaves : Worker ι → List (Item ι) → List (Item ι)
  | .exited, items => items
  | .unstarted, items | .idle, items | .serving _ _, items => behindMark items

/-- The items that the worker of the mailbox does not come to. -/
def leftOver (m : Mailbox ι κ) : List (Item ι) :=
  m.worker.leaves m.queue

/-- The caller waits for a reply that was not sent. -/
def Waits (m : Mailbox ι κ) (i : ι) : Prop :=
  ∃ r, m.caller i = .waiting r none

/-- A request of the caller is one that the worker does not come to. -/
def Lost (m : Mailbox ι κ) (i : ι) : Prop :=
  ∃ r, .request i r ∈ m.leftOver

/-- The worker has ended, or is to end before it comes to what is put into the queue now. -/
def Closed (m : Mailbox ι κ) : Prop :=
  .endMark ∈ m.queue ∨ m.worker = .exited

/-- The requests that are not answered are those that callers wait with, one of each. -/
structure Kept (m : Mailbox ι κ) : Prop where
  nodup : (m.pending.map (·.1)).Nodup
  waiting : ∀ i r, (i, r) ∈ m.pending ↔ m.caller i = .waiting r none

/-- Only behind a raised flag is an end mark put into the queue. -/
structure Flagged (m : Mailbox ι κ) : Prop where
  raised : ∀ k, m.stopper k = .raised → m.stopped = true
  closed : m.Closed → m.stopped = true

/-- The caller is in no call. -/
def Caller.Free (c : Caller) : Prop :=
  c = .away ∨ ∃ reply, c = .returned reply

/-- The stopper is not about to stop the responder. -/
def Stopper.Free (c : Stopper) : Prop :=
  c = .away ∨ c = .returned

/-- The responder as the next caller finds it. -/
def found (m : Mailbox ι κ) : Responder :=
  if m.stopped then m.responder.stop else m.responder

/-- Everyone has come back, and the worker waits or has ended. -/
structure Quiet (m : Mailbox ι κ) : Prop where
  callers : ∀ i, (m.caller i).Free
  stoppers : ∀ k, (m.stopper k).Free
  queue : m.queue = []
  worker : m.worker = if m.stopped then .exited else .idle

variable {m after : Mailbox ι κ} {a : Action ι κ} {i : ι} {r : InputRequest}

/-! ## The queue -/

theorem mem_requests_iff {items : List (Item ι)} :
    (i, r) ∈ items.filterMap Item.request? ↔ .request i r ∈ items := by
  rw [List.mem_filterMap]
  constructor
  · rintro ⟨item, hitem, hrequest⟩
    cases item with
    | request j s =>
      obtain ⟨rfl, rfl⟩ := Prod.mk.inj (Option.some.inj hrequest)
      exact hitem
    | endMark => contradiction
  · exact fun hitem => ⟨_, hitem, rfl⟩

theorem behindMark_append {items : List (Item ι)} (h : .endMark ∈ items) (more : List (Item ι)) :
    behindMark (items ++ more) = behindMark items ++ more := by
  induction items with
  | nil => contradiction
  | cons item items ih =>
    cases item with
    | request j s => exact ih (by simpa using h)
    | endMark => rfl

theorem behindMark_eq_nil {items : List (Item ι)} (h : .endMark ∉ items) :
    behindMark items = [] := by
  induction items with
  | nil => rfl
  | cons item items ih =>
    cases item with
    | request j s => exact ih fun hmem => h (List.mem_cons_of_mem _ hmem)
    | endMark => exact absurd List.mem_cons_self h

theorem behindMark_concat {items : List (Item ι)} (h : .endMark ∉ items) (item : Item ι) :
    behindMark (items ++ [item]) = [] := by
  induction items with
  | nil => cases item <;> rfl
  | cons first items ih =>
    cases first with
    | request j s => exact ih fun hmem => h (List.mem_cons_of_mem _ hmem)
    | endMark => exact absurd List.mem_cons_self h

theorem mem_of_mem_behindMark {items : List (Item ι)} {item : Item ι}
    (h : item ∈ behindMark items) : item ∈ items := by
  induction items with
  | nil => contradiction
  | cons first items ih =>
    cases first with
    | request j s => exact List.mem_cons_of_mem _ (ih h)
    | endMark => exact List.mem_cons_of_mem _ h

theorem mem_queue_of_mem_leftOver {item : Item ι} (h : item ∈ m.leftOver) : item ∈ m.queue := by
  rw [leftOver] at h
  cases hworker : m.worker with
  | exited => rwa [hworker] at h
  | _ =>
    rw [hworker] at h
    exact mem_of_mem_behindMark h

theorem leftOver_enqueue_of_closed (h : m.Closed) (item : Item ι) :
    (m.enqueue item).leftOver = m.leftOver ++ [item] := by
  show m.worker.leaves (m.queue ++ [item]) = m.worker.leaves m.queue ++ [item]
  rcases h with hmark | hworker
  · cases m.worker with
    | exited => rfl
    | _ => exact behindMark_append hmark _
  · rw [hworker]
    rfl

theorem leftOver_enqueue_of_not_closed (h : ¬ m.Closed) (item : Item ι) :
    (m.enqueue item).leftOver = [] := by
  have hmark : .endMark ∉ m.queue := fun hmem => h (Or.inl hmem)
  show m.worker.leaves (m.queue ++ [item]) = []
  cases hworker : m.worker with
  | exited => exact absurd (Or.inr hworker) h
  | _ => exact behindMark_concat hmark item

theorem leftOver_of_not_closed (h : ¬ m.Closed) : m.leftOver = [] := by
  have hmark : .endMark ∉ m.queue := fun hmem => h (Or.inl hmem)
  rw [leftOver]
  cases hworker : m.worker with
  | exited => exact absurd (Or.inr hworker) h
  | _ => exact behindMark_eq_nil hmark

theorem pending_enqueue_request (m : Mailbox ι κ) (i : ι) (r : InputRequest) :
    (m.enqueue (.request i r)).pending = m.pending ++ [(i, r)] := by
  simp [pending, enqueue, Item.request?]

/-- Nothing but the callers and the pending requests has a part in this. -/
theorem Kept.congr (hm : m.Kept) (hcaller : after.caller = m.caller)
    (hpending : after.pending = m.pending) : after.Kept where
  nodup := hpending ▸ hm.nodup
  waiting i r := by
    rw [hcaller, hpending]
    exact hm.waiting i r

theorem kept_fresh (responder : Responder) : (fresh responder : Mailbox ι κ).Kept where
  nodup := List.nodup_nil
  waiting i r := by simp [pending, fresh, Worker.current]

theorem flagged_fresh (responder : Responder) : (fresh responder : Mailbox ι κ).Flagged where
  raised k h := by simp [fresh] at h
  closed h := by simp [Closed, fresh] at h

theorem Lost.waits (hm : m.Kept) (h : m.Lost i) : m.Waits i := by
  obtain ⟨r, hr⟩ := h
  have hqueue := mem_requests_iff.2 (mem_queue_of_mem_leftOver hr)
  exact ⟨r, (hm.waiting i r).1 (List.mem_append_right _ hqueue)⟩

/-- Once the worker has ended, the callers that wait are those whose requests are lost. -/
theorem waits_iff_lost (hm : m.Kept) (hexited : m.worker = .exited) : m.Waits i ↔ m.Lost i := by
  constructor
  · rintro ⟨r, hr⟩
    have hpending := (hm.waiting i r).2 hr
    rw [pending, hexited] at hpending
    refine ⟨r, ?_⟩
    rw [leftOver, hexited]
    exact mem_requests_iff.1 hpending
  · exact Lost.waits hm

/-! ## Callers -/

section Callers

variable [DecidableEq ι]

@[simp] theorem setCaller_same (m : Mailbox ι κ) (i : ι) (c : Caller) :
    (m.setCaller i c).caller i = c :=
  if_pos rfl

theorem setCaller_other (m : Mailbox ι κ) {i j : ι} (c : Caller) (h : j ≠ i) :
    (m.setCaller i c).caller j = m.caller j :=
  if_neg h

theorem caller_of_setCaller {j : ι} {c d : Caller} (h : (m.setCaller j c).caller i = d)
    (hne : c ≠ d) : m.caller i = d := by
  by_cases hi : i = j
  · subst hi
    rw [setCaller_same] at h
    exact absurd h hne
  · rwa [setCaller_other m c hi] at h

/-- A caller that does not wait may go elsewhere without waiting. -/
theorem Kept.setCaller (hm : m.Kept) {c : Caller} (hbefore : ∀ r, m.caller i ≠ .waiting r none)
    (hafter : ∀ r, c ≠ .waiting r none) : (m.setCaller i c).Kept where
  nodup := hm.nodup
  waiting j r := by
    by_cases hj : j = i
    · subst hj
      rw [setCaller_same]
      exact ⟨fun hmem => absurd ((hm.waiting j r).1 hmem) (hbefore r), fun h => absurd h (hafter r)⟩
    · rw [setCaller_other m c hj]
      exact hm.waiting j r

theorem Kept.put (hm : m.Kept) (h : m.caller i = .admitted r) :
    ((m.setCaller i (.waiting r none)).enqueue (.request i r)).Kept := by
  have hnew : ∀ s, (i, s) ∉ m.pending := by
    intro s hmem
    rw [hm.waiting, h] at hmem
    contradiction
  constructor
  · rw [pending_enqueue_request, List.map_append, List.nodup_append]
    refine ⟨hm.nodup, by simp, ?_⟩
    intro j hj l hl
    obtain rfl := List.mem_singleton.1 hl
    obtain ⟨⟨j, s⟩, hmem, rfl⟩ := List.mem_map.1 hj
    rintro rfl
    exact hnew s hmem
  · intro j s
    rw [pending_enqueue_request, List.mem_append, List.mem_singleton]
    show (j, s) ∈ m.pending ∨ _ ↔ (m.setCaller i (.waiting r none)).caller j = _
    by_cases hj : j = i
    · subst hj
      rw [setCaller_same]
      simp [hnew s, eq_comm]
    · rw [setCaller_other m _ hj, ← hm.waiting]
      simp [hj]

theorem Kept.answer (hm : m.Kept) (h : m.worker = .serving i r) (reply : Option Text)
    (responder : Responder) :
    ({ m.setCaller i (.waiting r (some reply)) with worker := .idle, responder } :
      Mailbox ι κ).Kept := by
  have hpending : m.pending = (i, r) :: m.queue.filterMap Item.request? := by
    rw [pending, h]
    rfl
  have hnodup := hm.nodup
  rw [hpending, List.map_cons, List.nodup_cons] at hnodup
  constructor
  · exact hnodup.2
  · intro j s
    show (j, s) ∈ m.queue.filterMap Item.request? ↔
      (m.setCaller i (.waiting r (some reply))).caller j = _
    by_cases hj : j = i
    · subst hj
      rw [setCaller_same]
      have hgone : (j, s) ∉ m.queue.filterMap Item.request? := fun hmem =>
        hnodup.1 (List.mem_map.2 ⟨(j, s), hmem, rfl⟩)
      simp [hgone]
    · rw [setCaller_other m _ hj, ← hm.waiting, hpending]
      simp [hj]

theorem Quiet.setCaller (hm : m.Quiet) (i : ι) (reply : Option Text) :
    (m.setCaller i (.returned reply)).Quiet where
  callers j := by
    by_cases hj : j = i
    · subst hj
      exact Or.inr ⟨reply, setCaller_same m j _⟩
    · rw [setCaller_other m _ hj]
      exact hm.callers j
  stoppers := hm.stoppers
  queue := hm.queue
  worker := hm.worker

end Callers

theorem Quiet.setStopper [DecidableEq κ] (hm : m.Quiet) (k : κ) :
    (m.setStopper k .returned).Quiet where
  callers := hm.callers
  stoppers l := by
    by_cases hl : l = k
    · exact Or.inr (if_pos hl)
    · exact (hm.stoppers l).imp ((if_neg hl).trans ·) ((if_neg hl).trans ·)
  queue := hm.queue
  worker := hm.worker

/-! ## Steps -/

variable [DecidableEq ι] [DecidableEq κ]

/-- What an action finds, and what it leaves. -/
inductive Step (m : Mailbox ι κ) : Action ι κ → Mailbox ι κ → Prop where
  | start (h : m.worker = .unstarted) : Step m .start { m with worker := .idle }
  | takeRequest {i : ι} {r : InputRequest} {rest : List (Item ι)} (h : m.worker = .idle)
      (hqueue : m.queue = .request i r :: rest) :
      Step m .take { m with worker := .serving i r, queue := rest }
  | takeMark {rest : List (Item ι)} (h : m.worker = .idle) (hqueue : m.queue = .endMark :: rest) :
      Step m .take { m with worker := .exited, queue := rest }
  | answer {i : ι} {r : InputRequest} (h : m.worker = .serving i r) :
      Step m .answer { m.setCaller i (.waiting r (some (m.responder.handle r).1)) with
        worker := .idle
        responder := (m.responder.handle r).2 }
  | refused {i : ι} (r : InputRequest) (h : (m.caller i).Free)
      (hstopped : m.stopped = true) : Step m (.call i r) (m.setCaller i (.returned none))
  | admitted {i : ι} (r : InputRequest) (h : (m.caller i).Free)
      (hstopped : m.stopped = false) : Step m (.call i r) (m.setCaller i (.admitted r))
  | put {i : ι} {r : InputRequest} (h : m.caller i = .admitted r) :
      Step m (.put i) ((m.setCaller i (.waiting r none)).enqueue (.request i r))
  | receive {i : ι} {r : InputRequest} {reply : Option Text}
      (h : m.caller i = .waiting r (some reply)) :
      Step m (.receive i) (m.setCaller i (.returned reply))
  | stop {k : κ} (h : (m.stopper k).Free) :
      Step m (.stop k) (m.setStopper k (if m.stopped then .returned else .admitted))
  | raise {k : κ} (h : m.stopper k = .admitted) :
      Step m (.raise k) { m.setStopper k .raised with stopped := true }
  | mark {k : κ} (h : m.stopper k = .raised) :
      Step m (.mark k) ((m.setStopper k .joining).enqueue .endMark)
  | join {k : κ} (h : m.stopper k = .joining)
      (hworker : m.worker = .unstarted ∨ m.worker = .exited) :
      Step m (.join k) (m.setStopper k .returned)

theorem step_of_act (h : m.act a = some after) : Step m a after := by
  cases a with
  | start =>
    rw [act] at h
    split at h
    · next hworker =>
      obtain rfl := Option.some.inj h
      exact .start hworker
    · contradiction
  | take =>
    rw [act] at h
    split at h
    · next hworker hqueue =>
      obtain rfl := Option.some.inj h
      exact .takeRequest hworker hqueue
    · next hworker hqueue =>
      obtain rfl := Option.some.inj h
      exact .takeMark hworker hqueue
    · contradiction
  | answer =>
    rw [act] at h
    split at h
    · next hworker =>
      obtain rfl := Option.some.inj h
      exact .answer hworker
    · contradiction
  | call i r =>
    rw [act] at h
    have hcall : (m.caller i).Free ∧
        m.setCaller i (if m.stopped then .returned none else .admitted r) = after := by
      split at h
      · next hcaller => exact ⟨Or.inl hcaller, Option.some.inj h⟩
      · next hcaller => exact ⟨Or.inr ⟨_, hcaller⟩, Option.some.inj h⟩
      · contradiction
    obtain ⟨hfree, rfl⟩ := hcall
    cases hstopped : m.stopped with
    | true => exact .refused r hfree hstopped
    | false => exact .admitted r hfree hstopped
  | put i =>
    rw [act] at h
    split at h
    · next hcaller =>
      obtain rfl := Option.some.inj h
      exact .put hcaller
    · contradiction
  | receive i =>
    rw [act] at h
    split at h
    · next hcaller =>
      obtain rfl := Option.some.inj h
      exact .receive hcaller
    · contradiction
  | stop k =>
    rw [act] at h
    split at h
    · next hstopper =>
      obtain rfl := Option.some.inj h
      exact .stop (Or.inl hstopper)
    · next hstopper =>
      obtain rfl := Option.some.inj h
      exact .stop (Or.inr hstopper)
    · contradiction
  | raise k =>
    rw [act] at h
    split at h
    · next hstopper =>
      obtain rfl := Option.some.inj h
      exact .raise hstopper
    · contradiction
  | mark k =>
    rw [act] at h
    split at h
    · next hstopper =>
      obtain rfl := Option.some.inj h
      exact .mark hstopper
    · contradiction
  | join k =>
    rw [act] at h
    split at h
    · next hstopper hworker =>
      obtain rfl := Option.some.inj h
      exact .join hstopper (Or.inl hworker)
    · next hstopper hworker =>
      obtain rfl := Option.some.inj h
      exact .join hstopper (Or.inr hworker)
    · contradiction

theorem Kept.step (hm : m.Kept) (h : Step m a after) : after.Kept := by
  cases h with
  | start h => exact hm.congr rfl (by rw [pending, pending, h]; rfl)
  | takeRequest h hqueue => exact hm.congr rfl (by rw [pending, pending, h, hqueue]; rfl)
  | takeMark h hqueue => exact hm.congr rfl (by rw [pending, pending, h, hqueue]; rfl)
  | answer h => exact hm.answer h _ _
  | refused r h _ => exact hm.setCaller (by rcases h with h | ⟨_, h⟩ <;> simp [h]) (by simp)
  | admitted r h _ => exact hm.setCaller (by rcases h with h | ⟨_, h⟩ <;> simp [h]) (by simp)
  | put h => exact hm.put h
  | receive h => exact hm.setCaller (by simp [h]) (by simp)
  | stop h => exact hm.congr rfl rfl
  | raise h => exact hm.congr rfl rfl
  | mark h => exact hm.congr rfl (by simp [pending, enqueue, setStopper, Item.request?])
  | join h _ => exact hm.congr rfl rfl

/-- The queue is closed by an end mark, and by nothing else. -/
theorem closed_step_iff (h : Step m a after) :
    after.Closed ↔ m.Closed ∨ ∃ k, a = .mark k := by
  cases h with
  | start h => simp [Closed, h]
  | takeRequest h hqueue => simp [Closed, h, hqueue]
  | takeMark h hqueue => simp [Closed, hqueue]
  | answer h => simp [Closed, h, Mailbox.setCaller]
  | refused r h _ => simp [Closed, Mailbox.setCaller]
  | admitted r h _ => simp [Closed, Mailbox.setCaller]
  | put h => simp [Closed, Mailbox.setCaller, enqueue]
  | receive h => simp [Closed, Mailbox.setCaller]
  | stop h => simp [Closed, setStopper]
  | raise h => simp [Closed, setStopper]
  | mark h => simp [Closed, setStopper, enqueue]
  | join h _ => simp [Closed, setStopper]

/-- A request is lost when it is put behind an end mark, and at no other time. -/
theorem lost_step_iff (h : Step m a after) : after.Lost i ↔ m.Lost i ∨ a = .put i ∧ m.Closed := by
  -- Only what goes into a closed queue changes what the worker does not come to.
  have hsame : after.leftOver = m.leftOver → a ≠ .put i →
      (after.Lost i ↔ m.Lost i ∨ a = .put i ∧ m.Closed) := by
    intro hleft hput
    simp [Lost, hleft, hput]
  cases h with
  | start h => exact hsame (by rw [leftOver, leftOver, h]; rfl) (by simp)
  | takeRequest h hqueue => exact hsame (by rw [leftOver, leftOver, h, hqueue]; rfl) (by simp)
  | takeMark h hqueue => exact hsame (by rw [leftOver, leftOver, h, hqueue]; rfl) (by simp)
  | answer h => exact hsame (by rw [leftOver, leftOver, h]; rfl) (by simp)
  | refused r h _ => exact hsame rfl (by simp)
  | admitted r h _ => exact hsame rfl (by simp)
  | receive h => exact hsame rfl (by simp)
  | stop h => exact hsame rfl (by simp)
  | raise h => exact hsame rfl (by simp)
  | join h _ => exact hsame rfl (by simp)
  | @put j r h =>
    by_cases hclosed : m.Closed
    · have hleft := leftOver_enqueue_of_closed (m := m.setCaller j (.waiting r none)) hclosed
        (.request j r)
      have hbefore : (m.setCaller j (.waiting r none)).leftOver = m.leftOver := rfl
      simp only [Lost, hleft, hbefore, List.mem_append, List.mem_singleton, exists_or]
      simp [hclosed, eq_comm]
    · have hleft := leftOver_enqueue_of_not_closed (m := m.setCaller j (.waiting r none)) hclosed
        (.request j r)
      simp [Lost, hleft, leftOver_of_not_closed hclosed, hclosed]
  | @mark k h =>
    by_cases hclosed : m.Closed
    · have hleft := leftOver_enqueue_of_closed (m := m.setStopper k .joining) hclosed .endMark
      have hbefore : (m.setStopper k .joining).leftOver = m.leftOver := rfl
      simp [Lost, hleft, hbefore]
    · have hleft := leftOver_enqueue_of_not_closed (m := m.setStopper k .joining) hclosed .endMark
      simp [Lost, hleft, leftOver_of_not_closed hclosed]

theorem stopped_of_step (h : Step m a after) (hstopped : m.stopped = true) :
    after.stopped = true := by
  cases h with
  | raise h => rfl
  | _ => exact hstopped

theorem Flagged.step (hm : m.Flagged) (h : Step m a after) : after.Flagged := by
  constructor
  · intro l hraised
    cases h with
    | raise h => rfl
    | mark h =>
      simp only [enqueue, setStopper] at hraised
      split at hraised
      · contradiction
      · exact hm.raised l hraised
    | stop h =>
      simp only [setStopper] at hraised
      split at hraised
      · split at hraised <;> contradiction
      · exact hm.raised l hraised
    | join h _ =>
      simp only [setStopper] at hraised
      split at hraised
      · contradiction
      · exact hm.raised l hraised
    | _ => exact hm.raised l hraised
  · intro hclosed
    rcases (closed_step_iff h).1 hclosed with hbefore | ⟨k, rfl⟩
    · exact stopped_of_step h (hm.closed hbefore)
    · cases h with
      | mark h => exact hm.raised k h

/-- Behind a raised flag no caller is let in. -/
theorem admitted_of_step (h : Step m a after) (hstopped : m.stopped = true)
    (hcaller : after.caller i = .admitted r) : m.caller i = .admitted r := by
  cases h with
  | answer h => exact caller_of_setCaller hcaller (by simp)
  | refused s h _ => exact caller_of_setCaller hcaller (by simp)
  | admitted s h hclear => exact absurd hstopped (by simp [hclear])
  | put h => exact caller_of_setCaller (m := m) hcaller (by simp)
  | receive h => exact caller_of_setCaller hcaller (by simp)
  | _ => exact hcaller

theorem raise_of_step (h : Step m a after) (hclear : m.stopped = false)
    (hstopped : after.stopped = true) : (∃ k, a = .raise k) ∧ after.caller = m.caller := by
  have hsame : after.stopped = m.stopped → (∃ k, a = .raise k) ∧ after.caller = m.caller := by
    intro heq
    rw [heq, hclear] at hstopped
    contradiction
  cases h with
  | @raise k h => exact ⟨⟨k, rfl⟩, rfl⟩
  | _ => exact hsame rfl

/-! ## Runs -/

theorem run_concat (m : Mailbox ι κ) (actions : List (Action ι κ)) (a : Action ι κ) :
    m.run (actions ++ [a]) = (m.run actions).bind fun mid => mid.act a := by
  rw [run, List.foldlM_append]
  show (m.run actions).bind _ = _
  congr 1
  funext mid
  show (mid.act a).bind _ = _
  cases mid.act a <;> rfl

theorem run_append (m : Mailbox ι κ) (first second : List (Action ι κ)) :
    m.run (first ++ second) = (m.run first).bind fun mid => mid.run second := by
  rw [run, List.foldlM_append]
  rfl

theorem run_cons (m : Mailbox ι κ) (a : Action ι κ) (actions : List (Action ι κ)) :
    m.run (a :: actions) = (m.act a).bind fun mid => mid.run actions := rfl

/-- What holds at first and is kept by every step holds after every run. -/
theorem run_induction (holds : List (Action ι κ) → Mailbox ι κ → Prop) (start : holds [] m)
    (step : ∀ actions mid a after, m.run actions = some mid → holds actions mid →
      Step mid a after → holds (actions ++ [a]) after)
    {actions : List (Action ι κ)} (h : m.run actions = some after) : holds actions after := by
  induction actions using List.reverseRecOn generalizing after with
  | nil =>
    obtain rfl := Option.some.inj h
    exact start
  | append_singleton actions a ih =>
    rw [run_concat, Option.bind_eq_some_iff] at h
    obtain ⟨mid, hmid, hact⟩ := h
    exact step actions mid a after hmid (ih hmid) (step_of_act hact)

/-! ## Calls one after another -/

theorem quiet_start (responder : Responder) :
    ∃ m : Mailbox ι κ, (fresh responder).run [.start] = some m ∧ m.Quiet ∧ m.found = responder :=
  ⟨_, rfl, ⟨fun _ => Or.inl rfl, fun _ => Or.inl rfl, rfl, rfl⟩, rfl⟩

theorem act_call (h : (m.caller i).Free) (r : InputRequest) :
    m.act (.call i r) =
      some (m.setCaller i (if m.stopped then .returned none else .admitted r)) := by
  rcases h with h | ⟨reply, h⟩ <;> simp only [act, h]

theorem act_stop {k : κ} (h : (m.stopper k).Free) :
    m.act (.stop k) = some (m.setStopper k (if m.stopped then .returned else .admitted)) := by
  rcases h with h | h <;> simp only [act, h]

/-- The steps of a call that no one comes between. -/
theorem run_call (h : (m.caller i).Free) (hclear : m.stopped = false) (hqueue : m.queue = [])
    (hworker : m.worker = .idle) (r : InputRequest) :
    m.run [.call i r, .put i, .take, .answer, .receive i] =
      some { m.setCaller i (.returned (m.responder.handle r).1) with
        responder := (m.responder.handle r).2 } := by
  rw [run_cons, act_call h, hclear]
  simp only [setCaller, hqueue, hworker, Bool.false_eq_true, ↓reduceIte, run, List.foldlM_cons, act,
    enqueue, List.foldlM_nil, Option.pure_def, Option.bind_eq_bind, Option.bind_fun_some,
    Option.bind_some, List.nil_append, Option.some.injEq, mk.injEq, and_true, true_and]
  funext j
  by_cases hj : j = i <;> simp only [hj, if_true, if_false]

theorem run_stop {k : κ} (h : (m.stopper k).Free) (hclear : m.stopped = false)
    (hqueue : m.queue = []) (hworker : m.worker = .idle) :
    m.run [.stop k, .raise k, .mark k, .take, .join k] =
      some { m.setStopper k .returned with stopped := true, worker := .exited } := by
  rw [run_cons, act_stop h, hclear]
  simp only [setStopper, hqueue, hworker, Bool.false_eq_true, ↓reduceIte, run, List.foldlM_cons,
    act, enqueue, List.foldlM_nil, Option.pure_def, Option.bind_eq_bind, Option.bind_fun_some,
    Option.bind_some, List.nil_append, Option.some.injEq, mk.injEq, true_and]
  funext l
  by_cases hl : l = k <;> simp only [hl, if_true, if_false]

/-- A call that no one disturbs is answered as the responder itself answers it. -/
theorem Quiet.call (hm : m.Quiet) (i : ι) (r : InputRequest) :
    ∃ actions after, m.run actions = some after ∧ after.Quiet ∧
      after.caller i = .returned (m.found.handle r).1 ∧ after.found = (m.found.handle r).2 := by
  cases hstopped : m.stopped with
  | true =>
    have hfound : m.found = m.responder.stop := by rw [found, hstopped]; rfl
    have hact : m.run [.call i r] = some (m.setCaller i (.returned none)) := by
      rw [run_cons, act_call (hm.callers i), hstopped]
      rfl
    refine ⟨_, _, hact, hm.setCaller i none, ?_, ?_⟩
    · rw [setCaller_same, hfound]
      rfl
    · rw [hfound]
      exact hfound
  | false =>
    have hfound : m.found = m.responder := by rw [found, hstopped]; rfl
    have hworker : m.worker = .idle := by rw [hm.worker, hstopped]; rfl
    have hquiet := hm.setCaller i (m.responder.handle r).1
    refine ⟨_, _, run_call (hm.callers i) hstopped hm.queue hworker r, ?_, ?_, ?_⟩
    · exact ⟨hquiet.callers, hquiet.stoppers, hquiet.queue, hquiet.worker⟩
    · rw [hfound]
      exact setCaller_same m i _
    · rw [hfound]
      show (if m.stopped then _ else (m.responder.handle r).2) = _
      rw [hstopped]
      rfl

/-- Stopping a mailbox that no one else uses stops its responder. -/
theorem Quiet.stop (hm : m.Quiet) (k : κ) :
    ∃ actions after, m.run actions = some after ∧ after.Quiet ∧ after.found = m.found.stop := by
  cases hstopped : m.stopped with
  | true =>
    have hfound : m.found = m.responder.stop := by rw [found, hstopped]; rfl
    have hact : m.run [.stop k] = some (m.setStopper k .returned) := by
      rw [run_cons, act_stop (hm.stoppers k), hstopped]
      rfl
    refine ⟨_, _, hact, hm.setStopper k, ?_⟩
    rw [hfound]
    exact hfound
  | false =>
    have hfound : m.found = m.responder := by rw [found, hstopped]; rfl
    have hworker : m.worker = .idle := by rw [hm.worker, hstopped]; rfl
    have hquiet := hm.setStopper k
    refine ⟨_, _, run_stop (hm.stoppers k) hstopped hm.queue hworker, ?_, ?_⟩
    · exact ⟨hquiet.callers, hquiet.stoppers, hquiet.queue, rfl⟩
    · rw [hfound]
      rfl

/-- What callers ask for one after another is answered in that order. -/
theorem Quiet.calls (hm : m.Quiet) (calls : List (ι × InputRequest)) :
    ∃ actions after, m.run actions = some after ∧ after.Quiet ∧
      after.found = m.found.after (calls.map (·.2)) := by
  induction calls generalizing m with
  | nil => exact ⟨[], m, rfl, hm, rfl⟩
  | cons c calls ih =>
    obtain ⟨first, mid, hfirst, hmid, -, hfound⟩ := hm.call c.1 c.2
    obtain ⟨second, after, hsecond, hafter, hlast⟩ := ih hmid
    refine ⟨first ++ second, after, ?_, hafter, ?_⟩
    · rw [run_append, hfirst]
      exact hsecond
    · rw [hlast, hfound]
      rfl

/-- Started, asked by callers one after another and stopped, it has done what its responder does. -/
theorem served_one_after_another (responder : Responder) (calls : List (ι × InputRequest)) (k : κ) :
    ∃ (actions : List (Action ι κ)) (after : Mailbox ι κ),
      (fresh responder).run actions = some after ∧ after.Quiet ∧
        after.found = (responder.after (calls.map (·.2))).stop := by
  obtain ⟨started, hstart, hquiet, hfound⟩ :
      ∃ m : Mailbox ι κ, (fresh responder).run [.start] = some m ∧ m.Quiet ∧ m.found = responder :=
    quiet_start responder
  obtain ⟨serving, served, hserved, hmid, hanswered⟩ := hquiet.calls calls
  obtain ⟨stopping, after, hstopped, hafter, hended⟩ := hmid.stop k
  refine ⟨[.start] ++ (serving ++ stopping), after, ?_, hafter, ?_⟩
  · rw [run_append, hstart]
    change started.run (serving ++ stopping) = some after
    rw [run_append, hserved]
    exact hstopped
  · rw [hended, hanswered, hfound]

/-! ## Calls that are lost -/

section Fresh

variable {responder : Responder} {actions : List (Action ι κ)}

theorem kept_of_run (h : (fresh responder).run actions = some m) : m.Kept :=
  run_induction (fun _ m => m.Kept) (kept_fresh responder)
    (fun _ _ _ _ _ hm hstep => hm.step hstep) h

theorem flagged_of_run (h : (fresh responder).run actions = some m) : m.Flagged :=
  run_induction (fun _ m => m.Flagged) (flagged_fresh responder)
    (fun _ _ _ _ _ hm hstep => hm.step hstep) h

theorem closed_iff_of_run (h : (fresh responder).run actions = some m) :
    m.Closed ↔ ∃ k, .mark k ∈ actions := by
  refine run_induction (fun actions m => m.Closed ↔ ∃ k, .mark k ∈ actions) ?_ ?_ h
  · simp [Closed, fresh]
  · intro actions mid a after _ hmid hstep
    rw [closed_step_iff hstep, hmid, ← exists_or]
    simp only [List.mem_append, List.mem_singleton, eq_comm]

theorem lost_iff_of_run (h : (fresh responder).run actions = some m) :
    m.Lost i ↔ ∃ before later k, actions = before ++ .put i :: later ∧ .mark k ∈ before := by
  refine run_induction (fun actions m => m.Lost i ↔
    ∃ before later k, actions = before ++ .put i :: later ∧ .mark k ∈ before) ?_ ?_ h
  · simp [Lost, leftOver, fresh, Worker.leaves, behindMark]
  · intro actions mid a after hrun hmid hstep
    rw [lost_step_iff hstep, hmid, closed_iff_of_run hrun]
    constructor
    · rintro (⟨before, later, k, rfl, hk⟩ | ⟨rfl, k, hk⟩)
      · exact ⟨before, later ++ [a], k, by simp, hk⟩
      · exact ⟨actions, [], k, rfl, hk⟩
    · rintro ⟨before, later, k, hsplit, hk⟩
      obtain rfl | ⟨later, last, rfl⟩ := later.eq_nil_or_concat
      · obtain ⟨rfl, hlast⟩ := List.append_inj' hsplit rfl
        exact Or.inr ⟨List.head_eq_of_cons_eq hlast, k, hk⟩
      · rw [List.concat_eq_append, ← List.cons_append, ← List.append_assoc] at hsplit
        obtain ⟨rfl, -⟩ := List.append_inj' hsplit rfl
        exact Or.inl ⟨before, later, k, rfl, hk⟩

/-- A caller that is still let in behind a raised flag was let in when the flag was raised. -/
theorem admitted_when_raised (h : (fresh responder).run actions = some m)
    (hstopped : m.stopped = true) {r : InputRequest} (hcaller : m.caller i = .admitted r) :
    ∃ before later k mid, actions = before ++ .raise k :: later ∧
      (fresh responder).run before = some mid ∧ mid.stopped = false ∧
      mid.caller i = .admitted r := by
  refine run_induction (fun actions m => m.stopped = true → m.caller i = .admitted r →
    ∃ before later k mid, actions = before ++ .raise k :: later ∧
      (fresh responder).run before = some mid ∧ mid.stopped = false ∧
      mid.caller i = .admitted r) ?_ ?_ h hstopped hcaller
  · intro hstopped
    contradiction
  · intro actions mid a after hrun hmid hstep hstopped hcaller
    have hbefore : mid.stopped = true → mid.caller i = .admitted r →
        ∃ before later k mid, actions ++ [a] = before ++ .raise k :: later ∧
          (fresh responder).run before = some mid ∧ mid.stopped = false ∧
          mid.caller i = .admitted r := by
      intro hstopped hcaller
      obtain ⟨before, later, k, first, rfl, hfirst⟩ := hmid hstopped hcaller
      exact ⟨before, later ++ [a], k, first, by simp, hfirst⟩
    cases hflag : mid.stopped with
    | true => exact hbefore hflag (admitted_of_step hstep hflag hcaller)
    | false =>
      obtain ⟨⟨k, rfl⟩, hsame⟩ := raise_of_step hstep hflag hstopped
      exact ⟨actions, [], k, mid, rfl, hrun, hflag, hsame ▸ hcaller⟩

theorem admitted_of_put {before later : List (Action ι κ)}
    (h : (fresh responder).run (before ++ .put i :: later) = some m) :
    ∃ mid r, (fresh responder).run before = some mid ∧ mid.caller i = .admitted r := by
  rw [run_append, Option.bind_eq_some_iff] at h
  obtain ⟨mid, hmid, hrest⟩ := h
  rw [run_cons, Option.bind_eq_some_iff] at hrest
  obtain ⟨after, hact, -⟩ := hrest
  cases step_of_act hact with
  | @put _ r hcaller => exact ⟨mid, r, hmid, hcaller⟩

theorem lost_of_run {more : List (Action ι κ)} (h : m.run more = some after) (hlost : m.Lost i) :
    after.Lost i :=
  run_induction (fun _ after => after.Lost i) hlost
    (fun _ _ _ _ _ hmid hstep => (lost_step_iff hstep).2 (Or.inl hmid)) h

/--
A responder with any number of callers and stoppers, after any actions that lead to the end of its
worker. A caller waits for a reply that was not sent exactly if it put its request into the queue
behind an end mark. It waits for ever, whatever is done after that. And it was let in before the
flag was raised: when that happened it had looked at the flag, but not put its request yet. So no
caller is left waiting if none stands between the two when the flag is raised.
-/
theorem waits_iff_put_behind_mark (ran : (fresh responder).run actions = some m)
    (exited : m.worker = .exited) (i : ι) :
    (m.Waits i ↔ ∃ before later k, actions = before ++ .put i :: later ∧ .mark k ∈ before) ∧
    (m.Waits i → ∀ more after, m.run more = some after → after.Waits i) ∧
    (m.Waits i → ∃ before later k mid r, actions = before ++ .raise k :: later ∧
      (fresh responder).run before = some mid ∧ mid.stopped = false ∧
      mid.caller i = .admitted r) := by
  have hwaits : m.Waits i ↔ m.Lost i := waits_iff_lost (kept_of_run ran) exited
  rw [hwaits, lost_iff_of_run ran]
  refine ⟨Iff.rfl, ?_, ?_⟩
  · intro hput more after hmore
    have hran : (fresh responder).run (actions ++ more) = some after := by
      rw [run_append, ran]
      exact hmore
    have hlost := lost_of_run hmore ((lost_iff_of_run ran).2 hput)
    exact hlost.waits (kept_of_run hran)
  · rintro ⟨before, later, k, rfl, hk⟩
    obtain ⟨mid, r, hmid, hcaller⟩ := admitted_of_put ran
    -- An end mark is in the queue, so the flag is up, and the caller came in before it went up.
    have hstopped := (flagged_of_run hmid).closed ((closed_iff_of_run hmid).2 ⟨k, hk⟩)
    obtain ⟨earlier, between, l, first, rfl, hfirst⟩ :=
      admitted_when_raised hmid hstopped hcaller
    exact ⟨earlier, between ++ .put i :: later, l, first, r, by simp, hfirst⟩

/-- A caller looks at the flag before it is raised, and puts its request behind the end mark. -/
theorem waits_iff_put_behind_mark_raced :
    ∃ m : Mailbox Unit Unit,
      (fresh (.ofLines [['a']] .working)).run
        [.start, .call () .line, .stop (), .raise (), .mark (), .take, .put ()] = some m ∧
      m.worker = .exited ∧ m.Waits () ∧
      ∀ more after, m.run more = some after → after.Waits () := by
  have ran : (fresh (.ofLines [['a']] .working) : Mailbox Unit Unit).run
      [.start, .call () .line, .stop (), .raise (), .mark (), .take, .put ()] = some _ := rfl
  obtain ⟨hwaits, hever, -⟩ := waits_iff_put_behind_mark ran rfl ()
  have hraced := hwaits.2 ⟨[.start, .call () .line, .stop (), .raise (), .mark (), .take], [], (),
    rfl, by simp⟩
  exact ⟨_, ran, rfl, hraced, hever hraced⟩

end Fresh

end CommandShell.Mailbox
