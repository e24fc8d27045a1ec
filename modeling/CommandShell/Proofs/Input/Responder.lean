import CommandShell.Input.Responder

/-!
# Scripted text is replayed exactly once

A responder stands for a text: what is left of its lines, each with its line feed. Every read moves
a front part of that text into its reply, so the replies of a whole run, put together, are a front
part of the scripted text. Writes and requests of unknown kinds do not touch the text, and a sink
that fails does not either.
-/

namespace CommandShell

namespace Source

/-- The text that lines stand for. -/
def textOf (lines : List Text) : Text := lines.flatMap (· ++ ['\n'])

@[simp] theorem textOf_nil : textOf [] = [] := rfl

@[simp] theorem textOf_cons (line : Text) (lines : List Text) :
    textOf (line :: lines) = line ++ '\n' :: textOf lines := by
  simp [textOf]

theorem textOf_eq_nil_iff (lines : List Text) : textOf lines = [] ↔ lines = [] := by
  cases lines with
  | nil => simp
  | cons line lines => simp

theorem takeLine_conserves {s : Source} (hs : s.stopped = false) :
    s.takeLine.1.getD [] ++ textOf s.takeLine.2.rest = textOf s.rest := by
  cases hr : s.rest with
  | nil => simp [takeLine, hs, hr]
  | cons line lines => simp [takeLine, hs, hr]

theorem takeChars_conserves {s : Source} (hs : s.stopped = false) (count : Int) :
    (s.takeChars count).1.getD [] ++ textOf (s.takeChars count).2.rest = textOf s.rest := by
  cases hr : s.rest with
  | nil => simp [takeChars, hs, hr]
  | cons line lines =>
    by_cases hc : count ≤ 0
    · simp [takeChars, hs, hr, hc]
    · by_cases hn : count.toNat < line.length
      · have hsplit : line.take count.toNat ++ (line.drop count.toNat ++ '\n' :: textOf lines) =
            line ++ '\n' :: textOf lines := by
          rw [← List.append_assoc, List.take_append_drop]
        simpa [takeChars, hs, hr, hc, hn] using hsplit
      · simp [takeChars, hs, hr, hc, hn]

@[simp] theorem takeLine_stopped (s : Source) : s.takeLine.2.stopped = s.stopped := by
  unfold takeLine
  split
  · rfl
  · split <;> rfl

@[simp] theorem takeChars_stopped (s : Source) (count : Int) :
    (s.takeChars count).2.stopped = s.stopped := by
  unfold takeChars
  split
  · rfl
  · split
    · rfl
    · split
      · rfl
      · dsimp only
        split <;> rfl

/-- A bounded read of a source that is not exhausted takes something, and at most what was asked for
before the line feed. -/
theorem takeChars_of_pos {s : Source} (hs : s.stopped = false) (hr : s.isExhausted = false)
    {count : Int} (hc : 0 < count) :
    ∃ reply chunk, (s.takeChars count).1 = some reply ∧ reply ≠ [] ∧ (chunk.length : Int) ≤ count ∧
      (reply = chunk ∨ reply = chunk ++ ['\n']) := by
  cases hl : s.rest with
  | nil => simp [isExhausted, hl] at hr
  | cons line lines =>
    have hc' : ¬ count ≤ 0 := by omega
    by_cases hn : count.toNat < line.length
    · refine ⟨line.take count.toNat, line.take count.toNat, ?_, ?_, ?_, Or.inl rfl⟩
      · simp [takeChars, hs, hl, hc', hn]
      · intro he
        have hlen := congrArg List.length he
        rw [List.length_take, List.length_nil] at hlen
        omega
      · rw [List.length_take]
        omega
    · refine ⟨line ++ ['\n'], line, ?_, by simp, by omega, Or.inr rfl⟩
      simp [takeChars, hs, hl, hc', hn]

end Source

/-- Whether a request asks for scripted text. -/
def InputRequest.isRead : InputRequest → Bool
  | .line | .chars _ => true
  | .put _ | .unknown => false

/-- The text that a request wants to write, if it does. -/
def InputRequest.data? : InputRequest → Option Text
  | .put data => some data
  | .line | .chars _ | .unknown => none

/-- Which of the texts arrive at a sink that failed or not `attempts` times before. -/
def Sink.arriving (fails : Nat → Bool) (attempts : Nat) : List Text → List Text
  | [] => []
  | data :: rest =>
    if fails attempts then arriving fails (attempts + 1) rest
    else data :: arriving fails (attempts + 1) rest

namespace Responder

/-- The responder after a sequence of requests. -/
def after (r : Responder) (requests : List InputRequest) : Responder :=
  requests.foldl (fun r request => (r.handle request).2) r

/-- The requests of a sequence, each with its reply. -/
def replies (r : Responder) : List InputRequest → List (InputRequest × Option Text)
  | [] => []
  | request :: rest => (request, (r.handle request).1) :: (r.handle request).2.replies rest

/-- The replies to the reads of a sequence. -/
def readReplies (r : Responder) (requests : List InputRequest) : List (Option Text) :=
  ((r.replies requests).filter fun p => p.1.isRead).map (·.2)

/-- The text of all replies to reads, in order. -/
def readText (r : Responder) (requests : List InputRequest) : Text :=
  (r.readReplies requests).flatMap fun reply => reply.getD []

/-- The texts of the writes that were answered as done, in order. -/
def writtenTexts (r : Responder) (requests : List InputRequest) : List Text :=
  (r.replies requests).filterMap fun p => if p.2.isSome then p.1.data? else none

@[simp] theorem after_nil (r : Responder) : r.after [] = r := rfl

@[simp] theorem after_cons (r : Responder) (request : InputRequest) (rest : List InputRequest) :
    r.after (request :: rest) = (r.handle request).2.after rest := rfl

/-! ## One request -/

theorem handle_stopped (r : Responder) (request : InputRequest) :
    (r.handle request).2.source.stopped = r.source.stopped := by
  unfold handle
  split
  · rfl
  · cases request <;> simp

/-- A read moves text from the source into its reply; nothing is lost, added or moved. -/
theorem handle_conserves {r : Responder} (hr : r.source.stopped = false) {request : InputRequest}
    (hq : request.isRead = true) :
    (r.handle request).1.getD [] ++ Source.textOf (r.handle request).2.source.rest =
      Source.textOf r.source.rest := by
  cases request with
  | line => simpa [handle, hr] using Source.takeLine_conserves hr
  | chars count => simpa [handle, hr] using Source.takeChars_conserves hr count
  | put data => simp [InputRequest.isRead] at hq
  | unknown => simp [InputRequest.isRead] at hq

theorem handle_source_of_not_read (r : Responder) {request : InputRequest}
    (hq : request.isRead = false) : (r.handle request).2.source = r.source := by
  unfold handle
  split
  · rfl
  · cases request with
    | line => simp [InputRequest.isRead] at hq
    | chars count => simp [InputRequest.isRead] at hq
    | put data => rfl
    | unknown => rfl

theorem handle_read_congr {r r' : Responder} (hs : r.source = r'.source) {request : InputRequest}
    (hq : request.isRead = true) :
    (r.handle request).1 = (r'.handle request).1 ∧
      (r.handle request).2.source = (r'.handle request).2.source := by
  unfold handle
  rw [hs]
  split
  · exact ⟨rfl, hs⟩
  · cases request with
    | line => exact ⟨rfl, rfl⟩
    | chars count => exact ⟨rfl, rfl⟩
    | put data => simp [InputRequest.isRead] at hq
    | unknown => simp [InputRequest.isRead] at hq

theorem handle_read_exhausted {r : Responder} (he : r.source.isExhausted = true)
    {request : InputRequest} (hq : request.isRead = true) :
    (r.handle request).1 = none ∧ (r.handle request).2.source = r.source := by
  have hr : r.source.rest = [] := by simpa [Source.isExhausted] using he
  unfold handle
  split
  · exact ⟨rfl, rfl⟩
  · next hs =>
    have hs : r.source.stopped = false := by simpa using hs
    cases request with
    | line => simp [Source.takeLine, hs, hr]
    | chars count => simp [Source.takeChars, hs, hr]
    | put data => simp [InputRequest.isRead] at hq
    | unknown => simp [InputRequest.isRead] at hq

/-- Only a write touches the sink, and it is answered exactly if its text arrives. -/
theorem handle_sink {r : Responder} (hr : r.source.stopped = false) (request : InputRequest) :
    match request.data? with
    | none => (r.handle request).2.sink = r.sink
    | some data =>
      (r.handle request).2.sink = (r.sink.write data).2 ∧
        (r.handle request).1 = if (r.sink.write data).1 then some [] else none := by
  cases request with
  | line => simp [InputRequest.data?, handle, hr]
  | chars count => simp [InputRequest.data?, handle, hr]
  | put data => simp [InputRequest.data?, handle, hr]
  | unknown => simp [InputRequest.data?, handle, hr]

/-! ## A run of requests -/

theorem after_stopped (r : Responder) (requests : List InputRequest) :
    (r.after requests).source.stopped = r.source.stopped := by
  induction requests generalizing r with
  | nil => rfl
  | cons request rest ih => rw [after_cons, ih, handle_stopped]

theorem readReplies_cons_of_read (r : Responder) {request : InputRequest} (rest : List InputRequest)
    (hq : request.isRead = true) :
    r.readReplies (request :: rest) =
      (r.handle request).1 :: (r.handle request).2.readReplies rest := by
  simp [readReplies, replies, hq]

theorem readReplies_cons_of_not_read (r : Responder) {request : InputRequest}
    (rest : List InputRequest) (hq : request.isRead = false) :
    r.readReplies (request :: rest) = (r.handle request).2.readReplies rest := by
  simp [readReplies, replies, hq]

/-- What was read so far and what is still to be read make up the text at the beginning. -/
theorem readText_conserves {r : Responder} (hr : r.source.stopped = false)
    (requests : List InputRequest) :
    r.readText requests ++ Source.textOf (r.after requests).source.rest =
      Source.textOf r.source.rest := by
  induction requests generalizing r with
  | nil => rfl
  | cons request rest ih =>
    have hnext := ih ((handle_stopped r request).trans hr)
    unfold readText at hnext ⊢
    cases hq : request.isRead with
    | true =>
      rw [readReplies_cons_of_read r rest hq, List.flatMap_cons, List.append_assoc, after_cons,
        hnext]
      exact handle_conserves hr hq
    | false =>
      rw [readReplies_cons_of_not_read r rest hq, after_cons, hnext,
        handle_source_of_not_read r hq]

theorem readReplies_filter (r r' : Responder) (hs : r.source = r'.source)
    (requests : List InputRequest) :
    r.readReplies requests = r'.readReplies (requests.filter InputRequest.isRead) := by
  induction requests generalizing r r' with
  | nil => rfl
  | cons request rest ih =>
    cases hq : request.isRead with
    | true =>
      obtain ⟨hreply, hsource⟩ := handle_read_congr hs hq
      rw [List.filter_cons_of_pos hq, readReplies_cons_of_read r rest hq,
        readReplies_cons_of_read r' _ hq, hreply, ih _ _ hsource]
    | false =>
      rw [List.filter_cons_of_neg (by simp [hq]), readReplies_cons_of_not_read r rest hq]
      exact ih _ _ ((handle_source_of_not_read r hq).trans hs)

theorem readReplies_of_exhausted {r : Responder} (he : r.source.isExhausted = true)
    (requests : List InputRequest) : ∀ reply ∈ r.readReplies requests, reply = none := by
  induction requests generalizing r with
  | nil => simp [readReplies, replies]
  | cons request rest ih =>
    cases hq : request.isRead with
    | true =>
      obtain ⟨hreply, hsource⟩ := handle_read_exhausted he hq
      rw [readReplies_cons_of_read r rest hq, hreply]
      intro reply hm
      rcases List.mem_cons.1 hm with rfl | hm
      · rfl
      · exact ih (by rw [hsource]; exact he) reply hm
    | false =>
      rw [readReplies_cons_of_not_read r rest hq]
      exact ih (by rw [handle_source_of_not_read r hq]; exact he)

/-- The writes that arrive are those at which the sink does not fail, and no others are answered. -/
theorem writtenTexts_eq_arriving {r : Responder} (hr : r.source.stopped = false)
    (requests : List InputRequest) :
    r.writtenTexts requests =
      Sink.arriving r.sink.fails r.sink.attempts (requests.filterMap InputRequest.data?) := by
  induction requests generalizing r with
  | nil => rfl
  | cons request rest ih =>
    have hnext := ih ((handle_stopped r request).trans hr)
    have hsink := handle_sink hr request
    unfold writtenTexts at hnext ⊢
    cases hd : request.data? with
    | none =>
      simp only [hd] at hsink
      rw [hsink] at hnext
      simp [replies, hd, hnext]
    | some data =>
      simp only [hd] at hsink
      obtain ⟨hsink, hreply⟩ := hsink
      rw [hsink] at hnext
      by_cases hf : r.sink.fails r.sink.attempts = true
      · simp only [Sink.write, hf, if_true] at hreply hnext
        simp [replies, hd, hreply, hnext, Sink.arriving, hf]
      · simp only [Sink.write, hf, Bool.false_eq_true, if_false] at hreply hnext
        simp [replies, hd, hreply, hnext, Sink.arriving, hf]

theorem after_sink_text {r : Responder} (hr : r.source.stopped = false)
    (requests : List InputRequest) :
    (r.after requests).sink.text = r.sink.text ++ (r.writtenTexts requests).flatten := by
  induction requests generalizing r with
  | nil => simp [writtenTexts, replies]
  | cons request rest ih =>
    have hnext := ih ((handle_stopped r request).trans hr)
    have hsink := handle_sink hr request
    rw [after_cons, hnext]
    unfold writtenTexts
    cases hd : request.data? with
    | none =>
      simp only [hd] at hsink
      simp [replies, hd, hsink]
    | some data =>
      simp only [hd] at hsink
      obtain ⟨hsink, hreply⟩ := hsink
      by_cases hf : r.sink.fails r.sink.attempts = true
      · simp [replies, hsink, hreply, Sink.write, hf]
      · simp [replies, hd, hsink, hreply, Sink.write, hf]

/--
The law of scripted input, for any lines, any sink and any sequence of requests. The replies to
reads make up a front part of the scripted text, and all of it exactly when no line is left; a
bounded read of what is left takes something and no more than it asked for; from then on reads are
answered with nothing; the sink gets exactly the writes at which it does not fail; and nothing but
the reads decides what is read.
-/
theorem scripted_text_replayed (lines : List Text) (sink : Sink) (requests : List InputRequest) :
    let r := ofLines lines sink
    (r.readText requests <+: Source.textOf lines ∧
      (r.readText requests = Source.textOf lines ↔
        (r.after requests).source.isExhausted = true)) ∧
    (∀ count : Int, 0 < count → (r.after requests).source.isExhausted = false →
      ∃ reply chunk, ((r.after requests).handle (.chars count)).1 = some reply ∧ reply ≠ [] ∧
        (chunk.length : Int) ≤ count ∧ (reply = chunk ∨ reply = chunk ++ ['\n'])) ∧
    ((r.after requests).source.isExhausted = true →
      ∀ later, ∀ reply ∈ (r.after requests).readReplies later, reply = none) ∧
    ((r.after requests).sink.text = sink.text ++ (r.writtenTexts requests).flatten ∧
      r.writtenTexts requests =
        Sink.arriving sink.fails sink.attempts (requests.filterMap InputRequest.data?)) ∧
    (∀ others otherSink,
      others.filter InputRequest.isRead = requests.filter InputRequest.isRead →
        (ofLines lines otherSink).readReplies others = r.readReplies requests) := by
  intro r
  have hr : r.source.stopped = false := rfl
  have hafter : (r.after requests).source.stopped = false := (after_stopped r requests).trans hr
  have hsplit : r.readText requests ++ Source.textOf (r.after requests).source.rest =
      Source.textOf lines := readText_conserves hr requests
  refine ⟨⟨⟨_, hsplit⟩, ?_⟩, ?_, ?_, ⟨after_sink_text hr requests,
    writtenTexts_eq_arriving hr requests⟩, ?_⟩
  · rw [← hsplit]
    simp [Source.textOf_eq_nil_iff, Source.isExhausted]
  · intro count hc he
    obtain ⟨reply, chunk, hreply, hrest⟩ := Source.takeChars_of_pos hafter he hc
    refine ⟨reply, chunk, ?_, hrest⟩
    simpa [handle, hafter] using hreply
  · exact fun he later => readReplies_of_exhausted he later
  · intro others otherSink hfilter
    have hothers := readReplies_filter (ofLines lines otherSink) r rfl others
    rw [hothers, hfilter]
    exact (readReplies_filter r r rfl requests).symm

/-- Two characters and then a line, of two lines, with a write between that the sink refuses. -/
theorem scripted_text_replayed_abc :
    let r := ofLines ["abc".toList, []] Sink.broken
    let requests := [.chars 2, .put "x".toList, .line]
    (r.after requests).source.isExhausted = false ∧
      r.readText requests = "abc\n".toList ∧ r.readText requests ≠ Source.textOf ["abc".toList, []] ∧
      ∃ reply chunk, ((r.after requests).handle (.chars 1)).1 = some reply ∧ reply ≠ [] ∧
        (chunk.length : Int) ≤ 1 ∧ (reply = chunk ∨ reply = chunk ++ ['\n']) :=
  have h := scripted_text_replayed ["abc".toList, []] Sink.broken
    [.chars 2, .put "x".toList, .line]
  ⟨by decide, by decide, by decide, h.2.1 1 (by decide) (by decide)⟩

end Responder

end CommandShell
