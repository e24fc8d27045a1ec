import CommandShell.Proofs.Input.Responder
import CommandShell.Proofs.Input.Terminal

/-!
# Who holds standard input

Scripted input is entered and left, and in between, before and afterwards anyone may read from and
write to the terminal and every stream that there ever was. Whatever the order, at most one block
of scripted input is open; the lock, the prompts and standard input all belong to its stream, and
that stream is the only one that is not stopped. What is stopped stays so and is silent.
-/

namespace CommandShell

/-- A use of the terminal, or of one of its streams by the stream's number. -/
inductive Use where
  | print (text : Text)
  | ask (text : Text)
  | prompt (text : Text)
  | promptTerminal (text : Text)
  | readLine
  | read (size : Int)
  | streamWrite (stream : Nat) (text : Text)
  | streamPrompt (stream : Nat) (text : Text)
  | streamReadLine (stream : Nat) (size : Int)
  | streamRead (stream : Nat) (size : Int)
  | streamReadLines (stream : Nat) (hint : Int)

/-- What a command execution may do: enter scripted input, leave it, or use what it has. -/
inductive Act where
  | enter (lines : List Text) (outlet : Outlet)
  | leave (failure : Option Failure)
  | use (u : Use)

/-- A terminal, and the installations whose blocks are open, innermost first. -/
structure Stage where
  terminal : Terminal
  held : List Installation

namespace Terminal

/-- The terminal after a use. -/
def use (t : Terminal) : Use → Terminal
  | .print text => t.print text
  | .ask text => (t.ask text).2
  | .prompt text => (t.prompt text).2
  | .promptTerminal text => (t.promptTerminal text).2
  | .readLine => t.readLine.2
  | .read size => (t.read size).2
  | .streamWrite stream text => t.streamWrite stream text
  | .streamPrompt stream text => (t.streamPrompt stream text).2
  | .streamReadLine stream size => (t.streamReadLine stream size).2
  | .streamRead stream size => (t.streamRead stream size).2
  | .streamReadLines stream hint => (t.streamReadLines stream hint).2

/-- Which streams are stopped, by their numbers. -/
def stops (t : Terminal) : List Bool := t.streams.map (·.source.stopped)

/-- What is installed, and which streams are stopped. -/
def occupancy (t : Terminal) : (Bool × Option Nat × Option Nat) × List Bool :=
  (t.installed, t.stops)

/-- Every read from the stream is at the end of input, and writes to it go nowhere. -/
structure Silent (t : Terminal) (stream : Nat) : Prop where
  prompt : ∀ text, t.streamPrompt stream text = (none, t)
  readLine : ∀ size, t.streamReadLine stream size = ([], t)
  read : ∀ size, t.streamRead stream size = ([], t)
  readLines : ∀ hint, t.streamReadLines stream hint = ([], t)
  write : ∀ text, t.streamWrite stream text = t

end Terminal

namespace Source

theorem takeAll_stopped (s : Source) : s.takeAll.2.stopped = s.stopped := by
  rw [takeAll]
  split <;> rfl

theorem takeLines_stopped (s : Source) (hint : Int) : (s.takeLines hint).2.stopped = s.stopped := by
  rw [takeLines]
  split
  · rfl
  · split <;> rfl

end Source

namespace Terminal

variable {t : Terminal} {stream : Nat}

/-! ## Using a terminal -/

theorem occupancy_write (t : Terminal) (outlet : Outlet) (text : Text) :
    (t.write outlet text).occupancy = t.occupancy := by
  cases outlet <;> rfl

theorem occupancy_onSource (t : Terminal) (stream : Nat) (missing : α)
    {operation : Source → α × Source} (h : ∀ s, (operation s).2.stopped = s.stopped) :
    (t.onSource stream missing operation).2.occupancy = t.occupancy := by
  rw [onSource]
  split
  · rfl
  · next s hs =>
    have hstopped : t.stops[stream]? = some s.source.stopped := by simp [stops, hs]
    obtain ⟨hlt, hget⟩ := List.getElem?_eq_some_iff.1 hstopped
    refine Prod.ext rfl ?_
    simp only [occupancy, stops, List.map_set, h, ← hget]
    exact List.set_getElem_self hlt

theorem occupancy_streamWrite (t : Terminal) (stream : Nat) (text : Text) :
    (t.streamWrite stream text).occupancy = t.occupancy := by
  rw [streamWrite]
  split
  · rfl
  · split
    · rfl
    · exact occupancy_write t _ text

theorem occupancy_streamPrompt (t : Terminal) (stream : Nat) (text : Text) :
    (t.streamPrompt stream text).2.occupancy = t.occupancy := by
  rw [streamPrompt]
  refine (occupancy_onSource _ stream none Source.takeLine_stopped).trans ?_
  split
  · rfl
  · exact occupancy_streamWrite t stream text

theorem occupancy_streamReadLine (t : Terminal) (stream : Nat) (size : Int) :
    (t.streamReadLine stream size).2.occupancy = t.occupancy := by
  rw [streamReadLine]
  by_cases hsize : 0 ≤ size
  · rw [if_pos hsize]
    exact occupancy_onSource t stream none (Source.takeChars_stopped · size)
  · rw [if_neg hsize]
    exact occupancy_onSource t stream none Source.takeLine_stopped

theorem occupancy_streamRead (t : Terminal) (stream : Nat) (size : Int) :
    (t.streamRead stream size).2.occupancy = t.occupancy := by
  rw [streamRead]
  split
  · exact occupancy_streamReadLine t stream size
  · exact occupancy_onSource t stream [] Source.takeAll_stopped

theorem occupancy_readLine (t : Terminal) : t.readLine.2.occupancy = t.occupancy := by
  rw [readLine]
  split
  · exact occupancy_streamReadLine t _ (-1)
  · rfl

theorem occupancy_read (t : Terminal) (size : Int) : (t.read size).2.occupancy = t.occupancy := by
  rw [read]
  split
  · exact occupancy_streamRead t _ size
  · split <;> rfl

theorem occupancy_promptTerminal (t : Terminal) (text : Text) :
    (t.promptTerminal text).2.occupancy = t.occupancy := by
  have hread := (occupancy_readLine (t.write .screen text)).trans (occupancy_write t .screen text)
  rw [promptTerminal]
  simp only
  split <;> exact hread

theorem occupancy_ask (t : Terminal) (text : Text) : (t.ask text).2.occupancy = t.occupancy := by
  have hread := (occupancy_readLine (t.write .screen text)).trans (occupancy_write t .screen text)
  rw [ask]
  simp only
  split <;> exact hread

theorem occupancy_prompt (t : Terminal) (text : Text) :
    (t.prompt text).2.occupancy = t.occupancy := by
  rw [prompt]
  split
  · exact occupancy_streamPrompt t _ text
  · exact occupancy_promptTerminal t text

/-- No use of a terminal installs, removes or stops anything. -/
theorem occupancy_use (t : Terminal) (u : Use) : (t.use u).occupancy = t.occupancy := by
  cases u with
  | print text => exact occupancy_write t .screen _
  | ask text => exact occupancy_ask t text
  | prompt text => exact occupancy_prompt t text
  | promptTerminal text => exact occupancy_promptTerminal t text
  | readLine => exact occupancy_readLine t
  | read size => exact occupancy_read t size
  | streamWrite stream text => exact occupancy_streamWrite t stream text
  | streamPrompt stream text => exact occupancy_streamPrompt t stream text
  | streamReadLine stream size => exact occupancy_streamReadLine t stream size
  | streamRead stream size => exact occupancy_streamRead t stream size
  | streamReadLines stream hint =>
    exact occupancy_onSource t stream [] (Source.takeLines_stopped · hint)

/-! ## Stopped streams -/

theorem onSource_of_stopped (h : t.stops[stream]? = some true) {missing : α}
    {operation : Source → α × Source}
    (hoperation : ∀ s : Source, s.stopped = true → operation s = (missing, s)) :
    t.onSource stream missing operation = (missing, t) := by
  rw [stops, List.getElem?_map, Option.map_eq_some_iff] at h
  obtain ⟨s, hs, hstopped⟩ := h
  obtain ⟨hlt, hget⟩ := List.getElem?_eq_some_iff.1 hs
  have hsame : t.streams.set stream s = t.streams := by
    rw [← hget, List.set_getElem_self]
  rw [onSource_of_some hs, hoperation s.source hstopped, hsame]

theorem silent_of_stops (h : t.stops[stream]? = some true) : t.Silent stream := by
  have hwrite : ∀ text, t.streamWrite stream text = t := by
    intro text
    rw [stops, List.getElem?_map, Option.map_eq_some_iff] at h
    obtain ⟨s, hs, hstopped⟩ := h
    rw [streamWrite, hs]
    exact if_pos hstopped
  have hline : t.onSource stream none Source.takeLine = (none, t) :=
    onSource_of_stopped h fun s hs => if_pos hs
  have hread : ∀ size, t.streamReadLine stream size = ([], t) := by
    intro size
    have hchars : t.onSource stream none (·.takeChars size) = (none, t) :=
      onSource_of_stopped h fun s hs => if_pos hs
    rw [streamReadLine, hchars, hline, ite_self]
    rfl
  refine ⟨?_, hread, ?_, ?_, hwrite⟩
  · intro text
    rw [streamPrompt, hwrite, ite_self, hline]
    rfl
  · intro size
    have hall : t.onSource stream [] Source.takeAll = ([], t) :=
      onSource_of_stopped h fun s hs => if_pos hs
    rw [streamRead, hread, hall, ite_self]
  · exact fun hint => onSource_of_stopped h fun s hs => if_pos hs

theorem stops_install {lines : List Text} {outlet : Outlet} {i : Installation} {mid : Terminal}
    (h : t.install lines outlet = .ok (i, mid)) : mid.stops = t.stops ++ [false] := by
  obtain ⟨-, -, rfl⟩ := install_eq_ok h
  exact List.map_append

theorem stops_remove (t : Terminal) (i : Installation) :
    (t.remove i).stops = t.stops.set i.stream true := by
  rw [remove, onSource]
  split
  · next hmissing =>
    have hshort : t.stops.length ≤ i.stream := by
      simpa [stops] using List.getElem?_eq_none_iff.1 hmissing
    exact (List.set_eq_of_length_le hshort).symm
  · next s hs => simp [stops, Source.stop, List.map_set]

end Terminal

namespace Stage

/-- A terminal on which `typed` will be read, before anything was entered. -/
def start (typed : Text) : Stage := ⟨.ofTyped typed, []⟩

/-- The stage after an act; a failure is one that the act meets, or one that it passes on. -/
def step (s : Stage) : Act → Except Failure Unit × Stage
  | .enter lines outlet =>
    match s.terminal.install lines outlet with
    | .error f => (.error f, s)
    | .ok (i, terminal) => (.ok (), ⟨terminal, i :: s.held⟩)
  | .leave failure =>
    match s.held with
    | [] => (.ok (), s)
    | i :: rest => (failure.elim (.ok ()) .error, ⟨s.terminal.remove i, rest⟩)
  | .use u => (.ok (), { s with terminal := s.terminal.use u })

/-- The stage after some acts, one after another. -/
def after (s : Stage) (acts : List Act) : Stage :=
  acts.foldl (fun s act => (s.step act).2) s

/--
The stage in which just the block of that stream is open, or no block: the stream holds the lock,
the prompts and standard input, it displaced nothing, and it is the only one not stopped.
-/
structure Holds (s : Stage) (now : Option Nat) : Prop where
  held : s.held = (now.map fun stream => ⟨stream, none, none⟩).toList
  installed : s.terminal.installed = (now.isSome, now, now)
  running : ∀ stream, s.terminal.stops[stream]? = some false ↔ now = some stream

variable {s : Stage} {now : Option Nat} {stream : Nat}

/-! ## One act -/

theorem holds_start (typed : Text) : (start typed).Holds none :=
  ⟨rfl, rfl, fun stream => by simp [start, Terminal.ofTyped, Terminal.stops]⟩

theorem Holds.use (h : s.Holds now) (u : Use) : (s.step (.use u)).2.Holds now := by
  have hsame := Terminal.occupancy_use s.terminal u
  have hinstalled : (s.terminal.use u).installed = s.terminal.installed := congrArg (·.1) hsame
  have hstops : (s.terminal.use u).stops = s.terminal.stops := congrArg (·.2) hsame
  refine ⟨h.held, hinstalled.trans h.installed, fun stream => ?_⟩
  rw [← h.running stream, ← hstops]
  rfl

theorem Holds.locked (h : s.Holds now) : s.terminal.locked = now.isSome :=
  congrArg (·.1) h.installed

theorem Holds.active (h : s.Holds now) : s.terminal.active = now :=
  congrArg (·.2.1) h.installed

theorem Holds.input (h : s.Holds now) : s.terminal.input = now :=
  congrArg (·.2.2) h.installed

/-- Entering while a block is open is refused, and nothing changes. -/
theorem Holds.enter_refused (h : s.Holds (some stream)) (lines : List Text) (outlet : Outlet) :
    s.step (.enter lines outlet) = (.error .inputInstalled, s) := by
  have hlocked : s.terminal.locked = true := h.locked
  rw [step, Terminal.install, if_pos hlocked]

theorem Holds.enter (h : s.Holds none) (lines : List Text) (outlet : Outlet) :
    ∃ entered, s.step (.enter lines outlet) = (.ok (), entered) ∧
      entered.terminal.streams = s.terminal.streams ++ [⟨.ofLines lines, outlet⟩] ∧
      entered.Holds (some s.terminal.streams.length) := by
  have hlocked : s.terminal.locked = false := h.locked
  obtain ⟨i, mid, hinstall⟩ : ∃ i mid, s.terminal.install lines outlet = .ok (i, mid) :=
    ⟨_, _, by rw [Terminal.install, hlocked]; rfl⟩
  have hstops := Terminal.stops_install hinstall
  have hlength : s.terminal.stops.length = s.terminal.streams.length := List.length_map _
  obtain ⟨-, rfl, rfl⟩ := Terminal.install_eq_ok hinstall
  refine ⟨_, by rw [step, hinstall], rfl, ?_, rfl, ?_⟩
  · rw [h.held, h.active, h.input]
    rfl
  · intro stream
    have hstopped : s.terminal.stops[stream]? ≠ some false := by simp [h.running]
    rw [hstops, Option.some.injEq, ← hlength]
    -- the new stream is the one after all that were there, and all of these are stopped
    rcases Nat.lt_trichotomy stream s.terminal.stops.length with hlt | rfl | hgt
    · rw [List.getElem?_append_left hlt]
      exact iff_of_false hstopped (by omega)
    · simp
    · rw [List.getElem?_eq_none (by simp; omega)]
      exact iff_of_false (by simp) (by omega)

theorem Holds.leave (h : s.Holds (some stream)) (failure : Option Failure) :
    ∃ left, s.step (.leave failure) = (failure.elim (.ok ()) .error, left) ∧
      left.terminal.stops = s.terminal.stops.set stream true ∧ left.Holds none := by
  have hheld : s.held = [⟨stream, none, none⟩] := h.held
  have hstops := Terminal.stops_remove s.terminal ⟨stream, none, none⟩
  refine ⟨_, by rw [step, hheld], hstops, rfl, rfl, ?_⟩
  intro other
  rw [hstops, List.getElem?_set]
  split
  · split <;> simp
  · next hne =>
    rw [h.running]
    simpa using hne

/-- What one act makes of who holds standard input. -/
theorem Holds.step (h : s.Holds now) (act : Act) :
    ∃ next, (s.step act).2.Holds next ∧ ((∀ failure, act ≠ .leave failure) → now ≠ none →
      next = now) := by
  cases act with
  | use u => exact ⟨now, h.use u, fun _ _ => rfl⟩
  | enter lines outlet =>
    cases now with
    | none =>
      obtain ⟨entered, hstep, -, hholds⟩ := h.enter lines outlet
      exact ⟨_, by rw [hstep]; exact hholds, fun _ hnone => absurd rfl hnone⟩
    | some stream =>
      exact ⟨some stream, by rw [h.enter_refused]; exact h, fun _ _ => rfl⟩
  | leave failure =>
    cases now with
    | none =>
      have hheld : s.held = [] := h.held
      exact ⟨none, by rw [Stage.step, hheld]; exact h, fun _ _ => rfl⟩
    | some stream =>
      obtain ⟨left, hstep, -, hholds⟩ := h.leave failure
      exact ⟨none, by rw [hstep]; exact hholds, fun hno _ => absurd rfl (hno failure)⟩

/-- What is stopped stays stopped, whatever is done. -/
theorem stops_step (h : s.terminal.stops[stream]? = some true) (act : Act) :
    (s.step act).2.terminal.stops[stream]? = some true := by
  cases act with
  | use u =>
    have hsame : (s.terminal.use u).stops = s.terminal.stops :=
      congrArg (·.2) (Terminal.occupancy_use s.terminal u)
    exact hsame ▸ h
  | enter lines outlet =>
    rw [step]
    split
    · exact h
    · next hinstall =>
      rw [Terminal.stops_install hinstall, List.getElem?_append_left]
      · exact h
      · exact (List.getElem?_eq_some_iff.1 h).1
  | leave failure =>
    rw [step]
    split
    · exact h
    · next i rest hheld =>
      rw [Terminal.stops_remove, List.getElem?_set]
      split
      · next heq =>
        subst heq
        rw [if_pos (List.getElem?_eq_some_iff.1 h).1]
      · exact h

/-! ## Every sequence of acts -/

theorem after_cons (s : Stage) (act : Act) (acts : List Act) :
    s.after (act :: acts) = (s.step act).2.after acts := rfl

theorem Holds.after (h : s.Holds now) (acts : List Act) : ∃ next, (s.after acts).Holds next := by
  induction acts generalizing s now with
  | nil => exact ⟨now, h⟩
  | cons act acts ih =>
    obtain ⟨next, hnext, -⟩ := h.step act
    exact ih hnext

/-- Nothing but leaving ends the hold of a stream. -/
theorem Holds.after_inner (h : s.Holds (some stream)) {acts : List Act}
    (hinner : ∀ failure, .leave failure ∉ acts) : (s.after acts).Holds (some stream) := by
  induction acts generalizing s with
  | nil => exact h
  | cons act acts ih =>
    obtain ⟨next, hnext, hsame⟩ := h.step act
    have hact : ∀ failure, act ≠ .leave failure := by
      rintro failure rfl
      exact hinner failure List.mem_cons_self
    obtain rfl := hsame hact (Option.some_ne_none _)
    exact ih hnext fun failure hmem => hinner failure (List.mem_cons_of_mem _ hmem)

theorem stops_after (h : s.terminal.stops[stream]? = some true) (acts : List Act) :
    (s.after acts).terminal.stops[stream]? = some true := by
  induction acts generalizing s with
  | nil => exact h
  | cons act acts ih => exact ih (stops_step h act)

/--
After any sequence of acts, standard input, the prompts and the lock belong to the one stream whose
block is open, or to none, and no other stream runs. If one is open, entering is refused and nothing
changes. If none is, entering succeeds; and after anything done inside, leaving puts everything back
and lets the next block in, also if it passes a failure on. A stream that was removed is silent for
ever.
-/
theorem scripted_input_exclusive (typed : Text) (acts : List Act) :
    let s := (start typed).after acts
    (s.terminal.input = s.terminal.active ∧
      (s.terminal.locked = true ↔ s.terminal.active ≠ none) ∧
      s.held.map (·.stream) = s.terminal.active.toList ∧
      ∀ stream, s.terminal.stops[stream]? = some false ↔ s.terminal.active = some stream) ∧
    (s.terminal.active ≠ none → ∀ lines outlet,
      s.step (.enter lines outlet) = (.error .inputInstalled, s)) ∧
    (s.terminal.active = none → ∀ lines outlet, ∃ entered,
      s.step (.enter lines outlet) = (.ok (), entered) ∧
      entered.terminal.active = some s.terminal.streams.length ∧
      entered.terminal.streams = s.terminal.streams ++ [⟨.ofLines lines, outlet⟩] ∧
      ∀ inner failure, (∀ f, .leave f ∉ inner) → ∃ left,
        (entered.after inner).step (.leave failure) = (failure.elim (.ok ()) .error, left) ∧
        left.terminal.installed = s.terminal.installed ∧ left.held = s.held ∧
        (∀ lines outlet, (left.step (.enter lines outlet)).1 = .ok ()) ∧
        ∀ more, (left.after more).terminal.Silent s.terminal.streams.length) ∧
    ∀ stream, stream < s.terminal.streams.length → s.terminal.active ≠ some stream →
      ∀ more, (s.after more).terminal.Silent stream := by
  intro s
  obtain ⟨now, hnow⟩ := (holds_start typed).after acts
  change s.Holds now at hnow
  have hactive := hnow.active
  refine ⟨⟨?_, ?_, ?_, hactive ▸ hnow.running⟩, ?_, ?_, ?_⟩
  · rw [hnow.input, hactive]
  · rw [hnow.locked, hactive]
    cases now <;> simp
  · rw [hnow.held, hactive]
    cases now <;> rfl
  · intro hsome lines outlet
    obtain ⟨stream, rfl⟩ := Option.ne_none_iff_exists'.1 (hactive ▸ hsome)
    exact hnow.enter_refused lines outlet
  · intro hnone lines outlet
    obtain rfl : now = none := hactive.symm.trans hnone
    obtain ⟨entered, hstep, hstreams, hentered⟩ := hnow.enter lines outlet
    refine ⟨entered, hstep, hentered.active, hstreams, fun inner failure hinner => ?_⟩
    have hmid := hentered.after_inner hinner
    obtain ⟨left, hleave, hstops, hleft⟩ := hmid.leave failure
    refine ⟨left, hleave, ?_, ?_, ?_, ?_⟩
    · rw [hleft.installed, hnow.installed]
    · rw [hleft.held, hnow.held]
    · intro lines outlet
      obtain ⟨again, hagain, -⟩ := hleft.enter lines outlet
      rw [hagain]
    · intro more
      refine Terminal.silent_of_stops (stops_after ?_ more)
      have hlt := (List.getElem?_eq_some_iff.1 ((hmid.running _).2 rfl)).1
      rw [hstops, List.getElem?_set_self hlt]
  · intro stream hlt hother more
    refine Terminal.silent_of_stops (stops_after ?_ more)
    have hlength : stream < s.terminal.stops.length := by rwa [Terminal.stops, List.length_map]
    have hget : s.terminal.stops[stream]? = some s.terminal.stops[stream] :=
      List.getElem?_eq_getElem hlength
    cases hstopped : s.terminal.stops[stream] with
    | true => rw [hget, hstopped]
    | false =>
      rw [hstopped, hnow.running, ← hactive] at hget
      exact absurd hget hother

end Stage

end CommandShell
