import CommandShell.Proofs.Input.Terminal

/-!
# Terminals of the same input

Two terminals are alike if their input gives the same, whatever stands on their screens and
whatever became of scripted input that is no longer in force. Every way to read gives the same on
both and leaves them alike.
-/

namespace CommandShell

namespace Terminal

/-- The source that standard input comes from, if it is not the terminal's own. -/
def current (t : Terminal) : Option (Option Source) :=
  t.input.map fun stream => t.streams[stream]?.map (·.source)

/-- Whatever is read from either terminal, by prompts or otherwise, is the same. -/
structure Alike (t other : Terminal) : Prop where
  typed : t.typed = other.typed
  locked : t.locked = other.locked
  active : t.active = t.input
  active_other : other.active = other.input
  current : t.current = other.current

variable {t other : Terminal}

namespace Alike

theorem symm (h : t.Alike other) : other.Alike t :=
  ⟨h.typed.symm, h.locked.symm, h.active_other, h.active, h.current.symm⟩

theorem write_left (h : t.Alike other) (outlet : Outlet) (text : Text) :
    (t.write outlet text).Alike other := by
  cases outlet <;> exact ⟨h.typed, h.locked, h.active, h.active_other, h.current⟩

theorem streamWrite_left (h : t.Alike other) (stream : Nat) (text : Text) :
    (t.streamWrite stream text).Alike other := by
  rw [streamWrite]
  split
  · exact h
  · split
    · exact h
    · exact h.write_left _ text

theorem write (h : t.Alike other) (outlet : Outlet) (text : Text) :
    (t.write outlet text).Alike (other.write outlet text) :=
  ((h.write_left outlet text).symm.write_left outlet text).symm

theorem streamWrite (h : t.Alike other) (stream stream' : Nat) (text : Text) :
    (t.streamWrite stream text).Alike (other.streamWrite stream' text) :=
  ((h.streamWrite_left stream text).symm.streamWrite_left stream' text).symm

/-- Both read what is typed, or both read a stream. -/
theorem input_cases (h : t.Alike other) :
    t.input = none ∧ other.input = none ∨
      ∃ stream stream', t.input = some stream ∧ other.input = some stream' := by
  have hcurrent := h.current
  rw [Terminal.current, Terminal.current] at hcurrent
  cases hinput : t.input with
  | none =>
    rw [hinput] at hcurrent
    exact .inl ⟨rfl, Option.map_eq_none_iff.1 hcurrent.symm⟩
  | some stream =>
    rw [hinput] at hcurrent
    obtain ⟨stream', hother, -⟩ := Option.map_eq_some_iff.1 hcurrent.symm
    exact .inr ⟨stream, stream', rfl, hother⟩

theorem onSource (h : t.Alike other) {stream stream' : Nat} (hinput : t.input = some stream)
    (hother : other.input = some stream')
    (missing : α) (operation : Source → α × Source) :
    (t.onSource stream missing operation).1 = (other.onSource stream' missing operation).1 ∧
      (t.onSource stream missing operation).2.Alike
        (other.onSource stream' missing operation).2 := by
  have hsource : t.streams[stream]?.map (·.source) = other.streams[stream']?.map (·.source) := by
    have hcurrent := h.current
    rwa [Terminal.current, Terminal.current, hinput, hother, Option.map_some, Option.map_some,
      Option.some.injEq] at hcurrent
  cases hs : t.streams[stream]? with
  | none =>
    rw [hs] at hsource
    have hs' := Option.map_eq_none_iff.1 hsource.symm
    rw [Terminal.onSource, Terminal.onSource, hs, hs']
    exact ⟨rfl, h⟩
  | some s =>
    rw [hs] at hsource
    obtain ⟨s', hs', heq⟩ := Option.map_eq_some_iff.1 hsource.symm
    rw [onSource_of_some hs, onSource_of_some hs', heq]
    refine ⟨rfl, h.typed, h.locked, h.active, h.active_other, ?_⟩
    obtain ⟨hlt, -⟩ := List.getElem?_eq_some_iff.1 hs
    obtain ⟨hlt', -⟩ := List.getElem?_eq_some_iff.1 hs'
    simp [Terminal.current, hinput, hother, hlt, hlt']

theorem typing (h : t.Alike other) (hinput : t.input = none) (hother : other.input = none)
    (typed : Text) : Alike { t with typed } { other with typed } :=
  ⟨rfl, h.locked, h.active, h.active_other, by simp [Terminal.current, hinput, hother]⟩

theorem readLine (h : t.Alike other) :
    t.readLine.1 = other.readLine.1 ∧ t.readLine.2.Alike other.readLine.2 := by
  rcases h.input_cases with ⟨hinput, hother⟩ | ⟨stream, stream', hinput, hother⟩
  · rw [readLine_of_typed hinput, readLine_of_typed hother, h.typed]
    exact ⟨rfl, h.typing hinput hother _⟩
  · rw [readLine_of_stream hinput, readLine_of_stream hother]
    have hread := h.onSource hinput hother none Source.takeLine
    exact ⟨congrArg (Option.getD · []) hread.1, hread.2⟩

theorem streamRead (h : t.Alike other) {stream stream' : Nat} (hinput : t.input = some stream)
    (hother : other.input = some stream')
    (size : Int) :
    (t.streamRead stream size).1 = (other.streamRead stream' size).1 ∧
      (t.streamRead stream size).2.Alike (other.streamRead stream' size).2 := by
  rw [Terminal.streamRead, Terminal.streamRead]
  by_cases hsize : 0 ≤ size
  · rw [if_pos hsize, if_pos hsize, Terminal.streamReadLine, Terminal.streamReadLine,
      if_pos hsize, if_pos hsize]
    have hread := h.onSource hinput hother none (·.takeChars size)
    exact ⟨congrArg (Option.getD · []) hread.1, hread.2⟩
  · rw [if_neg hsize, if_neg hsize]
    exact h.onSource hinput hother [] Source.takeAll

theorem read (h : t.Alike other) (size : Int) :
    (t.read size).1 = (other.read size).1 ∧ (t.read size).2.Alike (other.read size).2 := by
  rcases h.input_cases with ⟨hinput, hother⟩ | ⟨stream, stream', hinput, hother⟩
  · rw [read_of_typed hinput, read_of_typed hother, h.typed]
    split
    · exact ⟨rfl, h.typing hinput hother _⟩
    · exact ⟨rfl, h.typing hinput hother []⟩
  · rw [read_of_stream hinput, read_of_stream hother]
    exact h.streamRead hinput hother size

theorem ask (h : t.Alike other) (text : Text) :
    (t.ask text).1 = (other.ask text).1 ∧ (t.ask text).2.Alike (other.ask text).2 := by
  obtain ⟨hline, hafter⟩ := (h.write .screen text).readLine
  rw [Terminal.ask, Terminal.ask]
  simp only [hline]
  split
  · exact ⟨rfl, hafter⟩
  · exact ⟨rfl, hafter⟩

theorem promptTerminal (h : t.Alike other) (text : Text) :
    (t.promptTerminal text).1 = (other.promptTerminal text).1 ∧
      (t.promptTerminal text).2.Alike (other.promptTerminal text).2 := by
  obtain ⟨hline, hafter⟩ := (h.write .screen text).readLine
  rw [Terminal.promptTerminal, Terminal.promptTerminal]
  simp only [hline]
  split
  · exact ⟨rfl, hafter⟩
  · exact ⟨rfl, hafter⟩

theorem streamPrompt (h : t.Alike other) {stream stream' : Nat} (hinput : t.input = some stream)
    (hother : other.input = some stream')
    (text : Text) :
    (t.streamPrompt stream text).1 = (other.streamPrompt stream' text).1 ∧
      (t.streamPrompt stream text).2.Alike (other.streamPrompt stream' text).2 := by
  rw [Terminal.streamPrompt, Terminal.streamPrompt]
  by_cases hempty : text.isEmpty = true
  · rw [if_pos hempty, if_pos hempty]
    have hread := h.onSource hinput hother none Source.takeLine
    exact ⟨congrArg (Option.map List.dropLast) hread.1, hread.2⟩
  · rw [if_neg hempty, if_neg hempty]
    have hread := (h.streamWrite stream stream' text).onSource
      ((input_of_installed (streamWrite_moves t stream text).installed).trans hinput)
      ((input_of_installed (streamWrite_moves other stream' text).installed).trans hother)
      none Source.takeLine
    exact ⟨congrArg (Option.map List.dropLast) hread.1, hread.2⟩

theorem prompt (h : t.Alike other) (text : Text) :
    (t.prompt text).1 = (other.prompt text).1 ∧
      (t.prompt text).2.Alike (other.prompt text).2 := by
  rcases h.input_cases with ⟨hinput, hother⟩ | ⟨stream, stream', hinput, hother⟩
  · rw [prompt_of_typed (h.active.trans hinput), prompt_of_typed (h.active_other.trans hother)]
    exact h.promptTerminal text
  · rw [prompt_of_stream (h.active.trans hinput), prompt_of_stream (h.active_other.trans hother)]
    exact h.streamPrompt hinput hother text

end Alike

/-- No scripted input is in force. -/
def Idle (t : Terminal) : Prop := t.installed = (false, none, none)

theorem Idle.locked (h : t.Idle) : t.locked = false := congrArg (·.1) h

theorem Idle.active (h : t.Idle) : t.active = none := congrArg (·.2.1) h

theorem Idle.input (h : t.Idle) : t.input = none := congrArg (·.2.2) h

theorem Idle.of_moves (h : t.Idle) {after : Terminal} (hmoves : Moves t after) : after.Idle :=
  hmoves.installed.trans h

theorem Idle.alike (h : t.Idle) (hother : other.Idle) (htyped : t.typed = other.typed) :
    t.Alike other where
  typed := htyped
  locked := h.locked.trans hother.locked.symm
  active := h.active.trans h.input.symm
  active_other := hother.active.trans hother.input.symm
  current := by simp [current, h.input, hother.input]

end Terminal

end CommandShell
