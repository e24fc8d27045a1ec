import CommandShell.Proofs.Command.Requests
import CommandShell.Proofs.Input.Terminal
import CommandShell.Proofs.Text.Parts
import CommandShell.Proofs.Text.ScriptLines

/-!
# The lines to come

The lines that standard input has yet to give are those of the stream that was installed, or else
those of the terminal's own input. When prompts are served from the same place, all ways to read a
line take the first of them.
-/

namespace CommandShell

/-! ## Lines of a typed text -/

namespace Text

/-- The lines of a typed text with their line feeds, which the last may lack. -/
def inputLines : Text → List Text
  | [] => []
  | c :: rest => if c = '\n' then ['\n'] :: inputLines rest else consFirst c (inputLines rest)

/-- A line without the line feed at its end. -/
def chomp (line : Text) : Text :=
  if line.getLast? = some '\n' then line.dropLast else line

/-- A line as it is read: it is not empty, and nothing follows a line feed. -/
structure IsInputLine (line : Text) : Prop where
  nonempty : line ≠ []
  unbroken : '\n' ∉ line.dropLast

theorem IsInputLine.singleton (c : Char) : IsInputLine [c] := ⟨by simp, by simp⟩

theorem IsInputLine.cons {c : Char} {line : Text} (hc : c ≠ '\n') (h : line.IsInputLine) :
    IsInputLine (c :: line) := by
  refine ⟨by simp, ?_⟩
  rw [List.dropLast_cons_of_ne_nil h.nonempty, List.mem_cons, not_or]
  exact ⟨hc.symm, h.unbroken⟩

theorem isInputLine_of_mem {t line : Text} (h : line ∈ t.inputLines) : line.IsInputLine := by
  induction t generalizing line with
  | nil => simp [inputLines] at h
  | cons c rest ih =>
    rw [inputLines] at h
    split at h
    · rcases List.mem_cons.1 h with rfl | h
      · exact .singleton _
      · exact ih h
    · next hc =>
      rcases mem_consFirst h with rfl | ⟨first, hfirst, rfl⟩ | h
      · exact .singleton c
      · exact (ih hfirst).cons hc
      · exact ih h

/-- A line of scripted input, with the line feed that it is read with. -/
theorem isInputLine_append {line : Text} (h : '\n' ∉ line) : IsInputLine (line ++ ['\n']) :=
  ⟨by simp, by simpa using h⟩

theorem takeLine_eq (t : Text) :
    t.takeLine.1 = t.inputLines.head?.getD [] ∧ t.takeLine.2.inputLines = t.inputLines.tail := by
  induction t with
  | nil => exact ⟨rfl, rfl⟩
  | cons c rest ih =>
    rw [takeLine, inputLines]
    split
    · exact ⟨rfl, rfl⟩
    · obtain ⟨hfirst, hrest⟩ := ih
      simp only [hfirst, hrest]
      cases inputLines rest with
      | nil => exact ⟨rfl, rfl⟩
      | cons line lines => exact ⟨rfl, rfl⟩

theorem chomp_append (line : Text) : chomp (line ++ ['\n']) = line := by
  simp [chomp]

/-- Of a line as it is read, dropping all line feeds at its end drops at most one. -/
theorem IsInputLine.dropEnd_eq {line : Text} (h : line.IsInputLine) :
    line.dropEnd (· == '\n') = line.chomp := by
  by_cases hlast : line.getLast? = some '\n'
  · obtain ⟨front, hline⟩ := List.getLast?_eq_some_iff.1 hlast
    subst hline
    have hfront : '\n' ∉ front := by simpa using h.unbroken
    rw [chomp_append]
    have hdrop : dropEnd (front ++ ['\n']) (· == '\n') = dropEnd front (· == '\n') := by
      simp [dropEnd]
    rw [hdrop]
    apply dropEnd_eq_self
    intro c hc
    have hmem := List.mem_of_getLast? hc
    exact beq_false_of_ne fun he => hfront (he ▸ hmem)
  · rw [chomp, if_neg hlast]
    apply dropEnd_eq_self
    intro c hc
    exact beq_false_of_ne fun he => hlast (he ▸ hc)

/-! ## Texts that are typed as lines -/

/-- Read line by line, the text gives these lines; the last of them may lack its line feed. -/
def Holds (t : Text) (lines : List Text) : Prop := t.inputLines.map chomp = lines

end Text

/-! ## Lines that a terminal has yet to give -/

/-- The lines that a source has yet to give. -/
def Source.lines (s : Source) : List Text :=
  if s.stopped then [] else s.rest.map (· ++ ['\n'])

theorem Source.takeLine_eq (s : Source) :
    s.takeLine.1 = s.lines.head? ∧ s.takeLine.2.lines = s.lines.tail := by
  rw [takeLine, lines]
  split
  · next hstopped => exact ⟨rfl, by rw [lines, if_pos hstopped]; rfl⟩
  · next hstopped =>
    cases hrest : s.rest with
    | nil => exact ⟨rfl, by rw [lines, if_neg hstopped, hrest]; rfl⟩
    | cons line rest => exact ⟨rfl, by rw [lines, if_neg hstopped]; rfl⟩

/-- The lines of a source end with a line feed. -/
theorem Source.chomp_of_mem_lines {s : Source} {line : Text} (h : line ∈ s.lines) :
    line.dropLast = line.chomp := by
  rw [lines] at h
  split at h
  · cases h
  · obtain ⟨front, -, rfl⟩ := List.mem_map.1 h
    rw [Text.chomp_append, List.dropLast_concat]

namespace Terminal

variable {t : Terminal}

/-- The lines that standard input has yet to give. -/
def upcoming (t : Terminal) : List Text :=
  match t.input with
  | none => t.typed.inputLines
  | some stream => (t.streams[stream]?.map (·.source.lines)).getD []

/-- Prompts are served from where standard input comes from, and in lines as they are read. -/
structure ByLines (t : Terminal) : Prop where
  active : t.active = t.input
  lines : ∀ line ∈ t.upcoming, line.IsInputLine

theorem upcoming_write (t : Terminal) (outlet : Outlet) (text : Text) :
    (t.write outlet text).upcoming = t.upcoming := by
  cases outlet <;> rfl

theorem upcoming_streamWrite (t : Terminal) (stream : Nat) (text : Text) :
    (t.streamWrite stream text).upcoming = t.upcoming := by
  rw [streamWrite]
  split
  · rfl
  · split
    · rfl
    · exact upcoming_write t _ text

theorem onSource_takeLine_eq {stream : Nat} (h : t.input = some stream) :
    (t.onSource stream none Source.takeLine).1 = t.upcoming.head? ∧
      (t.onSource stream none Source.takeLine).2.upcoming = t.upcoming.tail := by
  cases hs : t.streams[stream]? with
  | none =>
    have hupcoming : t.upcoming = [] := by rw [upcoming, h]; simp [hs]
    rw [onSource, hs]
    exact ⟨by rw [hupcoming]; rfl, by rw [hupcoming, List.tail_nil]⟩
  | some s =>
    have hupcoming : t.upcoming = s.source.lines := by rw [upcoming, h]; simp [hs]
    obtain ⟨hfirst, hrest⟩ := Source.takeLine_eq s.source
    rw [onSource_of_some hs, hupcoming]
    refine ⟨hfirst, ?_⟩
    obtain ⟨hlt, -⟩ := List.getElem?_eq_some_iff.1 hs
    rw [← hrest, upcoming]
    simp [h, hlt]

theorem readLine_eq (t : Terminal) :
    t.readLine.1 = t.upcoming.head?.getD [] ∧ t.readLine.2.upcoming = t.upcoming.tail := by
  cases hinput : t.input with
  | some stream =>
    obtain ⟨hfirst, hrest⟩ := onSource_takeLine_eq hinput
    rw [readLine_of_stream hinput, ← hfirst, ← hrest]
    exact ⟨rfl, rfl⟩
  | none =>
    obtain ⟨hfirst, hrest⟩ := Text.takeLine_eq t.typed
    have hupcoming : t.upcoming = t.typed.inputLines := by rw [upcoming, hinput]
    rw [readLine_of_typed hinput, hupcoming]
    refine ⟨hfirst, ?_⟩
    rw [← hrest, upcoming]
    simp [hinput]

/-- A line is empty only at the end of input. -/
theorem ByLines.isEmpty_eq (h : t.ByLines) :
    (t.upcoming.head?.getD []).isEmpty = t.upcoming.head?.isNone := by
  cases hupcoming : t.upcoming with
  | nil => rfl
  | cons line lines =>
    have hline := h.lines line (by rw [hupcoming]; exact List.mem_cons_self)
    simpa using hline.nonempty

theorem ask_eq (h : t.ByLines) (text : Text) :
    (t.ask text).1 = t.upcoming.head?.map Text.chomp ∧
      (t.ask text).2.upcoming = t.upcoming.tail := by
  obtain ⟨hfirst, hrest⟩ := readLine_eq (t.write .screen text)
  rw [upcoming_write] at hfirst hrest
  have hempty := h.isEmpty_eq
  rw [ask]
  simp only [hfirst, hempty]
  cases hhead : t.upcoming.head? with
  | none => exact ⟨rfl, hrest⟩
  | some line => exact ⟨rfl, hrest⟩

theorem promptTerminal_eq (h : t.ByLines) (text : Text) :
    (t.promptTerminal text).1 = t.upcoming.head?.map Text.chomp ∧
      (t.promptTerminal text).2.upcoming = t.upcoming.tail := by
  obtain ⟨hfirst, hrest⟩ := readLine_eq (t.write .screen text)
  rw [upcoming_write] at hfirst hrest
  have hempty := h.isEmpty_eq
  rw [promptTerminal]
  simp only [hfirst, hempty]
  cases hhead : t.upcoming.head? with
  | none => exact ⟨rfl, hrest⟩
  | some line =>
    have hline := h.lines line (List.mem_of_mem_head? hhead)
    exact ⟨congrArg some hline.dropEnd_eq, hrest⟩

theorem streamPrompt_eq {stream : Nat} (hinput : t.input = some stream) (text : Text) :
    (t.streamPrompt stream text).1 = t.upcoming.head?.map Text.chomp ∧
      (t.streamPrompt stream text).2.upcoming = t.upcoming.tail := by
  have hwritten : ∃ shown : Terminal, shown.input = t.input ∧ shown.upcoming = t.upcoming ∧
      t.streamPrompt stream text =
        ((shown.onSource stream none Source.takeLine).1.map List.dropLast,
          (shown.onSource stream none Source.takeLine).2) := by
    by_cases hempty : text.isEmpty = true
    · exact ⟨t, rfl, rfl, by rw [streamPrompt, if_pos hempty]⟩
    · refine ⟨t.streamWrite stream text, ?_, upcoming_streamWrite t stream text, ?_⟩
      · exact input_of_installed (streamWrite_moves t stream text).installed
      · rw [streamPrompt, if_neg hempty]
  obtain ⟨shown, hshown, hupcoming, hprompt⟩ := hwritten
  obtain ⟨hfirst, hrest⟩ := onSource_takeLine_eq (hshown.trans hinput)
  rw [hprompt, hfirst, hrest, hupcoming]
  refine ⟨?_, rfl⟩
  cases hhead : t.upcoming.head? with
  | none => rfl
  | some line =>
    have hline := List.mem_of_mem_head? hhead
    rw [upcoming, hinput] at hline
    cases hs : t.streams[stream]? with
    | none => simp [hs] at hline
    | some s =>
      simp only [hs, Option.map_some, Option.getD_some] at hline
      exact congrArg some (Source.chomp_of_mem_lines hline)

theorem prompt_eq (h : t.ByLines) (text : Text) :
    (t.prompt text).1 = t.upcoming.head?.map Text.chomp ∧
      (t.prompt text).2.upcoming = t.upcoming.tail := by
  cases hinput : t.input with
  | none =>
    rw [prompt_of_typed (h.active.trans hinput)]
    exact promptTerminal_eq h text
  | some stream =>
    rw [prompt_of_stream (h.active.trans hinput)]
    exact streamPrompt_eq hinput text

/-! ## A terminal whose own input is read -/

variable {lines : List Text}

/-- The lines are what is left to be typed, and no scripted input is in force. -/
structure Offers (t : Terminal) (lines : List Text) : Prop where
  active : t.active = none
  input : t.input = none
  typed : t.typed.Holds lines

theorem Offers.byLines (h : t.Offers lines) : t.ByLines := by
  refine ⟨h.active.trans h.input.symm, ?_⟩
  rw [upcoming, h.input]
  exact fun line hline => Text.isInputLine_of_mem hline

/-- A prompt takes the first of the lines. -/
theorem Offers.prompt_eq (h : t.Offers lines) (text : Text) :
    t.prompt text = (lines.head?,
      { t with screen := t.screen ++ [text], typed := t.typed.takeLine.2 }) := by
  refine Prod.ext ?_ ?_
  · rw [(Terminal.prompt_eq h.byLines text).1, upcoming, h.input, ← List.head?_map, h.typed]
  · have hread : (t.write .screen text).readLine = (t.typed.takeLine.1,
      { t with screen := t.screen ++ [text], typed := t.typed.takeLine.2 }) :=
        readLine_of_typed h.input
    rw [prompt_of_typed h.active, promptTerminal, hread]
    simp only
    split <;> rfl

theorem Offers.tail (h : t.Offers lines) (screen : List Text) :
    Terminal.Offers { t with screen, typed := t.typed.takeLine.2 } lines.tail := by
  refine ⟨h.active, h.input, ?_⟩
  change (Text.inputLines t.typed.takeLine.2).map Text.chomp = lines.tail
  rw [(Text.takeLine_eq t.typed).2, List.map_tail, h.typed]

end Terminal

end CommandShell
