import CommandShell.Proofs.Shell.Evolution

/-!
# What reading takes from a terminal

Reading and printing leave alone which scripted input is in force, and take nothing from the
terminal's own input while some is. No source ever has more to give than before, and a line that is
taken is one line less to take.
-/

namespace CommandShell

namespace Source

variable {s : Source}

theorem unread_takeLine_le (s : Source) : s.takeLine.2.unread ≤ s.unread := by
  rw [takeLine]
  split
  · exact Nat.le_refl _
  · next hstopped =>
    split
    · exact Nat.le_refl _
    · next hrest => simp [unread, hrest, hstopped]

theorem unread_takeLine_lt {line : Text} {after : Source} (h : s.takeLine = (some line, after)) :
    after.unread < s.unread := by
  rw [takeLine] at h
  split at h
  · cases h
  · next hstopped =>
    split at h
    · cases h
    · next hrest =>
      obtain ⟨-, rfl⟩ := Prod.mk.inj h
      simp [unread, hrest, hstopped]

theorem unread_takeChars_le (s : Source) (count : Int) :
    (s.takeChars count).2.unread ≤ s.unread := by
  rw [takeChars]
  split
  · exact Nat.le_refl _
  · next hstopped =>
    split
    · exact Nat.le_refl _
    · next hrest =>
      split
      · exact Nat.le_refl _
      · simp only
        split <;> simp [unread, hrest, hstopped]

theorem unread_takeAll_le (s : Source) : s.takeAll.2.unread ≤ s.unread := by
  rw [takeAll]
  split
  · exact Nat.le_refl _
  · simp [unread]

end Source

namespace Terminal

/-- How many more lines a stream can answer with. -/
def unreadAt (t : Terminal) (stream : Nat) : Nat :=
  (t.streams[stream]?.map (·.source.unread)).getD 0

/-- Whether scripted input is in force, and which streams serve prompts and standard input. -/
def installed (t : Terminal) : Bool × Option Nat × Option Nat := (t.locked, t.active, t.input)

/-- The terminal after some reading and printing. -/
structure Moves (t after : Terminal) : Prop where
  installed : after.installed = t.installed
  scripted : t.input ≠ none → after.typed = t.typed
  typed : after.typed.length ≤ t.typed.length
  streams : ∀ stream, after.unreadAt stream ≤ t.unreadAt stream

variable {t mid after : Terminal}

theorem input_of_installed (h : after.installed = t.installed) : after.input = t.input :=
  congrArg (·.2.2) h

theorem active_of_installed (h : after.installed = t.installed) : after.active = t.active :=
  congrArg (·.2.1) h

namespace Moves

theorem refl (t : Terminal) : Moves t t :=
  ⟨rfl, fun _ => rfl, Nat.le_refl _, fun _ => Nat.le_refl _⟩

theorem trans (h : Moves t mid) (h' : Moves mid after) : Moves t after where
  installed := h'.installed.trans h.installed
  scripted := by
    intro hinput
    have hmid : mid.input ≠ none := by rwa [input_of_installed h.installed]
    rw [h'.scripted hmid, h.scripted hinput]
  typed := Nat.le_trans h'.typed h.typed
  streams := fun stream => Nat.le_trans (h'.streams stream) (h.streams stream)

end Moves

theorem write_moves (t : Terminal) (outlet : Outlet) (text : Text) :
    Moves t (t.write outlet text) := by
  cases outlet <;> exact ⟨rfl, fun _ => rfl, Nat.le_refl _, fun _ => Nat.le_refl _⟩

theorem onSource_of_some {stream : Nat} {s : Stream} {missing : α} {operation : Source → α × Source}
    (h : t.streams[stream]? = some s) :
    t.onSource stream missing operation = ((operation s.source).1,
      { t with streams := t.streams.set stream { s with source := (operation s.source).2 } }) := by
  rw [onSource, h]

theorem onSource_moves (t : Terminal) (stream : Nat) (missing : α) {operation : Source → α × Source}
    (h : ∀ s, (operation s).2.unread ≤ s.unread) :
    Moves t (t.onSource stream missing operation).2 := by
  rw [onSource]
  split
  · exact .refl t
  · next s hs =>
    refine ⟨rfl, fun _ => rfl, Nat.le_refl _, ?_⟩
    intro i
    simp only [unreadAt, List.getElem?_set]
    split
    · next hi =>
      subst hi
      split
      · simpa [hs] using h s.source
      · simp
    · exact Nat.le_refl _

/-! ## Where a read goes -/

theorem readLine_of_typed (h : t.input = none) :
    t.readLine = (t.typed.takeLine.1, { t with typed := t.typed.takeLine.2 }) := by
  rw [readLine, h]

theorem readLine_of_stream {stream : Nat} (h : t.input = some stream) :
    t.readLine = (((t.onSource stream none Source.takeLine).1).getD [],
      (t.onSource stream none Source.takeLine).2) := by
  rw [readLine, h]
  rfl

theorem read_of_typed (h : t.input = none) (size : Int) :
    t.read size =
      if 0 ≤ size then (t.typed.take size.toNat, { t with typed := t.typed.drop size.toNat })
      else (t.typed, { t with typed := [] }) := by
  rw [read, h]

theorem read_of_stream {stream : Nat} (h : t.input = some stream) (size : Int) :
    t.read size = t.streamRead stream size := by
  rw [read, h]

theorem prompt_of_typed (h : t.active = none) (text : Text) :
    t.prompt text = t.promptTerminal text := by
  rw [prompt, h]

theorem prompt_of_stream {stream : Nat} (h : t.active = some stream) (text : Text) :
    t.prompt text = t.streamPrompt stream text := by
  rw [prompt, h]

/-! ## Moving -/

theorem streamWrite_moves (t : Terminal) (stream : Nat) (text : Text) :
    Moves t (t.streamWrite stream text) := by
  rw [streamWrite]
  split
  · exact .refl t
  · split
    · exact .refl t
    · exact write_moves t _ text

theorem streamReadLine_moves (t : Terminal) (stream : Nat) (size : Int) :
    Moves t (t.streamReadLine stream size).2 := by
  rw [streamReadLine]
  by_cases hsize : 0 ≤ size
  · rw [if_pos hsize]
    exact onSource_moves t stream none (Source.unread_takeChars_le · size)
  · rw [if_neg hsize]
    exact onSource_moves t stream none Source.unread_takeLine_le

theorem streamRead_moves (t : Terminal) (stream : Nat) (size : Int) :
    Moves t (t.streamRead stream size).2 := by
  rw [streamRead]
  split
  · exact streamReadLine_moves t stream size
  · exact onSource_moves t stream [] Source.unread_takeAll_le

theorem streamPrompt_moves (t : Terminal) (stream : Nat) (text : Text) :
    Moves t (t.streamPrompt stream text).2 := by
  rw [streamPrompt]
  by_cases hempty : text.isEmpty = true
  · rw [if_pos hempty]
    exact onSource_moves t stream none Source.unread_takeLine_le
  · rw [if_neg hempty]
    exact (streamWrite_moves t stream text).trans
      (onSource_moves _ stream none Source.unread_takeLine_le)

theorem length_takeLine (text : Text) :
    text.takeLine.1.length + text.takeLine.2.length = text.length := by
  induction text with
  | nil => rfl
  | cons c rest ih =>
    rw [Text.takeLine]
    split
    · simp
      omega
    · simp only [List.length_cons]
      omega

/-- Taking from the terminal's own input, when that is standard input. -/
theorem typed_moves {typed : Text} (hinput : t.input = none)
    (h : typed.length ≤ t.typed.length) : Moves t { t with typed } :=
  ⟨rfl, fun hsome => absurd hinput hsome, h, fun _ => Nat.le_refl _⟩

theorem readLine_moves (t : Terminal) : Moves t t.readLine.2 := by
  rw [readLine]
  split
  · exact streamReadLine_moves t _ (-1)
  · next hinput =>
    have hlength := length_takeLine t.typed
    exact typed_moves hinput (by omega)

theorem read_moves (t : Terminal) (size : Int) : Moves t (t.read size).2 := by
  rw [read]
  split
  · exact streamRead_moves t _ size
  · next hinput =>
    split
    · exact typed_moves hinput (by simp)
    · exact typed_moves hinput (by simp)

theorem promptTerminal_moves (t : Terminal) (text : Text) : Moves t (t.promptTerminal text).2 := by
  have hread := (write_moves t .screen text).trans (readLine_moves _)
  rw [promptTerminal]
  simp only
  split <;> exact hread

theorem ask_moves (t : Terminal) (text : Text) : Moves t (t.ask text).2 := by
  have hread := (write_moves t .screen text).trans (readLine_moves _)
  rw [ask]
  simp only
  split <;> exact hread

theorem prompt_moves (t : Terminal) (text : Text) : Moves t (t.prompt text).2 := by
  rw [prompt]
  split
  · exact streamPrompt_moves t _ text
  · exact promptTerminal_moves t text

theorem Step.moves (h : Step t after) : Moves t after := by
  cases h with
  | print text => exact write_moves t .screen _
  | prompt text => exact prompt_moves t text
  | ask text => exact ask_moves t text
  | promptTerminal text => exact promptTerminal_moves t text
  | readLine => exact readLine_moves t
  | read size => exact read_moves t size

/-! ## What is left to read -/

theorem unreadLines_le {xs ys : List Stream}
    (h : ∀ i : Nat, (xs[i]?.map (·.source.unread)).getD 0 ≤ (ys[i]?.map (·.source.unread)).getD 0) :
    unreadLines xs ≤ unreadLines ys := by
  induction xs generalizing ys with
  | nil => exact Nat.zero_le _
  | cons x xs ih =>
    have hhead : x.source.unread ≤ (ys[0]?.map (·.source.unread)).getD 0 := h 0
    cases ys with
    | nil =>
      have htail : unreadLines xs ≤ unreadLines [] := ih fun i => h (i + 1)
      simp only [unreadLines, List.getElem?_nil, Option.map_none, Option.getD_none] at *
      omega
    | cons y ys =>
      have htail : unreadLines xs ≤ unreadLines ys := ih fun i => h (i + 1)
      simp only [unreadLines, List.getElem?_cons_zero, Option.map_some, Option.getD_some] at *
      omega

theorem Moves.unread_le (h : Moves t after) : after.unread ≤ t.unread :=
  Nat.add_le_add h.typed (unreadLines_le h.streams)

theorem unreadLines_set {streams : List Stream} {stream : Nat} {s : Stream} (source : Source)
    (h : streams[stream]? = some s) :
    unreadLines (streams.set stream { s with source }) + s.source.unread =
      unreadLines streams + source.unread := by
  induction streams generalizing stream with
  | nil => cases h
  | cons first streams ih =>
    cases stream with
    | zero =>
      obtain rfl : first = s := Option.some.inj h
      simp only [List.set_cons_zero, unreadLines]
      omega
    | succ stream =>
      have htail : unreadLines (streams.set stream _) + _ = unreadLines streams + _ := ih h
      simp only [List.set_cons_succ, unreadLines]
      omega

theorem onSource_takeLine_lt (stream : Nat)
    (h : (t.onSource stream none Source.takeLine).1 ≠ none) :
    (t.onSource stream none Source.takeLine).2.unread < t.unread := by
  cases hs : t.streams[stream]? with
  | none => simp [onSource, hs] at h
  | some s =>
    rw [onSource_of_some hs] at h ⊢
    obtain ⟨line, hline⟩ := Option.ne_none_iff_exists'.1 h
    have hless : s.source.takeLine.2.unread < s.source.unread :=
      Source.unread_takeLine_lt (Prod.ext hline rfl)
    have hset := unreadLines_set s.source.takeLine.2 hs
    change t.typed.length + unreadLines (t.streams.set stream _) < t.typed.length + _
    omega

theorem readLine_lt (h : t.readLine.1 ≠ []) : t.readLine.2.unread < t.unread := by
  cases hinput : t.input with
  | some stream =>
    rw [readLine_of_stream hinput] at h ⊢
    apply onSource_takeLine_lt stream
    intro hnone
    exact h (by rw [hnone]; rfl)
  | none =>
    rw [readLine_of_typed hinput] at h ⊢
    have hlength := length_takeLine t.typed
    have hpos : 0 < t.typed.takeLine.1.length := List.length_pos_of_ne_nil h
    change t.typed.takeLine.2.length + unreadLines t.streams < t.typed.length + _
    omega

theorem promptTerminal_lt {text : Text} (h : (t.promptTerminal text).1 ≠ none) :
    (t.promptTerminal text).2.unread < t.unread := by
  have hwritten := (write_moves t .screen text).unread_le
  rw [promptTerminal] at h ⊢
  simp only at h ⊢
  split at h
  · exact absurd rfl h
  · next hraw =>
    have hless := readLine_lt (t := t.write .screen text) (by simpa using hraw)
    rw [if_neg hraw]
    exact Nat.lt_of_lt_of_le hless hwritten

theorem streamPrompt_lt {stream : Nat} {text : Text} (h : (t.streamPrompt stream text).1 ≠ none) :
    (t.streamPrompt stream text).2.unread < t.unread := by
  have hwritten : (if text.isEmpty then t else t.streamWrite stream text).unread ≤ t.unread := by
    split
    · exact Nat.le_refl _
    · exact (streamWrite_moves t stream text).unread_le
  apply Nat.lt_of_lt_of_le (onSource_takeLine_lt stream ?_) hwritten
  intro hnone
  rw [streamPrompt] at h
  exact h (congrArg (Option.map List.dropLast) hnone)

/-- A prompt that is answered leaves less to read. -/
theorem prompt_lt {text : Text} (h : (t.prompt text).1 ≠ none) :
    (t.prompt text).2.unread < t.unread := by
  cases hactive : t.active with
  | some stream =>
    rw [prompt_of_stream hactive] at h ⊢
    exact streamPrompt_lt h
  | none =>
    rw [prompt_of_typed hactive] at h ⊢
    exact promptTerminal_lt h

/-! ## Scripted input that comes and goes -/

theorem unreadAt_remove (t : Terminal) (i : Installation) (stream : Nat) :
    (t.remove i).unreadAt stream = if stream = i.stream then 0 else t.unreadAt stream := by
  rw [remove, onSource]
  split
  · next hmissing =>
    split
    · next heq => simp [unreadAt, heq, hmissing]
    · rfl
  · next s hs =>
    simp only [unreadAt, List.getElem?_set]
    by_cases heq : stream = i.stream
    · subst heq
      rw [if_pos rfl, if_pos rfl]
      split <;> simp [Source.stop, Source.unread]
    · rw [if_neg heq, if_neg (Ne.symm heq)]

theorem install_eq_ok {lines : List Text} {outlet : Outlet} {i : Installation}
    (h : t.install lines outlet = .ok (i, mid)) :
    t.locked = false ∧ i = ⟨t.streams.length, t.active, t.input⟩ ∧
      mid = { t with
        streams := t.streams ++ [⟨.ofLines lines, outlet⟩]
        locked := true
        active := some t.streams.length
        input := some t.streams.length } := by
  rw [install] at h
  split at h
  · cases h
  · next hlocked =>
    obtain ⟨rfl, rfl⟩ := Prod.mk.inj (Except.ok.inj h)
    exact ⟨Bool.eq_false_iff.2 hlocked, rfl, rfl⟩

theorem typed_remove (t : Terminal) (i : Installation) : (t.remove i).typed = t.typed := by
  rw [remove, onSource]
  split <;> rfl

theorem installed_remove (t : Terminal) (i : Installation) :
    (t.remove i).installed = (false, i.displacedActive, i.displacedInput) := rfl

/-- A stretch of scripted input moves the terminal as reading does, and takes nothing typed. -/
theorem scripted_moves {lines : List Text} {outlet : Outlet} {i : Installation}
    (hinstall : t.install lines outlet = .ok (i, mid)) (h : Moves mid after) :
    Moves t (after.remove i) ∧ (after.remove i).typed = t.typed := by
  obtain ⟨hlocked, rfl, rfl⟩ := install_eq_ok hinstall
  have htyped : (after.remove ⟨t.streams.length, t.active, t.input⟩).typed = t.typed := by
    rw [typed_remove, h.scripted (by simp)]
  refine ⟨⟨?_, fun _ => htyped, Nat.le_of_eq (congrArg List.length htyped), ?_⟩, htyped⟩
  · rw [installed_remove, installed, hlocked]
  · intro stream
    rw [unreadAt_remove]
    split
    · exact Nat.zero_le _
    · next hother =>
      -- the installed stream is the last one, and every other was there before
      have hbefore : (t.streams ++ [⟨.ofLines lines, outlet⟩])[stream]?.map (·.source.unread) =
          t.streams[stream]?.map (·.source.unread) := by
        by_cases hlt : stream < t.streams.length
        · rw [List.getElem?_append_left hlt]
        · simp only at hother
          rw [List.getElem?_eq_none (by simp; omega), List.getElem?_eq_none (by omega)]
      have hmoved := h.streams stream
      rw [unreadAt, unreadAt, hbefore] at hmoved
      exact hmoved

end Terminal

/-- Whatever becomes of a session, its terminal is moved as reading moves it. -/
theorem Session.Evolves.moves {s after : Session} (h : s.Evolves after) :
    Terminal.Moves s.terminal after.terminal := by
  induction h with
  | refl s => exact .refl _
  | trans _ _ ih ih' => exact ih.trans ih'
  | terminal hstep => exact hstep.moves
  | heard s line => exact .refl _
  | recorded s line => exact .refl _
  | flushed s => exact .refl _
  | noted s e => exact .refl _
  | interacting s on => exact .refl _
  | scripted hinstall _ ih => exact (Terminal.scripted_moves hinstall ih).1

end CommandShell
