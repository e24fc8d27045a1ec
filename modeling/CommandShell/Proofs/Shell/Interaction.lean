import CommandShell.Command.Builtin
import CommandShell.Proofs.Input.Terminal
import CommandShell.Proofs.Shell.Guard

/-!
# What the loop comes to

The loop reads a line, evaluates it and prints the outcome, until a line asks to leave or the input
ends. Nothing that a command or a formatter does keeps it from the next line, and it comes to its
end if the commands that it calls do. It is interactive while it evaluates a line unless a command
has run the loop anew before: the end of that one ends the interaction of the other too.
-/

namespace CommandShell

/-- A line that the loop reads, in the session that has read it, and what evaluating it comes to. -/
structure Turn where
  line : Text
  heard : Session
  outcome : Outcome
  evaluated : Session

namespace Turn

/-- Whether the line asks to leave. -/
def Quits (t : Turn) : Prop := t.line.strip ∈ Verb.quit.spellings

/-- The line was read in the session and evaluated. -/
structure Of (shell : Shell) (s : Session) (t : Turn) : Prop where
  read : shell.readInput s = (some t.line, t.heard)
  evaluates : shell.Evaluates t.line t.heard t.outcome t.evaluated

/-- The line was evaluated without running the loop anew. -/
def Unlooped (shell : Shell) (t : Turn) : Prop :=
  shell.EvaluatesWhile Shell.unlooped t.line t.heard t.outcome t.evaluated

/-- The session was interactive whenever a request was made. -/
def Attended (shell : Shell) (t : Turn) : Prop :=
  shell.EvaluatesWhile Shell.attended t.line t.heard t.outcome t.evaluated

/-- The session after the outcome was printed. -/
def printed (shell : Shell) (t : Turn) : Session := shell.printOrReport t.outcome t.evaluated

end Turn

namespace Shell

/--
The lines that the loop reads are evaluated one after another, each once, up to the first one that
asks to leave, or else to the end of input.
-/
inductive Interacts (shell : Shell) : Session → List Turn → Session → Prop where
  | ended {s last : Session} : shell.readInput s = (none, last) → Interacts shell s [] last
  | left {s : Session} {t : Turn} : t.Of shell s → t.Quits → Interacts shell s [t] (t.printed shell)
  | next {s last : Session} {t : Turn} {ts : List Turn} : t.Of shell s → ¬ t.Quits →
      Interacts shell (t.printed shell) ts last → Interacts shell s (t :: ts) last

/-- The loop, in the session, comes to evaluate a line. -/
inductive Comes (shell : Shell) : Session → Text → Session → Prop where
  | now {s heard : Session} {line : Text} :
      shell.readInput s = (some line, heard) → Comes shell s line heard
  | later {s heard : Session} {t : Turn} {line : Text} : t.Of shell s → ¬ t.Quits →
      Comes shell (t.printed shell) line heard → Comes shell s line heard

variable {shell : Shell} {answer : Answerer} {s after last : Session} {outcome : Outcome}

/-! ## Leaving -/

theorem isQuit_of_invoke {d : Descriptor} {tokens : List Text}
    (h : shell.invoke answer d tokens s = some (outcome, after)) : outcome.isQuit = false := by
  rw [invoke_eq, Option.map_eq_some_iff] at h
  obtain ⟨⟨result, ended⟩, -, hended⟩ := h
  obtain ⟨rfl, -⟩ := Prod.mk.inj hended
  cases result <;> rfl

theorem isQuit_of_dispatch {tokens : List Text}
    (h : shell.dispatch answer tokens s = some (outcome, after)) : outcome.isQuit = false := by
  cases tokens with
  | nil =>
    obtain ⟨rfl, -⟩ := Prod.mk.inj (Option.some.inj h)
    rfl
  | cons token rest =>
    rw [dispatch] at h
    split at h
    · exact isQuit_of_invoke h
    · obtain ⟨rfl, -⟩ := Prod.mk.inj (Option.some.inj h)
      rfl
    · obtain ⟨rfl, -⟩ := Prod.mk.inj (Option.some.inj h)
      rfl

/-- Only a line that spells the wish to leave has it as its outcome. -/
theorem isQuit_iff {line : Text} (h : shell.evaluateLine answer line s = some (outcome, after)) :
    outcome.isQuit = true ↔ line.strip ∈ Verb.quit.spellings := by
  have hverb : shell.reading line.strip = .verb .quit ↔ line.strip ∈ Verb.quit.spellings :=
    reading_eq_verb_iff
  rw [← hverb]
  rw [evaluateLine] at h
  by_cases hblank : line.strip = []
  · rw [if_pos (by simpa using hblank)] at h
    obtain ⟨rfl, -⟩ := Prod.mk.inj (Option.some.inj h)
    rw [reading_eq_verb_iff, hblank]
    decide
  · rw [if_neg (by simpa using hblank)] at h
    cases hreading : shell.reading line.strip with
    | verb v =>
      simp only [hreading] at h
      obtain ⟨rfl, -⟩ := Prod.mk.inj (Option.some.inj h)
      cases v <;> simp [obey, Outcome.isQuit]
    | members names =>
      simp only [hreading] at h
      obtain ⟨rfl, -⟩ := Prod.mk.inj (Option.some.inj h)
      simp [Outcome.isQuit]
    | command =>
      simp only [hreading] at h
      simp [isQuit_of_dispatch h]

/-! ## Coming to an end -/

/-- An input evaluates to an outcome if the command that it calls, if any, comes to an end. -/
theorem exists_evaluate {input : Input}
    (h : ∀ d tokens, shell.decision input = .call d tokens → ∃ depth ended,
      shell.execute depth (d.handler ⟨d.name, tokens, shell.settings⟩)
        ((shell.taken input s).note (.ran d.name tokens)) = some ended) :
    ∃ depth outcome after, shell.evaluate depth input s = some (outcome, after) := by
  cases hdecision : shell.decision input with
  | answer given =>
    refine ⟨0, given, shell.taken input s, ?_⟩
    rw [evaluate, evaluateInput_eq, hdecision, carryOut]
  | call d tokens =>
    obtain ⟨depth, ⟨result, after⟩, hrun⟩ := h d tokens hdecision
    rw [execute] at hrun
    refine ⟨depth, shell.concluded d.name result, after, ?_⟩
    rw [evaluate, evaluateInput_eq, hdecision, carryOut, invoke_eq, hrun]
    rfl

theorem exists_evaluates {line : Text}
    (h : ∀ d tokens, shell.decision (.line line) = .call d tokens → ∃ depth ended,
      shell.execute depth (d.handler ⟨d.name, tokens, shell.settings⟩)
        ((shell.taken (.line line) s).note (.ran d.name tokens)) = some ended) :
    ∃ outcome after, shell.Evaluates line s outcome after := by
  obtain ⟨depth, outcome, after, hrun⟩ := exists_evaluate h
  exact ⟨outcome, after, depth, hrun⟩

/-- A turn leaves less to read than there was. -/
theorem unread_printed_lt {t : Turn} (h : t.Of shell s) :
    (t.printed shell).terminal.unread < s.terminal.unread := by
  obtain ⟨depth, hrun⟩ := h.evaluates
  have hread : t.heard.terminal.unread < s.terminal.unread := by
    have hheard : t.heard = (shell.readInput s).2 := by rw [h.read]
    rw [hheard]
    apply Terminal.prompt_lt
    have hline : (s.terminal.prompt (shell.promptText s)).1 = some t.line :=
      congrArg Prod.fst h.read
    rw [hline]
    exact Option.some_ne_none _
  have hevaluated := (evaluate_evolves hrun).moves.unread_le
  have hprinted := (printOrReport_evolves shell t.outcome t.evaluated).moves.unread_le
  rw [Turn.printed]
  omega

theorem turns_succ_of_turn {t : Turn} (hturn : t.Of shell s) {depth budget : Nat}
    (hline : shell.evaluate depth (.line t.line) t.heard = some (t.outcome, t.evaluated)) :
    shell.turns (shell.answer depth) (budget + 1) s =
      if t.outcome.isQuit then some (t.printed shell)
      else shell.turns (shell.answer depth) budget (t.printed shell) := by
  have hevaluated : shell.evaluateLine (shell.answer depth) t.line t.heard =
    some (t.outcome, t.evaluated) := hline
  rw [turns, turn, hturn.read]
  simp only [hevaluated]
  cases t.outcome.isQuit <;> rfl

/-- With more turns than there is to read, the loop gets to its end. -/
theorem exists_interacts {budget : Nat} (hbudget : s.terminal.unread < budget)
    (hends : ∀ line heard, shell.Comes s line heard →
      ∃ outcome after, shell.Evaluates line heard outcome after) :
    ∃ ts last depth, shell.Interacts s ts last ∧
      ∀ more, depth ≤ more → shell.turns (shell.answer more) budget s = some last := by
  induction budget generalizing s with
  | zero => omega
  | succ budget ih =>
    cases hread : shell.readInput s with
    | mk read heard =>
      cases read with
      | none =>
        refine ⟨[], heard, 0, .ended hread, ?_⟩
        intro more _
        rw [turns, turn, hread]
      | some line =>
        obtain ⟨outcome, evaluated, hevaluates⟩ := hends line heard (.now hread)
        have hturn : Turn.Of shell s ⟨line, heard, outcome, evaluated⟩ := ⟨hread, hevaluates⟩
        have hless := unread_printed_lt hturn
        obtain ⟨depth, hrun⟩ := hevaluates
        have hquits := isQuit_iff hrun
        by_cases hquit : line.strip ∈ Verb.quit.spellings
        · refine ⟨[_], _, depth, .left hturn hquit, ?_⟩
          intro more hmore
          rw [turns_succ_of_turn hturn (evaluate_mono hmore hrun), if_pos (hquits.2 hquit)]
        · -- a turn leaves less to read, so the turns that are left are enough for the rest
          obtain ⟨ts, last, depth', hrest, hturns⟩ :=
            ih (by omega) fun line heard hcomes => hends line heard (.later hturn hquit hcomes)
          refine ⟨_ :: ts, last, max depth depth', .next hturn hquit hrest, ?_⟩
          intro more hmore
          rw [turns_succ_of_turn hturn (evaluate_mono (by omega) hrun),
            if_neg fun hleft => hquit (hquits.1 hleft)]
          exact hturns more (by omega)

/-- The command that an input called came to an end if the evaluation did. -/
theorem exists_execute_of_evaluate {depth : Nat} {input : Input}
    (h : shell.evaluate depth input s = some (outcome, after)) {d : Descriptor}
    {tokens : List Text} (hdecision : shell.decision input = .call d tokens) :
    ∃ result, shell.execute depth (d.handler ⟨d.name, tokens, shell.settings⟩)
      ((shell.taken input s).note (.ran d.name tokens)) = some (result, after) := by
  rw [evaluate, evaluateInput_eq, hdecision, carryOut] at h
  exact exists_run_of_invoke h

/-- What a loop that got to its end came to evaluate, it evaluated to an outcome. -/
theorem evaluate_of_turns {depth budget : Nat} {line : Text} {heard : Session}
    (hcomes : shell.Comes s line heard)
    (h : shell.turns (shell.answer depth) budget s = some last) :
    ∃ given, shell.evaluate depth (.line line) heard = some given := by
  induction hcomes generalizing budget with
  | @now s heard line hread =>
    cases budget with
    | zero => contradiction
    | succ budget =>
      rw [turns, turn, hread] at h
      cases hline : shell.evaluate depth (.line line) heard with
      | none =>
        have hnone : shell.evaluateLine (shell.answer depth) line heard = none := hline
        simp only [hnone] at h
        contradiction
      | some given => exact ⟨given, rfl⟩
  | @later s heard t line hturn hquit _ ih =>
    cases budget with
    | zero => contradiction
    | succ budget =>
      have hline : shell.evaluate depth (.line t.line) t.heard = some (t.outcome, t.evaluated) := by
        cases hrun : shell.evaluate depth (.line t.line) t.heard with
        | none =>
          rw [turns, turn, hturn.read] at h
          have hline : shell.evaluateLine (shell.answer depth) t.line t.heard = none := hrun
          simp only [hline] at h
          contradiction
        | some given =>
          obtain ⟨hfirst, hsecond⟩ := hturn.evaluates.unique ⟨depth, hrun⟩
          rw [hfirst, hsecond]
      rw [turns_succ_of_turn hturn hline,
        if_neg fun hleft => hquit ((isQuit_iff hline).1 hleft)] at h
      exact ih h

/-- The commands that a loop called come to an end if the loop did. -/
theorem exists_execute_of_loop {depth : Nat} (h : shell.loop (shell.answer depth) s = some after)
    {line : Text} {heard : Session} {d : Descriptor} {tokens : List Text}
    (hcomes : shell.Comes (shell.enter s) line heard)
    (hdecision : shell.decision (.line line) = .call d tokens) :
    ∃ ended, shell.execute depth (d.handler ⟨d.name, tokens, shell.settings⟩)
      ((shell.taken (.line line) heard).note (.ran d.name tokens)) = some ended := by
  rw [loop, Option.map_eq_some_iff] at h
  obtain ⟨last, hturns, -⟩ := h
  obtain ⟨given, hline⟩ := evaluate_of_turns hcomes hturns
  obtain ⟨result, hrun⟩ := exists_execute_of_evaluate hline hdecision
  exact ⟨_, hrun⟩

/-! ## Being interactive -/

/-- An evaluation leaves the session interactive if it found it so and never ran the loop anew. -/
theorem evaluated_interactive_iff {t : Turn} (h : t.Of shell s) :
    t.evaluated.interactive = true ↔ t.heard.interactive = true ∧ t.Unlooped shell := by
  constructor
  · exact h.evaluates.unlooped
  · rintro ⟨hheard, hunlooped⟩
    exact (EvaluatesWhile.attended hunlooped hheard).1

theorem printed_interactive (shell : Shell) (t : Turn) :
    (t.printed shell).interactive = t.evaluated.interactive := by
  obtain ⟨texts, hprinted⟩ := printOrReport_eq shell t.outcome t.evaluated
  rw [Turn.printed, hprinted, Session.shown_eq]
  rfl

theorem heard_interactive {t : Turn} (h : t.Of shell s) :
    t.heard.interactive = s.interactive :=
  congrArg (·.2.interactive) h.read.symm

/-- A turn of the loop begins interactive if the loop did and no turn before ran it anew. -/
theorem Interacts.interactive_iff {ts : List Turn} (h : shell.Interacts s ts last) {i : Nat}
    {t : Turn} (ht : ts[i]? = some t) :
    t.heard.interactive = true ↔
      s.interactive = true ∧ ∀ earlier ∈ ts.take i, earlier.Unlooped shell := by
  induction h generalizing i with
  | ended hread => simp at ht
  | left hturn hquit =>
    obtain ⟨hi, rfl⟩ := List.getElem?_eq_some_iff.1 ht
    obtain rfl : i = 0 := by simpa using hi
    simp [heard_interactive hturn]
  | @next s last first ts hturn hquit hrest ih =>
    cases i with
    | zero =>
      obtain rfl : first = t := Option.some.inj ht
      simp [heard_interactive hturn]
    | succ i =>
      rw [ih ht, printed_interactive, evaluated_interactive_iff hturn, heard_interactive hturn,
        List.take_succ_cons, List.forall_mem_cons, and_assoc]

theorem enter_interactive (shell : Shell) (s : Session) : (shell.enter s).interactive = true := by
  rw [enter, Session.info]
  split <;> rfl

/--
If the commands that the loop calls come to an end, so does the loop: it evaluates each line that
it reads, in order, up to the first that asks to leave or else to the end of input, and says
farewell. It is interactive while it evaluates a line exactly if no earlier line ran the loop anew,
and throughout if that line does not either; afterwards it is not.
-/
theorem loop_ends_at_quit_or_end (shell : Shell) (s : Session)
    (hends : ∀ line heard d tokens, shell.Comes (shell.enter s) line heard →
      shell.decision (.line line) = .call d tokens → ∃ depth ended,
        shell.execute depth (d.handler ⟨d.name, tokens, shell.settings⟩)
          ((shell.taken (.line line) heard).note (.ran d.name tokens)) = some ended) :
    ∃ ts last depth, shell.Interacts (shell.enter s) ts last ∧
      (∀ more, depth ≤ more → shell.loop (shell.answer more) s = some (leave last)) ∧
      (∀ i t, ts[i]? = some t →
        (t.heard.interactive = true ↔ ∀ earlier ∈ ts.take i, earlier.Unlooped shell) ∧
        (t.heard.interactive = true → t.Unlooped shell →
          t.Attended shell ∧ t.evaluated.interactive = true)) ∧
      (leave last).interactive = false ∧
      (leave last).terminal.screen =
        last.terminal.screen ++ [Console.written "Goodbye!".toList] := by
  obtain ⟨ts, last, depth, hinteracts, hturns⟩ :=
    exists_interacts (Nat.lt_succ_self _) fun line heard hcomes =>
      exists_evaluates fun d tokens => hends line heard d tokens hcomes
  refine ⟨ts, last, depth, hinteracts, ?_, ?_, rfl, rfl⟩
  · intro more hmore
    rw [loop, hturns more hmore]
    rfl
  · intro i t ht
    constructor
    · rw [hinteracts.interactive_iff ht]
      simp [enter_interactive]
    · intro hheard hunlooped
      exact (EvaluatesWhile.attended hunlooped hheard).symm

/-- The built-in commands, and one that runs the loop. -/
def nesting : Shell :=
  { registry := ⟨Builtin.descriptors ++ [⟨"sub".toList, [], [], false, fun _ => do
      Program.request .loop
      return .ofText "run done".toList⟩], by decide⟩
    settings := .default
    formatters := []
    files := fun _ => .error .notFound }

def nestingSession : Session :=
  .start nesting.settings (.ofTyped "sub\nquit\ncli.status\n".toList)

/-- The line after the nested loop is evaluated in a session that is no longer interactive. -/
theorem nesting_loop_ends :
    ∃ ts last depth, nesting.Interacts (nesting.enter nestingSession) ts last ∧
      (∀ more, depth ≤ more →
        nesting.loop (nesting.answer more) nestingSession = some (leave last)) ∧
      "repl mode: off".toList <:+: (leave last).terminal.screenText := by
  have hfinished : (nesting.loop (nesting.answer 1) nestingSession).isSome = true := by
    decide +kernel
  have hoff : ∀ after, nesting.loop (nesting.answer 1) nestingSession = some after →
      "repl mode: off".toList <:+: after.terminal.screenText := by decide +kernel
  obtain ⟨after, hloop⟩ := Option.isSome_iff_exists.1 hfinished
  obtain ⟨ts, last, depth, hinteracts, hends, -⟩ :=
    loop_ends_at_quit_or_end nesting nestingSession fun line heard d tokens hcomes hcall =>
      ⟨1, exists_execute_of_loop hloop hcomes hcall⟩
  refine ⟨ts, last, depth, hinteracts, hends, ?_⟩
  have hdeep := loop_within (answer_within nesting (Nat.le_max_left 1 depth)) hloop
  rw [hends _ (Nat.le_max_right 1 depth)] at hdeep
  rw [Option.some.inj hdeep]
  exact hoff after hloop

end Shell

end CommandShell
