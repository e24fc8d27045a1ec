import Mathlib.Tactic.SplitIfs
import CommandShell.CommandLine
import CommandShell.Proofs.Arguments
import CommandShell.Proofs.Files.Path
import CommandShell.Proofs.Output.Display
import CommandShell.Proofs.Script.Defect
import CommandShell.Proofs.Script.Replay
import CommandShell.Proofs.Shell.Depth

/-!
# Running a script from the command line

The path that the command line takes goes to the command that runs scripts, as a token like any
other, and is read as one: it may name an option. Main statement: how such a run ends, what it has
written, and with which exit code.
-/

namespace CommandShell

/-- The path leads to a text, its line ends read as line feeds. -/
def Script.Reads (files : FileSystem) (path text : Text) : Prop :=
  ∃ bytes decoded, files path = .ok bytes ∧ Text.decode bytes = .ok decoded ∧
    text = Text.unifyLineEnds decoded

theorem Script.unreadable_or_reads (files : FileSystem) (path : Text) :
    Unreadable files path ∨ ∃ text, Reads files path text := by
  cases hbytes : files path with
  | error fault => exact Or.inl (Or.inl ⟨fault, hbytes⟩)
  | ok bytes =>
    cases hdecode : Text.decode bytes with
    | error e => exact Or.inl (Or.inr ⟨bytes, e, hbytes, hdecode⟩)
    | ok decoded => exact Or.inr ⟨_, bytes, decoded, hbytes, hdecode, rfl⟩

namespace CommandLine

/-! ## What a command line is accepted for -/

section Accepted

variable {name path : Text} {words rest : List Text}

theorem bind_eq_ok {x : Except UsageFault α} {next : α → Except UsageFault β} {b : β}
    (h : (x >>= next) = .ok b) : ∃ a, x = .ok a ∧ next a = .ok b := by
  cases x with
  | error fault => cases h
  | ok a => exact ⟨a, rfl, h⟩

theorem taskNamed_eq_script (h : taskNamed name rest = .ok (.script path)) :
    name = "script".toList ∧ sortOut false rest = .ok ⟨false, [path]⟩ ∧
      Char.ofNat 0 ∉ path := by
  rw [taskNamed] at h
  split_ifs at h with hrepl hrun hscript
  · obtain ⟨w, -, h⟩ := bind_eq_ok h
    split_ifs at h
    · cases h
    · split at h <;> cases h
  · obtain ⟨w, -, h⟩ := bind_eq_ok h
    split_ifs at h <;> cases h
  · obtain ⟨⟨help, found⟩, hw, h⟩ := bind_eq_ok h
    split_ifs at h with hhelp
    · cases h
    · obtain rfl : help = false := by simpa using hhelp
      split at h
      · cases h
      · next hfound =>
        split_ifs at h with hnul
        obtain rfl := Task.script.inj (Except.ok.inj h)
        obtain rfl : found = _ := hfound
        exact ⟨hscript, hw, by simpa using hnul⟩
      · cases h

theorem nul_not_mem_of_task (h : task words = .ok (.script path)) : Char.ofNat 0 ∉ path := by
  rw [task] at h
  obtain ⟨w, -, h⟩ := bind_eq_ok h
  split_ifs at h
  · cases h
  · split at h
    · cases h
    · exact (taskNamed_eq_script h).2.2

theorem nul_not_mem_normal (h : Char.ofNat 0 ∉ path) : Char.ofNat 0 ∉ Path.normal path := by
  intro hmem
  rcases Path.mem_of_mem_normal hmem with hmem | hslash | hdot
  · exact h hmem
  · exact absurd hslash (by decide)
  · exact absurd hdot (by decide)

end Accepted

/-! ## The shell of an environment -/

theorem shell?_eq_some {e : Environment} {shell : Shell} (h : shell? e = some shell) :
    shell.registry = Builtin.registry ∧ shell.formatters = [] ∧ shell.files = e.files := by
  rw [shell?] at h
  split at h
  · contradiction
  · split at h
    · contradiction
    · obtain rfl := Option.some.inj h
      exact ⟨rfl, rfl, rfl⟩

end CommandLine

namespace Shell

variable {shell : Shell} {depth : Nat} {s : Session} {path text : Text}

theorem printing_of_formatters_nil (h : shell.formatters = []) (outcome : Outcome) :
    shell.printing outcome = .ok () := by
  cases hprinting : shell.printing outcome with
  | ok _ => rfl
  | error f =>
    obtain ⟨value, -, -, -, hformat⟩ := printing_eq_error_iff.1 hprinting
    rw [h] at hformat
    contradiction

/-- Without formatters a script is replayed to its end, whatever its directives come to. -/
theorem run_directives_iff (h : shell.formatters = []) {lead : Text} {ds : List Directive}
    {result : Except Failure Unit} {after : Session} :
    (Program.forEach ds (Script.replayDirective lead)).run (shell.answer depth) s =
        some (result, after) ↔
      result = .ok () ∧ ∃ outcomes, shell.Replays depth lead ds outcomes s after := by
  have hprinted : ∀ outcomes : List Outcome, outcomes.forM shell.printing = .ok () :=
    fun _ => Script.forM_of_forall_ok fun o _ => printing_of_formatters_nil h o
  constructor
  · intro hrun
    obtain ⟨outcomes, hreplays, hresult, -, hend⟩ := Script.replays_of_run hrun
    rw [hprinted] at hresult
    have hall : outcomes.length = ds.length := hend.resolve_right fun hne => hne hresult
    rw [hall, List.take_length] at hreplays
    exact ⟨hresult, outcomes, hreplays⟩
  · rintro ⟨rfl, outcomes, hreplays⟩
    rw [Script.run_of_replays hreplays fun o _ => printing_of_formatters_nil h o, hprinted]

/-! ## The command that runs scripts -/

/-- The session that has called the command that runs scripts with a path. -/
def calling (shell : Shell) (path : Text) (s : Session) : Session :=
  (shell.taken (.tokens ["cli.script".toList, path]) s).note (.ran "cli.script".toList [path])

/-- The outcome that a result of the command that runs scripts becomes. -/
def scriptOutcome (shell : Shell) : Except Failure Value → Outcome
  | .ok value => .result value
  | .error f => .failed (shell.report "cli.script".toList f)

theorem evaluate_scriptTokens (hregistry : shell.registry = Builtin.registry) :
    shell.evaluate depth (.tokens ["cli.script".toList, path]) s =
      ((Builtin.script ⟨"cli.script".toList, [path], shell.settings⟩).run (shell.answer depth)
        (shell.calling path s)).map fun ended => (shell.scriptOutcome ended.1, ended.2) := by
  have builtin : ∀ d ∈ Builtin.descriptors, d ∈ shell.registry.commands := by
    rw [hregistry]
    exact fun _ hd => hd
  obtain ⟨d, hget, hname, hhandler⟩ : ∃ d, shell.registry.get? "cli.script".toList = some d ∧
    d.name = "cli.script".toList ∧ d.handler = Builtin.script := Builtin.exists_get? builtin rfl
  have hcall : shell.decision (.tokens ["cli.script".toList, path]) = .call d [path] :=
    decisionOfTokens_eq_call_iff.2 ⟨_, rfl, choose_eq_run_iff.2 (Or.inl hget)⟩
  rw [evaluate, evaluateInput_eq, hcall, carryOut, invoke, hhandler, hname]
  have hcalling : (shell.taken (.tokens ["cli.script".toList, path]) s).note
      (.ran "cli.script".toList [path]) = shell.calling path s := rfl
  rw [hcalling]
  generalize (Builtin.script ⟨"cli.script".toList, [path], shell.settings⟩).run
    (shell.answer depth) (shell.calling path s) = ended
  rcases ended with _ | ⟨value | f, after⟩ <;> rfl

/-- What replaying a script ends with, as the result of the command that does it. -/
def scriptResult : Except Failure Unit → Except Failure Value
  | .ok _ => .ok .noOutput
  | .error (.unreadableScript path cause) =>
    .ok (.ofText (Failure.unreadableScript path cause).message)
  | .error f => .error f

theorem run_script {i : Invocation} (h : i.arguments.positional = [path]) :
    (Builtin.script i).run (shell.answer depth) s =
      (shell.execute depth (Script.replay i.settings.scriptEcho path) s).map fun ended =>
        (scriptResult ended.1, ended.2) := by
  rw [Builtin.script, h]
  show Program.run _ (Program.recover (Program.bind _ _) _) s = _
  rw [Program.run_recover, Program.run_bind]
  show (Run.andThen (shell.execute depth (Script.replay i.settings.scriptEcho path) s) _).bind _ = _
  generalize shell.execute depth (Script.replay i.settings.scriptEcho path) s = ended
  rcases ended with _ | ⟨f | done, after⟩
  · rfl
  · cases f <;> rfl
  · rfl

theorem execute_replay_of_error {lead : Text} {f : Failure}
    (hload : Script.load shell.files path = .error f) :
    shell.execute depth (Script.replay lead path) s = some (.error f, s.note (.opened path)) := by
  show Program.run _ (Program.bind (Program.request (.script path)) _) s = _
  rw [Program.run_request_bind, answer_script, hload]
  rfl

theorem execute_replay_of_unclosed {lead : Text} {u : Script.Unclosed}
    (hload : Script.load shell.files path = .ok text) (hparse : Script.parse text = .error u) :
    shell.execute depth (Script.replay lead path) s =
      some (.error u.failure, s.note (.opened path)) := by
  show Program.run _ (Program.bind (Program.request (.script path)) _) s = _
  rw [Program.run_request_bind, answer_script, hload]
  show Program.run _ (Program.bind (Program.ofExcept
    ((Script.parse text).mapError Script.Unclosed.failure)) _) _ = _
  rw [hparse]
  rfl

/-! ## Directives that come to an end -/

theorem Replays.mono {lead : Text} {ds : List Directive} {outcomes : List Outcome}
    {after : Session} {deeper : Nat} (h : shell.Replays depth lead ds outcomes s after)
    (hle : depth ≤ deeper) : shell.Replays deeper lead ds outcomes s after := by
  induction h with
  | nil s => exact .nil s
  | cons hperform _ ih => exact .cons (answer_within shell hle hperform) ih

/-- Every directive comes to an end in the session that those before it lead to. -/
def DirectivesEnd (shell : Shell) (lead : Text) (ds : List Directive) (s : Session) : Prop :=
  ∀ done d rest depth outcomes mid, ds = done ++ d :: rest →
    shell.Replays depth lead done outcomes s mid →
    ∃ deeper performed,
      shell.answer deeper (.perform d) (mid.shown ([] :: d.echo lead)) = some performed

theorem exists_replays {lead : Text} {ds : List Directive} (h : shell.DirectivesEnd lead ds s) :
    ∃ depth outcomes after, shell.Replays depth lead ds outcomes s after := by
  induction ds generalizing s with
  | nil => exact ⟨0, [], s, .nil s⟩
  | cons d ds ih =>
    obtain ⟨first, ⟨outcome, mid⟩, hperform⟩ := h [] d ds 0 [] s rfl (.nil s)
    have htail : shell.DirectivesEnd lead ds (shell.print outcome mid).2 := by
      intro done next rest depth outcomes last hsplit hreplays
      have hle : first ≤ max first depth := Nat.le_max_left _ _
      have hmore : depth ≤ max first depth := Nat.le_max_right _ _
      refine h (d :: done) next rest (max first depth) (outcome :: outcomes) last ?_ ?_
      · rw [hsplit, List.cons_append]
      · exact .cons (answer_within shell hle hperform) (hreplays.mono hmore)
    obtain ⟨depth, outcomes, after, hreplays⟩ := ih htail
    have hfirst := answer_within shell (Nat.le_max_left first depth) hperform
    have hrest := hreplays.mono (Nat.le_max_right first depth)
    exact ⟨max first depth, outcome :: outcomes, after, .cons hfirst hrest⟩

end Shell

/-! ## What is written about a script -/

theorem Script.load_of_reads {files : FileSystem} {path text : Text}
    (nonnull : Char.ofNat 0 ∉ path) (h : Reads files path text) : load files path = .ok text := by
  obtain ⟨bytes, decoded, hbytes, hdecode, rfl⟩ := h
  exact load_of_decode nonnull hbytes hdecode

theorem Failure.report_scriptPathExpected (debug : Bool) :
    report "cli.script".toList (scriptPathExpected.reason debug) =
      "error: cli.script: expected exactly one script file path".toList ++
        (if debug then " (ValueError)".toList else []) := by
  cases debug <;> decide +kernel

/-- The text that says that a script cannot be read. -/
def unreadableNotice (path cause : Text) : Text :=
  "Error reading script file: ".toList ++ path ++ ": ".toList ++ cause

theorem plainly_notice (path cause : Text) :
    Display.handed [] (unreadableNotice path cause) =
        .ok (some (Display.plainly (unreadableNotice path cause))) ∧
      "Error reading script file: ".toList <+: Display.plainly (unreadableNotice path cause) := by
  have hfront : ∀ c ∈ "Error reading script file: ".toList, Text.isLineBoundary c = false :=
    Text.isLineBoundary_eq_false_of_all (by decide +kernel)
  have hshown : ∀ front : Text, front.head? = some 'E' →
      (∀ c ∈ front, Text.isLineBoundary c = false) →
      Display.visibleLines (front ++ path ++ ": ".toList ++ cause) ≠ [] ∧
        front <+: Display.plainly (front ++ path ++ ": ".toList ++ cause) := by
    intro front hhead hline
    rw [List.append_assoc, List.append_assoc]
    obtain ⟨first, others, hlines⟩ :=
      Display.exists_visibleLines_append hhead (by decide) hline (path ++ (": ".toList ++ cause))
    refine ⟨?_, Display.isPrefix_plainly hhead (by decide) hline _⟩
    rw [hlines]
    exact List.cons_ne_nil _ _
  obtain ⟨hvisible, hprefix⟩ := hshown _ rfl hfront
  exact ⟨Display.handed_nil hvisible, hprefix⟩

namespace CommandLine

/--
How the task that runs the script at a path ends, with an exit code and a session. A path that names
an option leaves the command without a path, and no file is opened.
-/
inductive RunsScript (shell : Shell) (depth : Nat) (path : Text) (s : Session) :
    Nat → Session → Prop where
  | option (h : Item.NamesOption path) :
      RunsScript shell depth path s 1 ((shell.calling path s).print
        ("error: cli.script: expected exactly one script file path".toList ++
          (if shell.settings.debug then " (ValueError)".toList else [])))
  | unreadable {cause : Text} (h : ¬ Item.NamesOption path)
      (hload : Script.load shell.files path = .error (.unreadableScript path cause)) :
      RunsScript shell depth path s 0 (((shell.calling path s).note (.opened path)).print
        (Display.plainly (unreadableNotice path cause)))
  | unclosed {text marker line command : Text} {number : Nat} {before : List Directive}
      {later : List Text} (h : ¬ Item.NamesOption path)
      (hreads : Script.Reads shell.files path text)
      (hends : Script.EndsInside text number marker before line command later) :
      RunsScript shell depth path s 1 (((shell.calling path s).note (.opened path)).print
        ("error: cli.script: Unclosed heredoc '<<".toList ++ marker ++
          "' starting at line ".toList ++ Text.ofNat number ++
          (if shell.settings.debug then " (UnclosedHeredocError)".toList else [])))
  | replayed {text : Text} {ds : List Directive} {outcomes : List Outcome} {after : Session}
      (h : ¬ Item.NamesOption path) (hreads : Script.Reads shell.files path text)
      (hparse : Script.parse text = .ok ds)
      (hreplays : shell.Replays depth shell.settings.scriptEcho ds outcomes
        ((shell.calling path s).note (.opened path)) after) :
      RunsScript shell depth path s 0 after

variable {shell : Shell} {depth exit : Nat} {path : Text} {s after : Session}

/-- The exit code and the session of an outcome that is printed. -/
def closing (shell : Shell) (ended : Outcome × Session) : Nat × Session :=
  (if ended.1.isFailed then 1 else 0, shell.printOrReport ended.1 ended.2)

theorem evaluateOnce_eq (tokens : List Text) :
    evaluateOnce shell depth tokens s =
      (shell.evaluate depth (.tokens tokens) s).map (closing shell) := by
  rw [evaluateOnce]
  cases shell.evaluate depth (.tokens tokens) s <;> rfl

theorem evaluateOnce_of_option (hregistry : shell.registry = Builtin.registry)
    (h : Item.NamesOption path) :
    evaluateOnce shell depth ["cli.script".toList, path] s =
      some (1, (shell.calling path s).print
        ("error: cli.script: expected exactly one script file path".toList ++
          (if shell.settings.debug then " (ValueError)".toList else []))) := by
  have hpositional : (Invocation.arguments
      ⟨"cli.script".toList, [path], shell.settings⟩).positional = [] :=
    (Arguments.positional_singleton path).trans (if_pos h)
  have hscript : Builtin.script ⟨"cli.script".toList, [path], shell.settings⟩ =
      .fail .scriptPathExpected := by
    rw [Builtin.script, hpositional]
  rw [evaluateOnce_eq, Shell.evaluate_scriptTokens hregistry, hscript,
    ← Failure.report_scriptPathExpected]
  rfl

section Readable

variable (hregistry : shell.registry = Builtin.registry) (hformatters : shell.formatters = [])
  (nonnull : Char.ofNat 0 ∉ path) (h : ¬ Item.NamesOption path)

include hregistry h in
theorem evaluateOnce_of_not_option :
    evaluateOnce shell depth ["cli.script".toList, path] s =
      (shell.execute depth (Script.replay shell.settings.scriptEcho path)
        (shell.calling path s)).map fun ended =>
          closing shell (shell.scriptOutcome (Shell.scriptResult ended.1), ended.2) := by
  have hpositional : (Invocation.arguments
      ⟨"cli.script".toList, [path], shell.settings⟩).positional = [path] :=
    (Arguments.positional_singleton path).trans (if_neg h)
  rw [evaluateOnce_eq, Shell.evaluate_scriptTokens hregistry, Shell.run_script hpositional,
    Option.map_map, Option.map_map]
  rfl

include hregistry hformatters h in
theorem evaluateOnce_of_unreadable {cause : Text}
    (hload : Script.load shell.files path = .error (.unreadableScript path cause)) :
    evaluateOnce shell depth ["cli.script".toList, path] s =
      some (0, ((shell.calling path s).note (.opened path)).print
        (Display.plainly (unreadableNotice path cause))) := by
  have hhanded : Display.handed shell.formatters (unreadableNotice path cause) =
      .ok (some (Display.plainly (unreadableNotice path cause))) :=
    hformatters ▸ (plainly_notice path cause).1
  have hprint := Shell.print_ofText hhanded ((shell.calling path s).note (.opened path))
  rw [evaluateOnce_of_not_option hregistry h, Shell.execute_replay_of_error hload, Option.map_some]
  show some (0, shell.printOrReport (.result (.ofText (unreadableNotice path cause))) _) = _
  rw [Shell.printOrReport, hprint]

include hregistry nonnull h in
theorem evaluateOnce_of_unclosed {text marker line command : Text} {number : Nat}
    {before : List Directive} {later : List Text} (hreads : Script.Reads shell.files path text)
    (hends : Script.EndsInside text number marker before line command later) :
    evaluateOnce shell depth ["cli.script".toList, path] s =
      some (1, ((shell.calling path s).note (.opened path)).print
        ("error: cli.script: Unclosed heredoc '<<".toList ++ marker ++
          "' starting at line ".toList ++ Text.ofNat number ++
          (if shell.settings.debug then " (UnclosedHeredocError)".toList else []))) := by
  have hload := Script.load_of_reads nonnull hreads
  have hparse := Script.parse_eq_error_iff.2 ⟨before, line, command, later, hends⟩
  rw [evaluateOnce_of_not_option hregistry h, Shell.execute_replay_of_unclosed hload hparse,
    Option.map_some, ← Failure.report_unclosedHeredoc]
  rfl

include hregistry hformatters nonnull h in
theorem evaluateOnce_iff_of_parsed {text : Text} {ds : List Directive}
    (hreads : Script.Reads shell.files path text) (hparse : Script.parse text = .ok ds) :
    evaluateOnce shell depth ["cli.script".toList, path] s = some (exit, after) ↔
      exit = 0 ∧ ∃ outcomes, shell.Replays depth shell.settings.scriptEcho ds outcomes
        ((shell.calling path s).note (.opened path)) after := by
  have hload := Script.load_of_reads nonnull hreads
  rw [evaluateOnce_of_not_option hregistry h, Script.run_replay hload hparse,
    Option.map_eq_some_iff]
  constructor
  · rintro ⟨⟨result, mid⟩, hrun, hclosing⟩
    obtain ⟨rfl, hreplays⟩ := (Shell.run_directives_iff hformatters).1 hrun
    obtain ⟨rfl, rfl⟩ := Prod.mk.inj hclosing
    exact ⟨rfl, hreplays⟩
  · rintro ⟨rfl, hreplays⟩
    exact ⟨(.ok (), after), (Shell.run_directives_iff hformatters).2 ⟨rfl, hreplays⟩, rfl⟩

include hregistry hformatters nonnull in
omit h in
theorem evaluateOnce_iff_runsScript :
    evaluateOnce shell depth ["cli.script".toList, path] s = some (exit, after) ↔
      RunsScript shell depth path s exit after := by
  constructor
  · intro hended
    by_cases h : Item.NamesOption path
    · rw [evaluateOnce_of_option hregistry h] at hended
      obtain ⟨rfl, rfl⟩ := Prod.mk.inj (Option.some.inj hended)
      exact .option h
    rcases Script.unreadable_or_reads shell.files path with hunreadable | ⟨text, hreads⟩
    · obtain ⟨cause, hload⟩ := Script.load_of_unreadable nonnull hunreadable
      rw [evaluateOnce_of_unreadable hregistry hformatters h hload] at hended
      obtain ⟨rfl, rfl⟩ := Prod.mk.inj (Option.some.inj hended)
      exact .unreadable h hload
    cases hparse : Script.parse text with
    | error u =>
      obtain ⟨before, line, command, later, hends⟩ := Script.parse_eq_error_iff.1 hparse
      rw [evaluateOnce_of_unclosed hregistry nonnull h hreads hends] at hended
      obtain ⟨rfl, rfl⟩ := Prod.mk.inj (Option.some.inj hended)
      exact .unclosed h hreads hends
    | ok ds =>
      obtain ⟨rfl, outcomes, hreplays⟩ :=
        (evaluateOnce_iff_of_parsed hregistry hformatters nonnull h hreads hparse).1 hended
      exact .replayed h hreads hparse hreplays
  · intro hruns
    cases hruns with
    | option h => exact evaluateOnce_of_option hregistry h
    | unreadable h hload => exact evaluateOnce_of_unreadable hregistry hformatters h hload
    | unclosed h hreads hends => exact evaluateOnce_of_unclosed hregistry nonnull h hreads hends
    | replayed h hreads hparse hreplays =>
      exact (evaluateOnce_iff_of_parsed hregistry hformatters nonnull h hreads hparse).2
        ⟨rfl, _, hreplays⟩

end Readable

/-- The script at a path ends inside the input of one of its commands. -/
def EndsOpen (files : FileSystem) (path : Text) : Prop :=
  ∃ text number marker before line command later, Script.Reads files path text ∧
    Script.EndsInside text number marker before line command later

theorem RunsScript.exit_eq_one_iff (nonnull : Char.ofNat 0 ∉ path)
    (hruns : RunsScript shell depth path s exit after) :
    (exit = 0 ∨ exit = 1) ∧ (exit = 1 ↔ Item.NamesOption path ∨ EndsOpen shell.files path) := by
  have hparse : EndsOpen shell.files path → ∃ text u,
      Script.load shell.files path = .ok text ∧ Script.parse text = .error u := by
    rintro ⟨text, number, marker, before, line, command, later, hreads, hends⟩
    exact ⟨text, ⟨marker, number⟩, Script.load_of_reads nonnull hreads,
      Script.parse_eq_error_iff.2 ⟨before, line, command, later, hends⟩⟩
  cases hruns with
  | option h => simp [h]
  | unclosed h hreads hends =>
    have hopen : EndsOpen shell.files path := ⟨_, _, _, _, _, _, _, hreads, hends⟩
    simp [hopen]
  | unreadable h hload =>
    have hopen : ¬ EndsOpen shell.files path := by
      intro hopen
      obtain ⟨text, u, htext, -⟩ := hparse hopen
      rw [hload] at htext
      contradiction
    simp [h, hopen]
  | replayed h hreads hdirectives =>
    have hopen : ¬ EndsOpen shell.files path := by
      intro hopen
      obtain ⟨text, u, htext, hu⟩ := hparse hopen
      rw [Script.load_of_reads nonnull hreads] at htext
      obtain rfl := Except.ok.inj htext
      rw [hdirectives] at hu
      contradiction
    simp [h, hopen]

/-- If every directive of the script comes to an end, so does the task. -/
theorem exists_runsScript (nonnull : Char.ofNat 0 ∉ path)
    (hend : ∀ text ds, Script.Reads shell.files path text → Script.parse text = .ok ds →
      shell.DirectivesEnd shell.settings.scriptEcho ds
        ((shell.calling path s).note (.opened path))) :
    ∃ depth exit after, RunsScript shell depth path s exit after := by
  by_cases h : Item.NamesOption path
  · exact ⟨0, 1, _, .option h⟩
  rcases Script.unreadable_or_reads shell.files path with hunreadable | ⟨text, hreads⟩
  · obtain ⟨cause, hload⟩ := Script.load_of_unreadable nonnull hunreadable
    exact ⟨0, 0, _, .unreadable h hload⟩
  cases hparse : Script.parse text with
  | error u =>
    obtain ⟨before, line, command, later, hends⟩ := Script.parse_eq_error_iff.1 hparse
    exact ⟨0, 1, _, .unclosed h hreads hends⟩
  | ok ds =>
    obtain ⟨depth, outcomes, after, hreplays⟩ := Shell.exists_replays (hend text ds hreads hparse)
    exact ⟨depth, 0, after, .replayed h hreads hparse hreplays⟩

theorem run_script_task {words : List Text} (accepted : task words = .ok (.script path))
    (e : Environment) :
    run e depth words = match shell? e with
      | none => some .refused
      | some shell => (evaluateOnce shell depth ["cli.script".toList, Path.normal path]
          (session shell e)).map fun ended => .finished ended.1 ended.2 := by
  rw [run, accepted]
  rfl

/-- The task that runs a script ends as running the script does, with the same exit code. -/
theorem run_iff_runsScript {words : List Text} (accepted : task words = .ok (.script path))
    {e : Environment} (hshell : shell? e = some shell) {depth : Nat} {ending : Ending} :
    run e depth words = some ending ↔
      ∃ exit after, ending = .finished exit after ∧
        RunsScript shell depth (Path.normal path) (session shell e) exit after := by
  have nonnull : Char.ofNat 0 ∉ Path.normal path :=
    nul_not_mem_normal (nul_not_mem_of_task accepted)
  obtain ⟨hregistry, hformatters, -⟩ := shell?_eq_some hshell
  rw [run_script_task accepted, hshell]
  show Option.map _ _ = _ ↔ _
  rw [Option.map_eq_some_iff]
  constructor
  · rintro ⟨⟨exit, after⟩, hended, rfl⟩
    exact ⟨exit, after, rfl, (evaluateOnce_iff_runsScript hregistry hformatters nonnull).1 hended⟩
  · rintro ⟨exit, after, rfl, hruns⟩
    exact ⟨(exit, after), (evaluateOnce_iff_runsScript hregistry hformatters nonnull).2 hruns, rfl⟩

/--
A command line that is accepted as the one that runs the script at a path. It does nothing if the
settings are refused, with exit code one. Otherwise the path in its normal form goes to the command
that runs scripts. If it names an option there, no file is opened, and the exit code is one. If no
text can be read at the path, a text that says so is printed, with exit code zero. If the script
ends inside the input of a command, that is reported and nothing of it runs, with exit code one. In
every other case the directives are shown, performed and printed in order, whatever they come to,
and the exit code is zero. The task ends if every directive does.
-/
theorem script_task_exits {words : List Text} (accepted : task words = .ok (.script path))
    (e : Environment) :
    let file := Path.normal path
    (shell? e = none → ∀ depth, run e depth words = some .refused) ∧
    ∀ shell, shell? e = some shell →
      let opened := (shell.calling file (session shell e)).note (.opened file)
      (∀ depth ending, run e depth words = some ending ↔
        ∃ exit after, ending = .finished exit after ∧
          RunsScript shell depth file (session shell e) exit after) ∧
      (∀ depth ending, run e depth words = some ending →
        (ending.exit = 0 ∨ ending.exit = 1) ∧
          (ending.exit = 1 ↔ Item.NamesOption file ∨ EndsOpen e.files file)) ∧
      (¬ Item.NamesOption file → Script.Unreadable e.files file → ∀ depth, ∃ rest,
        run e depth words =
          some (.finished 0 (opened.print ("Error reading script file: ".toList ++ rest)))) ∧
      ((∀ text ds, Script.Reads e.files file text → Script.parse text = .ok ds →
          shell.DirectivesEnd shell.settings.scriptEcho ds opened) →
        ∃ depth ending, run e depth words = some ending) := by
  intro file
  have nonnull : Char.ofNat 0 ∉ file := nul_not_mem_normal (nul_not_mem_of_task accepted)
  constructor
  · intro hnone depth
    rw [run_script_task accepted, hnone]
  intro shell hshell opened
  obtain ⟨-, -, hfiles⟩ := shell?_eq_some hshell
  refine ⟨fun _ _ => run_iff_runsScript accepted hshell, ?_, ?_, ?_⟩
  · intro depth ending hrun
    obtain ⟨exit, after, rfl, hended⟩ := (run_iff_runsScript accepted hshell).1 hrun
    rw [← hfiles]
    exact hended.exit_eq_one_iff nonnull
  · intro h hunreadable depth
    rw [← hfiles] at hunreadable
    obtain ⟨cause, hload⟩ := Script.load_of_unreadable nonnull hunreadable
    obtain ⟨rest, hrest⟩ := (plainly_notice file cause).2
    refine ⟨rest, (run_iff_runsScript accepted hshell).2 ⟨0, _, rfl, ?_⟩⟩
    rw [hrest]
    exact .unreadable h hload
  · intro hend
    rw [← hfiles] at hend
    obtain ⟨depth, exit, after, hended⟩ := exists_runsScript nonnull hend
    exact ⟨depth, .finished exit after,
      (run_iff_runsScript accepted hshell).2 ⟨exit, after, rfl, hended⟩⟩

/-- No variables, no standard input, and one script, whose name begins with two dashes. -/
def dashed : Environment where
  environment := []
  files := fun path =>
    if path = "--x".toList then .ok ("dbg.echo a".toList.map fun c => c.toNat.toUInt8)
    else .error .notFound
  input := []

/-- A script that can be read and performed is not run, because its path names an option. -/
theorem script_task_exits_dashed :
    task ["script".toList, "--".toList, "--x".toList] = .ok (.script "--x".toList) ∧
      Script.Reads dashed.files "--x".toList "dbg.echo a".toList ∧
      Script.parse "dbg.echo a".toList = .ok [.plain "dbg.echo a".toList] ∧
      ∃ ending, run dashed 0 ["script".toList, "--".toList, "--x".toList] = some ending ∧
        ending.exit = 1 := by
  have accepted : task ["script".toList, "--".toList, "--x".toList] =
      .ok (.script "--x".toList) := by rfl
  have hreads : Script.Reads dashed.files "--x".toList "dbg.echo a".toList :=
    ⟨_, "dbg.echo a".toList, rfl, by decide +kernel, by decide +kernel⟩
  have hnormal : Path.normal "--x".toList = "--x".toList := by decide +kernel
  have hoption : Item.NamesOption (Path.normal "--x".toList) := by
    rw [hnormal]
    decide
  obtain ⟨shell, hshell⟩ := Option.isSome_iff_exists.1
    (show (shell? dashed).isSome = true by decide +kernel)
  obtain ⟨hruns, hexit, -, -⟩ := (script_task_exits accepted dashed).2 shell hshell
  have hrun := (hruns 0 _).2 ⟨1, _, rfl, .option hoption⟩
  exact ⟨accepted, hreads, by decide +kernel, _, hrun, (hexit 0 _ hrun).2.2 (Or.inl hoption)⟩

end CommandLine

end CommandShell
