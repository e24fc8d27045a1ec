import CommandShell.Command.Builtin
import CommandShell.Proofs.Command.Exchange
import CommandShell.Proofs.Script.Unclosed
import CommandShell.Proofs.Shell.Retrigger

/-!
# Scripts that cannot be run

The command that runs a script reads the whole file and parses it before anything of it runs. A file
that cannot be read, and a text that ends inside the input of a command, end the command there. Main
statement: then the session has only taken in the input that called the command.
-/

namespace CommandShell

/-- The text of an input: a line without the blanks around it, or tokens with spaces in between. -/
def Input.text : Input → Text
  | .line typed => typed.strip
  | .tokens given => Text.join [' '] given

/-- The last input of a session after this one: tokens leave it as it was. -/
def Input.last (input : Input) (previous : Option Text) : Option Text :=
  match input with
  | .line typed => some typed.strip
  | .tokens _ => previous

/-- The session after an input that called a command, which read a script and did nothing else. -/
def Session.afterReading (s : Session) (input : Input) (name : Text) (tokens : List Text)
    (path : Text) : Session :=
  { s with
    lastInput := input.last s.lastInput
    history := s.history.record input.text
    journal := s.journal ++ [.ran name tokens, .opened path] }

namespace Script

/-- The path cannot be opened, or the bytes of the file are no text. -/
def Unreadable (files : FileSystem) (path : Text) : Prop :=
  (∃ fault, files path = .error fault) ∨
    ∃ bytes e, files path = .ok bytes ∧ Text.decode bytes = .error e

variable {files : FileSystem} {path : Text}

theorem load_of_unreadable (nonnull : Char.ofNat 0 ∉ path) (h : Unreadable files path) :
    ∃ cause, load files path = .error (.unreadableScript path cause) := by
  rw [load, if_neg (by simpa using nonnull)]
  rcases h with ⟨fault, hfault⟩ | ⟨bytes, e, hbytes, hdecode⟩
  · rw [hfault]
    exact ⟨_, rfl⟩
  · rw [hbytes]
    simp only [hdecode]
    exact ⟨_, rfl⟩

theorem load_of_decode (nonnull : Char.ofNat 0 ∉ path) {bytes : List UInt8} {decoded : Text}
    (hbytes : files path = .ok bytes) (hdecode : Text.decode bytes = .ok decoded) :
    load files path = .ok (Text.unifyLineEnds decoded) := by
  rw [load, if_neg (by simpa using nonnull), hbytes]
  simp only [hdecode]

end Script

/-! ## The command that runs scripts -/

namespace Builtin

theorem handler_of_name {d : Descriptor} (hd : d ∈ descriptors)
    (hname : d.name = "cli.script".toList) : d.handler = script := by
  have hget : registry.get? "cli.script".toList = some d :=
    Registry.get?_eq_some_iff.2 ⟨hd, hname⟩
  have hlookup : registry.lookup "cli.script".toList = some script := rfl
  rw [Registry.lookup, hget] at hlookup
  exact Option.some.inj hlookup

/-- Where the built-in commands are registered, a name of theirs finds the one of that name. -/
theorem exists_get? {r : Registry} (builtin : ∀ d ∈ descriptors, d ∈ r.commands) {name : Text}
    {handler : Handler} (hlookup : registry.lookup name = some handler) :
    ∃ d, r.get? name = some d ∧ d.name = name ∧ d.handler = handler := by
  rw [Registry.lookup, Option.map_eq_some_iff] at hlookup
  obtain ⟨d, hget, hhandler⟩ := hlookup
  obtain ⟨hmem, hname⟩ := Registry.get?_eq_some_iff.1 hget
  exact ⟨d, Registry.get?_eq_some_iff.2 ⟨builtin d hmem, hname⟩, hname, hhandler⟩

/-- The command asks for its file first; if that is refused, or the text is, it ends at once. -/
theorem script_eq_call {i : Invocation} {path : Text} (h : i.arguments.positional = [path]) :
    ∃ next, script i = .call (.script path) next ∧
      (∀ p cause, next (.error (.unreadableScript p cause)) =
        .done (.ofText (Failure.unreadableScript p cause).message)) ∧
      ∀ text u, Script.parse text = .error u → next (.ok text) = .fail u.failure := by
  rw [script, h]
  refine ⟨_, rfl, fun p cause => rfl, ?_⟩
  intro text u hparse
  show Program.recover (Program.bind (Program.bind
    (Program.ofExcept ((Script.parse text).mapError Script.Unclosed.failure)) _) _) _ = _
  rw [hparse]
  rfl

end Builtin

/-! ## What is reported -/

namespace Failure

/-- A reason that does not end with a blank is reported as it is. -/
theorem report_eq_append {command reason : Text} (hcommand : command ≠ []) (hreason : reason ≠ [])
    (hlast : ∀ c, reason.getLast? = some c → Text.isBlank c = false) :
    report command reason = "error: ".toList ++ command ++ ": ".toList ++ reason := by
  have hsubject : (if command.isEmpty then [] else command ++ ": ".toList) =
      command ++ ": ".toList := if_neg (by simpa using hcommand)
  rw [report, hsubject, ← List.append_assoc]
  apply Text.strip_eq_self
  · intro c hc
    obtain rfl : 'e' = c := Option.some.inj hc
    decide
  · intro c hc
    rw [List.getLast?_append_of_ne_nil _ hreason] at hc
    exact hlast c hc

theorem reason_unclosedHeredoc (marker : Text) (number : Nat) (debug : Bool) :
    (unclosedHeredoc marker number).reason debug =
      (unclosedHeredoc marker number).message ++
        (if debug then " (UnclosedHeredocError)".toList else []) := by
  have hsome : (unclosedHeredoc marker number).message.isEmpty = false := rfl
  rw [reason, reasonGiven, hsome]
  cases debug with
  | true =>
    show _ ++ " (".toList ++ "UnclosedHeredocError".toList ++ ")".toList = _
    rw [List.append_assoc, List.append_assoc]
    rfl
  | false => exact (List.append_nil _).symm

theorem getLast?_reason_unclosedHeredoc (marker : Text) (number : Nat) (debug : Bool) {c : Char}
    (h : ((unclosedHeredoc marker number).reason debug).getLast? = some c) :
    Text.isBlank c = false := by
  rw [reason_unclosedHeredoc] at h
  cases debug with
  | true =>
    have hkind : " (UnclosedHeredocError)".toList ≠ [] := by decide
    rw [if_pos rfl, List.getLast?_append_of_ne_nil _ hkind] at h
    obtain rfl : ')' = c := Option.some.inj h
    decide
  | false =>
    have hnumeral : Text.ofNat number ≠ [] := List.ne_nil_of_length_pos Nat.length_toDigits_pos
    have hlast : (unclosedHeredoc marker number).message.getLast? =
        (Text.ofNat number).getLast? := List.getLast?_append_of_ne_nil _ hnumeral
    rw [if_neg Bool.false_ne_true, List.append_nil, hlast] at h
    exact Text.isBlank_eq_false_of_isDigit
      (Nat.isDigit_of_mem_toDigits (by decide) (by decide) (List.mem_of_getLast? h))

theorem report_unclosedHeredoc (marker : Text) (number : Nat) (debug : Bool) :
    report "cli.script".toList ((unclosedHeredoc marker number).reason debug) =
      "error: cli.script: Unclosed heredoc '<<".toList ++ marker ++
        "' starting at line ".toList ++ Text.ofNat number ++
        (if debug then " (UnclosedHeredocError)".toList else []) := by
  have hsome : (unclosedHeredoc marker number).reason debug ≠ [] := by
    rw [reason_unclosedHeredoc]
    exact List.cons_ne_nil _ _
  rw [report_eq_append (by decide) hsome
    fun c => getLast?_reason_unclosedHeredoc marker number debug, reason_unclosedHeredoc]
  show _ ++ ("Unclosed heredoc '<<".toList ++ marker ++ "' starting at line ".toList ++
    Text.ofNat number ++ _) = _
  simp only [List.append_assoc]
  rfl

end Failure

/-! ## What the session has taken in -/

namespace Shell

variable {shell : Shell} {input : Input} {d : Descriptor} {tokens : List Text} {path : Text}

/-- What the command that an input calls, if it calls one, asks of the session. -/
def requests (shell : Shell) (depth : Nat) (input : Input) (s : Session) : List Request :=
  match shell.decision input with
  | .answer _ => []
  | .call d tokens => ((d.handler ⟨d.name, tokens, shell.settings⟩).exchanges (shell.answer depth)
      ((shell.taken input s).note (.ran d.name tokens))).map (·.request)

theorem taken_of_call (h : shell.decision input = .call d tokens) (s : Session) :
    shell.taken input s =
      { s with lastInput := input.last s.lastInput, history := s.history.record input.text } := by
  cases input with
  | line line =>
    rw [decision] at h
    rw [taken]
    split_ifs at h ⊢ with hblank
    cases hreading : shell.reading line.strip with
    | verb v => simp [hreading] at h
    | members names => simp [hreading] at h
    | command => rfl
  | tokens given =>
    cases given with
    | nil => contradiction
    | cons token rest => rfl

/-- A command that reads a script and ends with what that comes to does nothing else. -/
theorem evaluate_of_reading {next : Except Failure Text → Program Value}
    {result : Except Failure Value} (hcall : shell.decision input = .call d tokens)
    (hhandler : d.handler ⟨d.name, tokens, shell.settings⟩ = .call (.script path) next)
    (hnext : next (Script.load shell.files path) = Program.ofExcept result)
    (depth : Nat) (s : Session) :
    shell.evaluate depth input s = some (match result with
        | .ok value => .result value
        | .error f => .failed (shell.report d.name f),
        s.afterReading input d.name tokens path) ∧
      shell.requests depth input s = [.script path] := by
  have hsession : ((shell.taken input s).note (.ran d.name tokens)).note (.opened path) =
      s.afterReading input d.name tokens path := by
    rw [taken_of_call hcall]
    simp [Session.note, Session.afterReading]
  constructor
  · rw [evaluate, evaluateInput_eq, hcall, carryOut, invoke, hhandler, Program.run, answer_script]
    simp only [hnext, hsession]
    cases result <;> rfl
  · rw [requests, hcall]
    simp only [hhandler]
    rw [Program.exchanges, answer_script]
    simp only [hnext, Program.exchanges_ofExcept]
    rfl

/--
Where the one argument of the command that runs scripts is a path without null characters, and the
file there decodes but ends inside the input of a command, the outcome is a failure that names the
marker and the line; where the file cannot be opened or decoded, it is a text that says so. Either
way the command asks for the file and for nothing else, and the session has taken in the input,
without a line printed or read.
-/
theorem defective_script_runs_nothing (builtin : d ∈ Builtin.descriptors)
    (named : d.name = "cli.script".toList) (calls : shell.decision input = .call d tokens)
    (alone : (Arguments.ofTokens tokens).positional = [path]) (nonnull : Char.ofNat 0 ∉ path)
    (depth : Nat) (s : Session) :
    (∀ bytes decoded number marker before line command later,
      shell.files path = .ok bytes → Text.decode bytes = .ok decoded →
      Script.EndsInside (Text.unifyLineEnds decoded) number marker before line command later →
      shell.evaluate depth input s = some (
          .failed ("error: cli.script: Unclosed heredoc '<<".toList ++ marker ++
            "' starting at line ".toList ++ Text.ofNat number ++
            (if shell.settings.debug then " (UnclosedHeredocError)".toList else [])),
          s.afterReading input d.name tokens path) ∧
        shell.requests depth input s = [.script path]) ∧
    (Script.Unreadable shell.files path →
      ∃ cause, shell.evaluate depth input s = some (
          .result (.ofText ("Error reading script file: ".toList ++ path ++ ": ".toList ++ cause)),
          s.afterReading input d.name tokens path) ∧
        shell.requests depth input s = [.script path]) := by
  obtain ⟨next, hscript, hrefused, hopen⟩ :=
    Builtin.script_eq_call (i := ⟨d.name, tokens, shell.settings⟩) alone
  rw [← Builtin.handler_of_name builtin named] at hscript
  constructor
  · intro bytes decoded number marker before line command later hbytes hdecode hends
    have hparse := Script.parse_eq_error_iff.2 ⟨before, line, command, later, hends⟩
    have hnext : next (Script.load shell.files path) =
        Program.ofExcept (.error (.unclosedHeredoc marker number)) := by
      rw [Script.load_of_decode nonnull hbytes hdecode]
      exact hopen _ _ hparse
    have hreport := Failure.report_unclosedHeredoc marker number shell.settings.debug
    obtain ⟨heval, hrequests⟩ := evaluate_of_reading calls hscript hnext depth s
    refine ⟨heval.trans ?_, hrequests⟩
    show some (Outcome.failed (shell.report d.name _), _) = _
    rw [report, named, hreport]
  · intro hunreadable
    obtain ⟨cause, hload⟩ := Script.load_of_unreadable nonnull hunreadable
    have hnext : next (Script.load shell.files path) = Program.ofExcept
        (.ok (.ofText (Failure.unreadableScript path cause).message)) := by
      rw [hload]
      exact hrefused path cause
    exact ⟨cause, evaluate_of_reading calls hscript hnext depth s⟩

/-- The built-in commands, and one script, whose second line opens input that is never closed. -/
def faulty : Shell :=
  { bare with
    files := fun path =>
      if path = ['s'] then
        .ok ("dbg.echo a\nask <<E\nb\n".toList.map fun c => c.toNat.toUInt8)
      else .error .notFound }

theorem faulty_calls (name : Char) (h : name = 's' ∨ name = 't') :
    faulty.decision (.line ("cli.script ".toList ++ [name])) =
      .call (Builtin.descriptor "cli.script".toList "Run commands from a script file.".toList
        "cli.script FILE".toList Builtin.script) [[name]] := by
  have hreading : faulty.reading (Text.strip ("cli.script ".toList ++ [name])) = .command := by
    rcases h with rfl | rfl <;> decide +kernel
  have hcut : Token.ofLine (Text.strip ("cli.script ".toList ++ [name])) =
      ["cli.script".toList, [name]] := by
    rcases h with rfl | rfl <;> decide +kernel
  have hget : faulty.registry.get? "cli.script".toList =
      some (Builtin.descriptor "cli.script".toList "Run commands from a script file.".toList
        "cli.script FILE".toList Builtin.script) := rfl
  exact decision_line_eq_call_iff.2 ⟨hreading, _, hcut, choose_eq_run_iff.2 (Or.inl hget)⟩

theorem faulty_endsInside :
    Script.EndsInside (Text.unifyLineEnds "dbg.echo a\nask <<E\nb\n".toList) 2 ['E']
      [.plain "dbg.echo a".toList] "ask <<E".toList "ask".toList [['b'], []] where
  counted := by decide
  lines_eq := by decide +kernel
  parse_before := by decide +kernel
  no_comment := by decide +kernel
  opens := Directive.opener?_eq_some_iff.1 (by decide +kernel)
  open_to_end := by decide

/-- The defective script and a script that does not exist are both told of, and nothing runs. -/
theorem defective_script_runs_nothing_faulty :
    let start := Session.start faulty.settings (.ofTyped "x\n".toList)
    let defective := Input.line "cli.script s".toList
    let missing := Input.line "cli.script t".toList
    (faulty.evaluate 0 defective start = some (
        .failed "error: cli.script: Unclosed heredoc '<<E' starting at line 2".toList,
        start.afterReading defective "cli.script".toList [['s']] ['s']) ∧
      faulty.requests 0 defective start = [.script ['s']]) ∧
    ∃ cause, faulty.evaluate 0 missing start = some (
        .result (.ofText ("Error reading script file: t: ".toList ++ cause)),
        start.afterReading missing "cli.script".toList [['t']] ['t']) ∧
      faulty.requests 0 missing start = [.script ['t']] := by
  intro start defective missing
  have hs : (Arguments.ofTokens [['s']]).positional = [['s']] := by decide +kernel
  have ht : (Arguments.ofTokens [['t']]).positional = [['t']] := by decide +kernel
  have hdecode : Text.decode ("dbg.echo a\nask <<E\nb\n".toList.map fun c => c.toNat.toUInt8) =
      .ok "dbg.echo a\nask <<E\nb\n".toList := by decide +kernel
  obtain ⟨hends, -⟩ := defective_script_runs_nothing (by simp [Builtin.descriptors]) rfl
    (faulty_calls 's' (Or.inl rfl)) hs (by decide) 0 start
  obtain ⟨-, hunreadable⟩ := defective_script_runs_nothing (by simp [Builtin.descriptors]) rfl
    (faulty_calls 't' (Or.inr rfl)) ht (by decide) 0 start
  obtain ⟨cause, hmissing⟩ := hunreadable (Or.inl ⟨.notFound, rfl⟩)
  have hreport : "error: cli.script: Unclosed heredoc '<<".toList ++ ['E'] ++
      "' starting at line ".toList ++ Text.ofNat 2 ++
      (if faulty.settings.debug then " (UnclosedHeredocError)".toList else []) =
        "error: cli.script: Unclosed heredoc '<<E' starting at line 2".toList := by decide +kernel
  have hresult : "Error reading script file: ".toList ++ ['t'] ++ ": ".toList =
      "Error reading script file: t: ".toList := by decide +kernel
  rw [hresult] at hmissing
  have hdefective := hends _ _ 2 ['E'] _ _ _ _ rfl hdecode faulty_endsInside
  rw [hreport] at hdefective
  exact ⟨hdefective, cause, hmissing⟩

end Shell

end CommandShell
