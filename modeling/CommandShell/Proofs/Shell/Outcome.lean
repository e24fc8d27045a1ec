import CommandShell.Proofs.Shell.Dispatch
import CommandShell.Proofs.Shell.Interaction

/-!
# What an evaluation comes to

The shell answers some inputs by itself; any other has a first token, by which it is dispatched. If
the command that is called, if any, comes to an end, so does the evaluation. A failure on the way is
asked for its text, to be reported. Main statement: the outcome reports that the first token is
unknown or that the command called failed, and nothing else; but a failure that has no text is not
reported, and what is raised in its place leaves the evaluation.
-/

namespace CommandShell

namespace Outcome

/-- The report that an outcome makes, if it reports a failure. -/
def report? : Outcome → Option Text
  | .failed report => some report
  | .result _ | .quit => none

/-- What an outcome has to display. -/
def value : Outcome → Value
  | .result value => value
  | .failed _ | .quit => .nothing

end Outcome

/-- The tokens that an input consists of. -/
def Input.cut : Input → List Text
  | .line typed => Token.ofLine typed
  | .tokens given => given

/-- What asking a failure for its text comes to: the text, or what is raised in its place. -/
abbrev Telling := Failure → Except Failure Text

/-- Every failure has its wording for a text. -/
def Telling.wording : Telling := fun f => .ok f.message

/-- A way to call commands: how a call ends, and the session after it, if it does. -/
abbrev Caller := Descriptor → List Text → Session → Option (Except Failure Value × Session)

namespace Shell

/-- The input is a blank line, a verb, the bare name of a namespace, or no token at all. -/
def AnswersItself (shell : Shell) : Input → Prop
  | .line line =>
    line.strip = [] ∨ (∃ v : Verb, line.strip ∈ v.spellings) ∨ shell.BareNamespace line.strip
  | .tokens tokens => tokens = []

/-- The input is dispatched by that token, which is no command's name and resolves to none. -/
structure Lost (shell : Shell) (input : Input) (token : Text) : Prop where
  dispatched : ¬ shell.AnswersItself input
  first : ∃ rest, input.cut = token :: rest
  no_command : token ∉ shell.registry.commands.map (·.name)
  unknown : Match.resolve token shell.registry.visibleNames = .unknown

/-- The input is dispatched to the command, and the call of it, with the tokens behind, fails. -/
def Fails (shell : Shell) (call : Caller) (input : Input) (s : Session) (d : Descriptor)
    (f : Failure) : Prop :=
  ¬ shell.AnswersItself input ∧ ∃ token rest after, input.cut = token :: rest ∧
    shell.Means token d ∧ call d rest (shell.taken input s) = some (.error f, after)

/-- Calls commands by running their programs, where nothing is raised on the way. -/
def running (shell : Shell) (depth : Nat) : Caller := fun d tokens s =>
  shell.execute depth (d.handler ⟨d.name, tokens, shell.settings⟩) (s.note (.ran d.name tokens))

/-- What the end of a call yields when a failure is asked for its text. -/
def concludedBy (shell : Shell) (tell : Telling) (name : Text) :
    Except Failure Value → Except Failure Outcome
  | .ok value => .ok (.result value)
  | .error f =>
    match tell f with
    | .ok text => .ok (.failed (Failure.report name (f.reasonGiven text shell.settings.debug)))
    | .error raised => .error raised

/--
Evaluates an input, whatever commands do, further evaluations included, and however failures tell
their texts. What is raised in place of a text is raised by the evaluation.
-/
def attempt (shell : Shell) (call : Caller) (tell : Telling) (input : Input) (s : Session) :
    Option (Except Failure Outcome × Session) :=
  match shell.decision input with
  | .answer outcome => some (.ok outcome, shell.taken input s)
  | .call d tokens =>
    (call d tokens (shell.taken input s)).map fun ended =>
      (shell.concludedBy tell d.name ended.1, ended.2)

variable {shell : Shell} {call : Caller} {tell : Telling} {s : Session} {outcome : Outcome}
  {input : Input} {token : Text} {rest : List Text} {d : Descriptor} {f : Failure}

/-! ## What is dispatched -/

theorem decision_of_answersItself (h : shell.AnswersItself input) :
    ∃ outcome, shell.decision input = .answer outcome ∧ outcome.report? = none := by
  cases input with
  | tokens tokens =>
    obtain rfl : tokens = [] := h
    exact ⟨_, rfl, rfl⟩
  | line line =>
    rw [decision]
    by_cases hblank : line.strip = []
    · rw [if_pos (by simpa using hblank)]
      exact ⟨_, rfl, rfl⟩
    · rw [if_neg (by simpa using hblank)]
      cases hreading : shell.reading line.strip with
      | verb v => exact ⟨shell.obey v, rfl, by cases v <;> rfl⟩
      | members names => exact ⟨_, rfl, rfl⟩
      | command =>
        obtain ⟨hverb, hnamespace⟩ := reading_eq_command_iff.1 hreading
        rcases h with h | ⟨v, hv⟩ | h
        · exact absurd h hblank
        · exact absurd hv (hverb v)
        · exact absurd h hnamespace

/-- An input that is dispatched has a first token. -/
theorem exists_cut_of_not_answersItself (h : ¬ shell.AnswersItself input) :
    ∃ token rest, input.cut = token :: rest ∧
      shell.decision input = shell.decisionOfTokens (token :: rest) := by
  cases input with
  | tokens tokens =>
    obtain ⟨token, rest, rfl⟩ := List.exists_cons_of_ne_nil h
    exact ⟨token, rest, rfl, rfl⟩
  | line line =>
    rw [AnswersItself, not_or, not_or, not_exists] at h
    obtain ⟨hnonblank, hverb, hnamespace⟩ := h
    obtain ⟨token, rest, htokens, hdecision, -⟩ :=
      evaluateLine_of_command hnonblank (reading_eq_command_iff.2 ⟨hverb, hnamespace⟩)
    exact ⟨token, rest, htokens, hdecision⟩

theorem choose_eq_unknown_iff :
    shell.choose token = .unknown ↔
      token ∉ shell.registry.commands.map (·.name) ∧
        Match.resolve token shell.registry.visibleNames = .unknown := by
  rw [← Registry.get?_eq_none_iff, choose]
  cases shell.registry.get? token with
  | some found => simp
  | none =>
    cases hresolve : Match.resolve token shell.registry.visibleNames with
    | unknown => simp
    | several names => simp
    | one name =>
      have hvisible := Match.mem_of_resolve_eq_one hresolve
      obtain ⟨d, hget⟩ := Registry.exists_get?_of_mem_visibleNames hvisible
      simp [hget]

/-- An input is dispatched to the command that its first token means. -/
theorem decision_eq_call_iff_means :
    shell.decision input = .call d rest ↔
      ¬ shell.AnswersItself input ∧ ∃ token, input.cut = token :: rest ∧ shell.Means token d := by
  by_cases hself : shell.AnswersItself input
  · obtain ⟨given, hdecision, -⟩ := decision_of_answersItself hself
    simp [hself, hdecision]
  · obtain ⟨token, others, hcut, hdecision⟩ := exists_cut_of_not_answersItself hself
    rw [hdecision, hcut, decisionOfTokens_eq_call_iff]
    simp only [choose_eq_run_iff_means, hself, not_false_eq_true, true_and]

theorem fails_iff :
    shell.Fails call input s d f ↔ ∃ rest after, shell.decision input = .call d rest ∧
      call d rest (shell.taken input s) = some (.error f, after) := by
  simp only [decision_eq_call_iff_means, Fails]
  constructor
  · rintro ⟨hself, token, rest, after, hcut, hmeans, hcall⟩
    exact ⟨rest, after, ⟨hself, token, hcut, hmeans⟩, hcall⟩
  · rintro ⟨rest, after, ⟨hself, token, hcut, hmeans⟩, hcall⟩
    exact ⟨hself, token, rest, after, hcut, hmeans, hcall⟩

theorem Lost.decision (h : shell.Lost input token) :
    shell.decision input = .answer (.failed (shell.report token (.unknownCommand token))) := by
  obtain ⟨rest, hcut⟩ := h.first
  obtain ⟨first, others, hcut', hdecision⟩ := exists_cut_of_not_answersItself h.dispatched
  obtain ⟨rfl, rfl⟩ := List.cons.inj (hcut.symm.trans hcut')
  rw [hdecision, decisionOfTokens, choose_eq_unknown_iff.2 ⟨h.no_command, h.unknown⟩]

/-! ## What is reported -/

/-- Without a call, only an unknown first token is reported. -/
theorem report?_of_decision (h : shell.decision input = .answer outcome) (report : Text) :
    outcome.report? = some report ↔
      ∃ token, shell.Lost input token ∧
        report = shell.report token (.unknownCommand token) := by
  constructor
  · intro hreport
    by_cases hself : shell.AnswersItself input
    · obtain ⟨given, hdecision, hnone⟩ := decision_of_answersItself hself
      obtain rfl := Decision.answer.inj (hdecision.symm.trans h)
      rw [hnone] at hreport
      contradiction
    · obtain ⟨token, rest, hcut, hdecision⟩ := exists_cut_of_not_answersItself hself
      rw [hdecision, decisionOfTokens] at h
      cases hchoose : shell.choose token with
      | run d =>
        rw [hchoose] at h
        contradiction
      | several names =>
        rw [hchoose] at h
        obtain rfl := Decision.answer.inj h
        contradiction
      | unknown =>
        rw [hchoose] at h
        obtain rfl := Decision.answer.inj h
        obtain ⟨hname, hunknown⟩ := choose_eq_unknown_iff.1 hchoose
        exact ⟨token, ⟨hself, ⟨rest, hcut⟩, hname, hunknown⟩, (Option.some.inj hreport).symm⟩
  · rintro ⟨token, hlost, rfl⟩
    obtain rfl := Decision.answer.inj (h.symm.trans hlost.decision)
    rfl

/-- Without a call, only a line that spells the wish to leave has it as its outcome. -/
theorem isQuit_of_decision (h : shell.decision input = .answer outcome) :
    outcome.isQuit = true ↔ ∃ line, input = .line line ∧ line.strip ∈ Verb.quit.spellings := by
  have hevaluate : ∀ s, shell.evaluateInput (shell.answer 0) input s =
      some (outcome, shell.taken input s) := by
    intro s
    rw [evaluateInput_eq, h, carryOut]
  have hstarted := hevaluate (.start shell.settings (.ofTyped []))
  cases input with
  | line line =>
    rw [isQuit_iff hstarted]
    simp
  | tokens tokens =>
    have hno : outcome.isQuit = false := by
      cases tokens with
      | nil =>
        obtain rfl := Decision.answer.inj h
        rfl
      | cons token rest =>
        change shell.dispatch _ (token :: rest) _ = _ at hstarted
        exact isQuit_of_dispatch hstarted
    simp [hno]

/-- What is dispatched to a command spells no wish to leave. -/
theorem not_quits_of_call (h : shell.decision input = .call d rest) :
    ¬ ∃ line, input = .line line ∧ line.strip ∈ Verb.quit.spellings := by
  rintro ⟨line, rfl, hquit⟩
  obtain ⟨hself, -⟩ := decision_eq_call_iff_means.1 h
  exact hself (Or.inr (Or.inl ⟨.quit, hquit⟩))

/-! ## How an attempt goes -/

theorem attempt_of_answer (h : shell.decision input = .answer outcome) :
    shell.attempt call tell input s = some (.ok outcome, shell.taken input s) := by
  rw [attempt, h]

theorem attempt_of_call {ended : Except Failure Value} {after : Session}
    (h : shell.decision input = .call d rest)
    (hcall : call d rest (shell.taken input s) = some (ended, after)) :
    shell.attempt call tell input s = some (shell.concludedBy tell d.name ended, after) := by
  rw [attempt, h]
  simp only [hcall, Option.map_some]

/-- An attempt is an outcome that was decided, or the end of the call that was. -/
theorem attempt_cases {result : Except Failure Outcome} {after : Session}
    (h : shell.attempt call tell input s = some (result, after)) :
    (∃ outcome, shell.decision input = .answer outcome ∧ result = .ok outcome) ∨
      ∃ d rest ended, shell.decision input = .call d rest ∧
        call d rest (shell.taken input s) = some (ended, after) ∧
        result = shell.concludedBy tell d.name ended := by
  rw [attempt] at h
  cases hdecision : shell.decision input with
  | answer outcome =>
    rw [hdecision] at h
    obtain ⟨rfl, -⟩ := Prod.mk.inj (Option.some.inj h)
    exact Or.inl ⟨outcome, rfl, rfl⟩
  | call d rest =>
    simp only [hdecision, Option.map_eq_some_iff] at h
    obtain ⟨⟨ended, mid⟩, hcall, hended⟩ := h
    obtain ⟨rfl, rfl⟩ := Prod.mk.inj hended
    exact Or.inr ⟨d, rest, ended, rfl, hcall, rfl⟩

/-- Without a call nothing fails, and a call fails by the failure that it ends with. -/
theorem not_fails_of_answer (h : shell.decision input = .answer outcome) :
    ¬ shell.Fails call input s d f := by
  rw [fails_iff, h]
  simp

theorem fails_iff_of_call {ended : Except Failure Value} {after : Session} {other : Descriptor}
    (h : shell.decision input = .call d rest)
    (hcall : call d rest (shell.taken input s) = some (ended, after)) :
    shell.Fails call input s other f ↔ other = d ∧ ended = .error f := by
  rw [fails_iff, h]
  constructor
  · rintro ⟨tokens, later, hdecision, hended⟩
    obtain ⟨rfl, rfl⟩ := Decision.call.inj hdecision
    rw [hcall] at hended
    exact ⟨rfl, (Prod.mk.inj (Option.some.inj hended)).1⟩
  · rintro ⟨rfl, rfl⟩
    exact ⟨rest, after, rfl, hcall⟩

theorem exists_attempt (tell : Telling)
    (ends : ∀ d tokens, shell.decision input = .call d tokens →
      ∃ ended, call d tokens (shell.taken input s) = some ended) :
    ∃ result after, shell.attempt call tell input s = some (result, after) := by
  cases hdecision : shell.decision input with
  | answer outcome => exact ⟨_, _, attempt_of_answer hdecision⟩
  | call d rest =>
    obtain ⟨⟨ended, after⟩, hcall⟩ := ends d rest hdecision
    exact ⟨_, _, attempt_of_call hdecision hcall⟩

/-! ## What is raised and what is reported -/

theorem concludedBy_eq_error_iff {name : Text} {ended : Except Failure Value} {raised : Failure} :
    shell.concludedBy tell name ended = .error raised ↔
      ∃ f, ended = .error f ∧ tell f = .error raised := by
  cases ended with
  | ok value => simp [concludedBy]
  | error f => cases htell : tell f <;> simp [concludedBy, htell]

theorem concludedBy_eq_ok_iff {name : Text} {ended : Except Failure Value} :
    shell.concludedBy tell name ended = .ok outcome ↔
      (∃ value, ended = .ok value ∧ outcome = .result value) ∨
      ∃ f text, ended = .error f ∧ tell f = .ok text ∧
        outcome = .failed (Failure.report name (f.reasonGiven text shell.settings.debug)) := by
  cases ended with
  | ok value => simp [concludedBy, eq_comm]
  | error f => cases htell : tell f <;> simp [concludedBy, htell, eq_comm]

/-- What comes in place of the text of the failure that a call ends with is raised. -/
theorem raises_iff {result : Except Failure Outcome} {after : Session}
    (h : shell.attempt call tell input s = some (result, after)) (raised : Failure) :
    result = .error raised ↔ ∃ d f, shell.Fails call input s d f ∧ tell f = .error raised := by
  rcases attempt_cases h with ⟨outcome, hdecision, rfl⟩ | ⟨d, rest, ended, hdecision, hcall, rfl⟩
  · simp [not_fails_of_answer hdecision]
  · simp [concludedBy_eq_error_iff, fails_iff_of_call hdecision hcall]

/-- An outcome reports the first token that is unknown, or a failure that has a text. -/
theorem report?_of_attempt {after : Session}
    (h : shell.attempt call tell input s = some (.ok outcome, after)) (report : Text) :
    outcome.report? = some report ↔
      (∃ token, shell.Lost input token ∧ report = shell.report token (.unknownCommand token)) ∨
      ∃ d f text, shell.Fails call input s d f ∧ tell f = .ok text ∧
        report = Failure.report d.name (f.reasonGiven text shell.settings.debug) := by
  rcases attempt_cases h with
    ⟨given, hdecision, hgiven⟩ | ⟨d, rest, ended, hdecision, hcall, hended⟩
  · obtain rfl := Except.ok.inj hgiven
    simp [report?_of_decision hdecision, not_fails_of_answer hdecision]
  · have hlost : ∀ token, ¬ shell.Lost input token := by
      intro token hlost
      rw [hlost.decision] at hdecision
      contradiction
    rcases concludedBy_eq_ok_iff.1 hended.symm with ⟨value, rfl, rfl⟩ | ⟨f, text, rfl, htell, rfl⟩
    · simp [hlost, fails_iff_of_call hdecision hcall, Outcome.report?]
    · simp [hlost, fails_iff_of_call hdecision hcall, htell, Outcome.report?, eq_comm]

theorem isQuit_of_attempt {after : Session}
    (h : shell.attempt call tell input s = some (.ok outcome, after)) :
    outcome.isQuit = true ↔ ∃ line, input = .line line ∧ line.strip ∈ Verb.quit.spellings := by
  rcases attempt_cases h with ⟨given, hdecision, hgiven⟩ | ⟨d, rest, ended, hdecision, -, hended⟩
  · obtain rfl := Except.ok.inj hgiven
    exact isQuit_of_decision hdecision
  · have hno : outcome.isQuit = false := by
      rcases concludedBy_eq_ok_iff.1 hended.symm with ⟨value, -, rfl⟩ | ⟨f, text, -, -, rfl⟩ <;> rfl
    simp [hno, not_quits_of_call hdecision]

/-- Where every failure has its wording for a text, nothing is raised. -/
theorem attempt_running (shell : Shell) (depth : Nat) (input : Input) (s : Session) :
    shell.attempt (shell.running depth) .wording input s =
      (shell.evaluate depth input s).map fun ended => (.ok ended.1, ended.2) := by
  have hconcluded : ∀ name ended,
      shell.concludedBy .wording name ended = .ok (shell.concluded name ended) := by
    intro name ended
    cases ended <;> rfl
  rw [attempt, evaluate, evaluateInput_eq]
  cases shell.decision input with
  | answer outcome => rfl
  | call d tokens =>
    simp only [carryOut, invoke_eq, Option.map_map, running, execute, hconcluded]
    rfl

/--
An evaluation comes to an end if the command that the input calls, if any, does, whatever else that
command does; and an input that is dispatched has a first token. The evaluation raises something
exactly if the command that the first token means is called and fails with a failure that has no
text, and then it raises what comes in place of the text. Otherwise it has an outcome. This reports
a failure exactly if the input is dispatched by its first token, and that token means no command or
the command that it means is called and fails. It leaves the session exactly if the input is a line
that spells that wish; and an outcome that reports a failure has nothing to display and leaves
nothing. Where every failure has its wording for a text, this is how the session evaluates, and
nothing is raised.
-/
theorem evaluation_raises_what_has_no_text (shell : Shell) (call : Caller) (tell : Telling)
    (input : Input) (s : Session)
    (ends : ∀ d tokens, shell.decision input = .call d tokens →
      ∃ ended, call d tokens (shell.taken input s) = some ended) :
    (¬ shell.AnswersItself input → input.cut ≠ []) ∧
    (∃ result after, shell.attempt call tell input s = some (result, after) ∧
      (∀ raised, result = .error raised ↔
        ∃ d f, shell.Fails call input s d f ∧ tell f = .error raised) ∧
      ∀ outcome, result = .ok outcome →
        (∀ report, outcome.report? = some report ↔
          (∃ token, shell.Lost input token ∧
            report = shell.report token (.unknownCommand token)) ∨
          ∃ d f text, shell.Fails call input s d f ∧ tell f = .ok text ∧
            report = Failure.report d.name (f.reasonGiven text shell.settings.debug)) ∧
        (outcome.isQuit = true ↔
          ∃ line, input = .line line ∧ line.strip ∈ Verb.quit.spellings) ∧
        (outcome.report? ≠ none → outcome.value = .nothing ∧ outcome.isQuit = false)) ∧
    ∀ depth, shell.attempt (shell.running depth) .wording input s =
      (shell.evaluate depth input s).map fun ended => (.ok ended.1, ended.2) := by
  refine ⟨?_, ?_, fun depth => attempt_running shell depth input s⟩
  · intro hself
    obtain ⟨token, rest, hcut, -⟩ := exists_cut_of_not_answersItself hself
    rw [hcut]
    exact List.cons_ne_nil token rest
  · obtain ⟨result, after, hattempt⟩ := exists_attempt tell ends
    refine ⟨result, after, hattempt, raises_iff hattempt, ?_⟩
    rintro outcome rfl
    refine ⟨report?_of_attempt hattempt, isQuit_of_attempt hattempt, ?_⟩
    intro hreport
    cases outcome with
    | failed report => exact ⟨rfl, rfl⟩
    | result value => exact absurd rfl hreport
    | quit => exact absurd rfl hreport

/-- A failure that has no text. -/
def mute : Failure := .raised "Mute".toList []

/-- What is raised when it is asked for one. -/
def noText : Failure := .raised "TypeError".toList "returned non-string".toList

def muteAlone : Telling := fun f => if f = mute then .error noText else .ok f.message

/-- A command that fails without a text. -/
def boom : Descriptor := ⟨"boom".toList, [], [], false, fun _ => .fail mute⟩

def booming : Shell := ⟨⟨[boom], by decide⟩, .default, [], fun _ => .error .notFound⟩

/-- The line that calls the command raises what is raised in place of the text. -/
theorem evaluation_raises_what_has_no_text_boom :
    let input := Input.line "boom".toList
    let start := Session.start booming.settings (.ofTyped [])
    (∀ d tokens, booming.decision input = .call d tokens →
      ∃ ended, booming.running 0 d tokens (booming.taken input start) = some ended) ∧
    ∃ after, booming.attempt (booming.running 0) muteAlone input start =
      some (.error noText, after) := by
  intro input start
  have hreading : booming.reading (Text.strip "boom".toList) = .command := by decide +kernel
  have hcut : Token.ofLine (Text.strip "boom".toList) = ["boom".toList] := by decide +kernel
  have hget : booming.registry.get? "boom".toList = some boom := rfl
  have hdecision : booming.decision input = .call boom [] :=
    decision_line_eq_call_iff.2 ⟨hreading, _, hcut, choose_eq_run_iff.2 (Or.inl hget)⟩
  have hcall : booming.running 0 boom [] (booming.taken input start) =
      some (.error mute, (booming.taken input start).note (.ran boom.name [])) := rfl
  have hends : ∀ d tokens, booming.decision input = .call d tokens →
      ∃ ended, booming.running 0 d tokens (booming.taken input start) = some ended := by
    intro d tokens h
    obtain ⟨rfl, rfl⟩ := Decision.call.inj (hdecision.symm.trans h)
    exact ⟨_, hcall⟩
  obtain ⟨-, ⟨result, after, hattempt, hraises, -⟩, -⟩ :=
    evaluation_raises_what_has_no_text booming (booming.running 0) muteAlone input start hends
  have hraised := (hraises noText).2 ⟨boom, mute, fails_iff.2 ⟨[], _, hdecision, hcall⟩, rfl⟩
  rw [hraised] at hattempt
  exact ⟨hends, after, hattempt⟩

end Shell

end CommandShell
