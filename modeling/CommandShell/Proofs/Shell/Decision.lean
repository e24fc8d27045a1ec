import Mathlib.Tactic.SplitIfs
import CommandShell.Proofs.Command.Registry
import CommandShell.Shell.Evaluation

/-!
# What an input decides

Whether an input calls a command, and which, depends on the input and the shell alone. So an
evaluation has two parts: the session takes the input in, and then the decision is carried out.
-/

namespace CommandShell

/-- What comes of an input: an outcome at once, or the call of a command with tokens. -/
inductive Decision where
  | answer (outcome : Outcome)
  | call (d : Descriptor) (tokens : List Text)

/-- The lines that a verb is typed as. -/
def Verb.spellings : Verb → List Text
  | .quit => ["quit".toList, "q!".toList]
  | .help => ["help".toList, "?".toList]
  | .repl => ["repl".toList]
  | .list => ["tab".toList]

theorem Verb.ofLine?_eq_some_iff {line : Text} {v : Verb} :
    Verb.ofLine? line = some v ↔ line ∈ v.spellings := by
  constructor
  · intro h
    rw [ofLine?] at h
    split_ifs at h with hline hline hline hline
    all_goals
      rw [← Option.some.inj h]
      simpa [spellings] using hline
  · intro h
    revert line
    cases v <;> decide

theorem Verb.ofLine?_eq_none_iff {line : Text} :
    Verb.ofLine? line = none ↔ ∀ v : Verb, line ∉ v.spellings := by
  rw [Option.eq_none_iff_forall_ne_some]
  exact forall_congr' fun v => not_congr ofLine?_eq_some_iff

namespace Shell

theorem reading_eq_verb_iff {shell : Shell} {line : Text} {v : Verb} :
    shell.reading line = .verb v ↔ line ∈ v.spellings := by
  rw [← Verb.ofLine?_eq_some_iff, reading]
  cases Verb.ofLine? line with
  | some w => simp
  | none => cases shell.namespaceMembers line <;> simp

def decisionOfTokens (shell : Shell) (tokens : List Text) : Decision :=
  match tokens with
  | [] => .answer (.result .nothing)
  | token :: rest =>
    match shell.choose token with
    | .run d => .call d rest
    | .several names => .answer (.result (.ofText (Match.listing names)))
    | .unknown => .answer (.failed (shell.report token (.unknownCommand token)))

def decision (shell : Shell) (input : Input) : Decision :=
  match input with
  | .line line =>
    if line.strip.isEmpty then .answer (.result .nothing)
    else
      match shell.reading line.strip with
      | .verb v => .answer (shell.obey v)
      | .members names => .answer (.result (.ofText (namespaceListing line.strip names)))
      | .command => shell.decisionOfTokens (Token.ofLine line.strip)
  | .tokens [] => .answer (.result (.ofText shell.helpText))
  | .tokens tokens => shell.decisionOfTokens tokens

/-- The session that has taken an input in. -/
def taken (shell : Shell) (input : Input) (s : Session) : Session :=
  match input with
  | .line line =>
    if line.strip.isEmpty then s
    else
      match shell.reading line.strip with
      | .command =>
        { s with lastInput := some line.strip, history := s.history.record line.strip }
      | _ => { s with lastInput := some line.strip }
  | .tokens [] => s
  | .tokens tokens => { s with history := s.history.record (Text.join [' '] tokens) }

def carryOut (shell : Shell) (answer : Answerer) (decision : Decision) (s : Session) :
    Option (Outcome × Session) :=
  match decision with
  | .answer outcome => some (outcome, s)
  | .call d tokens => shell.invoke answer d tokens s

/-- What the end of a command's program yields. -/
def concluded (shell : Shell) (name : Text) : Except Failure Value → Outcome
  | .ok value => .result value
  | .error f => .failed (shell.report name f)

variable {shell : Shell} {answer : Answerer} {s : Session}

theorem invoke_eq (d : Descriptor) (tokens : List Text) :
    shell.invoke answer d tokens s =
      ((d.handler ⟨d.name, tokens, shell.settings⟩).run answer (s.note (.ran d.name tokens))).map
        fun ended => (shell.concluded d.name ended.1, ended.2) := by
  rw [invoke]
  cases (d.handler ⟨d.name, tokens, shell.settings⟩).run answer (s.note (.ran d.name tokens)) with
  | none => rfl
  | some ended =>
    obtain ⟨result, after⟩ := ended
    cases result <;> rfl

theorem dispatch_eq (tokens : List Text) :
    shell.dispatch answer tokens s = shell.carryOut answer (shell.decisionOfTokens tokens) s := by
  cases tokens with
  | nil => rfl
  | cons token rest =>
    rw [dispatch, decisionOfTokens]
    cases shell.choose token <;> rfl

/-- An evaluation takes its input in and carries the decision out. -/
theorem evaluateInput_eq (input : Input) :
    shell.evaluateInput answer input s =
      shell.carryOut answer (shell.decision input) (shell.taken input s) := by
  cases input with
  | line line =>
    rw [evaluateInput, evaluateLine, decision, taken]
    by_cases hblank : line.strip.isEmpty = true
    · simp only [hblank, if_true, carryOut]
    · simp only [hblank, if_false, Bool.false_eq_true]
      cases shell.reading line.strip with
      | verb v => rfl
      | members names => rfl
      | command => exact dispatch_eq (Token.ofLine line.strip)
  | tokens tokens =>
    cases tokens with
    | nil => rfl
    | cons token rest => exact dispatch_eq (token :: rest)

theorem evaluateLine_eq (line : Text) :
    shell.evaluateLine answer line s =
      shell.carryOut answer (shell.decision (.line line)) (shell.taken (.line line) s) :=
  evaluateInput_eq (.line line)

/-- A command that was carried out came to the end of its program. -/
theorem exists_run_of_invoke {d : Descriptor} {tokens : List Text} {outcome : Outcome}
    {after : Session} (h : shell.invoke answer d tokens s = some (outcome, after)) :
    ∃ result, (d.handler ⟨d.name, tokens, shell.settings⟩).run answer
      (s.note (.ran d.name tokens)) = some (result, after) := by
  rw [invoke_eq, Option.map_eq_some_iff] at h
  obtain ⟨⟨result, mid⟩, hrun, hended⟩ := h
  obtain ⟨-, rfl⟩ := Prod.mk.inj hended
  exact ⟨result, hrun⟩

theorem decisionOfTokens_eq_call_iff {tokens rest : List Text} {d : Descriptor} :
    shell.decisionOfTokens tokens = .call d rest ↔
      ∃ token, tokens = token :: rest ∧ shell.choose token = .run d := by
  cases tokens with
  | nil => simp [decisionOfTokens]
  | cons token others =>
    have hfirst : (∃ first, token :: others = first :: rest ∧ shell.choose first = .run d) ↔
        others = rest ∧ shell.choose token = .run d := by
      constructor
      · rintro ⟨first, heq, hrun⟩
        obtain ⟨rfl, rfl⟩ := List.cons.inj heq
        exact ⟨rfl, hrun⟩
      · rintro ⟨rfl, hrun⟩
        exact ⟨token, rfl, hrun⟩
    rw [decisionOfTokens, hfirst]
    cases shell.choose token with
    | run found => simp [and_comm]
    | several names => simp
    | unknown => simp

/-- A line calls a command if it reads as a command line and its first token chooses the command. -/
theorem decision_line_eq_call_iff {line : Text} {d : Descriptor} {rest : List Text} :
    shell.decision (.line line) = .call d rest ↔
      shell.reading line.strip = .command ∧
        ∃ token, Token.ofLine line.strip = token :: rest ∧ shell.choose token = .run d := by
  rw [decision]
  by_cases hblank : line.strip = []
  · rw [hblank]
    simp [show Token.ofLine [] = [] from rfl]
  · rw [if_neg (by simpa using hblank)]
    cases shell.reading line.strip with
    | verb v => simp
    | members names => simp
    | command => simpa using decisionOfTokens_eq_call_iff

theorem choose_eq_run_iff {token : Text} {d : Descriptor} :
    shell.choose token = .run d ↔
      shell.registry.get? token = some d ∨
        shell.registry.get? token = none ∧
          ∃ name, Match.resolve token shell.registry.visibleNames = .one name ∧
            shell.registry.get? name = some d := by
  rw [choose]
  cases hget : shell.registry.get? token with
  | some found => simp
  | none =>
    cases hresolve : Match.resolve token shell.registry.visibleNames with
    | unknown => simp
    | several names => simp
    | one name => cases hname : shell.registry.get? name <;> simp [hname]

end Shell

end CommandShell
