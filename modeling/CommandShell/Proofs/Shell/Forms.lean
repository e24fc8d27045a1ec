import CommandShell.Proofs.Shell.Repetition
import CommandShell.Proofs.Token.Quoting

/-!
# The two forms of an input

An input is given as tokens or as a line. Main statement: tokens without blanks and quotes do what
the line of these tokens does, unless that line is a verb or the bare name of a namespace. The line
alone becomes the last input; that is all that a command can tell the two by.
-/

namespace CommandShell.Shell

variable {shell : Shell} {tokens : List Text}

/-- A line from which bare tokens are cut back decides what they decide. -/
theorem decision_join (given : tokens ≠ []) (hbare : ∀ t ∈ tokens, Token.IsBare t)
    (hreading : shell.reading (Text.join [' '] tokens) = .command) :
    shell.decision (.tokens tokens) = shell.decision (.line (Text.join [' '] tokens)) := by
  obtain ⟨token, rest, rfl⟩ := List.exists_cons_of_ne_nil given
  have hstrip := Token.strip_join fun t ht => (hbare t ht).unbroken
  have hcut := Token.ofLine_join fun t ht => (hbare t ht).written
  exact (decision_of_ofLine hstrip hreading hcut).symm

theorem join_ne_nil (given : tokens ≠ []) (hbare : ∀ t ∈ tokens, Token.IsBare t) :
    Text.join [' '] tokens ≠ [] := by
  intro hnil
  have hcut := Token.ofLine_join fun t ht => (hbare t ht).written
  rw [hnil] at hcut
  exact given hcut.symm

theorem taken_tokens (shell : Shell) (given : tokens ≠ []) (s : Session) :
    shell.taken (.tokens tokens) s =
      { s with history := s.history.record (Text.join [' '] tokens) } := by
  obtain ⟨token, rest, rfl⟩ := List.exists_cons_of_ne_nil given
  rfl

theorem taken_join (given : tokens ≠ []) (hbare : ∀ t ∈ tokens, Token.IsBare t)
    (hreading : shell.reading (Text.join [' '] tokens) = .command) (s : Session) :
    shell.taken (.line (Text.join [' '] tokens)) s =
      { shell.taken (.tokens tokens) s with lastInput := some (Text.join [' '] tokens) } := by
  have hstrip := Token.strip_join fun t ht => (hbare t ht).unbroken
  have hblank := join_ne_nil given hbare
  rw [taken_tokens shell given, taken, hstrip, if_neg (by simpa using hblank), hreading]

/--
Tokens without blanks and quotes, and the line of these tokens with single spaces between them, if
it is no verb and no bare namespace. Both are recorded as that line, if it is to be recorded, and
decide the same: the command that the first token means is run with the other tokens, and if the
token means none, both have the list of what it resolves to or the report of an unknown name as
their outcome, and nothing is run.
-/
theorem tokens_do_what_their_line_does (shell : Shell) {tokens : List Text}
    (given : tokens ≠ []) (hbare : ∀ t ∈ tokens, Token.IsBare t)
    (hverb : ∀ v : Verb, Text.join [' '] tokens ∉ v.spellings)
    (hnamespace : ¬ shell.BareNamespace (Text.join [' '] tokens)) :
    let line := Text.join [' '] tokens
    (∀ s, (shell.taken (.tokens tokens) s).history = s.history.record line ∧
      (shell.taken (.line line) s).history = s.history.record line) ∧
    shell.decision (.tokens tokens) = shell.decision (.line line) ∧
    ∃ token rest, tokens = token :: rest ∧ ∀ answer s,
      let told := { s with history := s.history.record line }
      let typed := { told with lastInput := some line }
      (∀ c, shell.Means token c →
        shell.evaluateInput answer (.tokens tokens) s = shell.invoke answer c rest told ∧
        shell.evaluateInput answer (.line line) s = shell.invoke answer c rest typed) ∧
      ((∀ c, ¬ shell.Means token c) → ∃ outcome,
        shell.evaluateInput answer (.tokens tokens) s = some (outcome, told) ∧
        shell.evaluateInput answer (.line line) s = some (outcome, typed) ∧
        (Match.resolve token shell.registry.visibleNames = .unknown ∧
            outcome = .failed (shell.report token (.unknownCommand token)) ∨
          ∃ names, Match.resolve token shell.registry.visibleNames = .several names ∧
            outcome = .result (.ofText (Match.listing names)) ∧ 2 ≤ names.length ∧
            (∀ name ∈ names, name ∈ shell.registry.visibleNames) ∧
            names.Pairwise fun a b => Text.le a b = true ∧ a ≠ b)) := by
  intro line
  have hreading : shell.reading line = .command := reading_eq_command_iff.2 ⟨hverb, hnamespace⟩
  have hdecision := decision_join given hbare hreading
  have htold := taken_tokens shell given
  have htyped := taken_join given hbare hreading
  refine ⟨fun s => ⟨by rw [htold], by rw [htyped, htold]⟩, hdecision, ?_⟩
  obtain ⟨token, rest, rfl⟩ := List.exists_cons_of_ne_nil given
  refine ⟨token, rest, rfl, fun answer s => ?_⟩
  intro told typed
  have htokens : shell.evaluateInput answer (.tokens (token :: rest)) s =
      shell.carryOut answer (shell.decisionOfTokens (token :: rest)) told := by
    rw [evaluateInput_eq, htold]
    rfl
  have hline : shell.evaluateInput answer (.line line) s =
      shell.carryOut answer (shell.decisionOfTokens (token :: rest)) typed := by
    rw [evaluateInput_eq, ← hdecision, htyped, htold]
    rfl
  constructor
  · intro c hmeans
    have hcall : shell.decisionOfTokens (token :: rest) = .call c rest :=
      decisionOfTokens_eq_call_iff.2 ⟨token, rfl, choose_eq_run_iff_means.2 hmeans⟩
    rw [htokens, hline, hcall]
    exact ⟨rfl, rfl⟩
  · intro hnone
    obtain ⟨outcome, hanswer, hform⟩ := decisionOfTokens_of_forall_not_means rest hnone
    rw [htokens, hline, hanswer]
    exact ⟨outcome, rfl, rfl, hform⟩

/-- A name in capitals, an option and a dotted word are the same given as tokens and typed. -/
theorem tokens_do_what_their_line_does_dotted :
    let tokens := ["ECHO".toList, "--a=b.c".toList, "é".toList]
    let line := "ECHO --a=b.c é".toList
    tokens ≠ [] ∧ (∀ t ∈ tokens, Token.IsBare t) ∧ Text.join [' '] tokens = line ∧
      (∀ v : Verb, line ∉ v.spellings) ∧ ¬ bare.BareNamespace line ∧
      ∃ c, c.name = "dbg.echo".toList ∧ ∀ answer s,
        let told := { s with history := s.history.record line }
        bare.evaluateInput answer (.tokens tokens) s =
            bare.invoke answer c ["--a=b.c".toList, "é".toList] told ∧
          bare.evaluateInput answer (.line line) s =
            bare.invoke answer c ["--a=b.c".toList, "é".toList]
              { told with lastInput := some line } := by
  intro tokens line
  have given : tokens ≠ [] := by decide
  have hbare : ∀ t ∈ tokens, Token.IsBare t := by
    intro t ht
    simp only [tokens, List.mem_cons, List.not_mem_nil, or_false] at ht
    rcases ht with rfl | rfl | rfl <;> decide
  have hjoin : Text.join [' '] tokens = line := by decide
  have hreading : bare.reading line = .command := by decide +kernel
  obtain ⟨hverb, hnamespace⟩ := reading_eq_command_iff.1 hreading
  refine ⟨given, hbare, hjoin, hverb, hnamespace, ?_⟩
  have hone : Match.resolve "ECHO".toList bare.registry.visibleNames = .one "dbg.echo".toList := by
    decide +kernel
  obtain ⟨c, hc, hname, -⟩ := exists_of_resolve_eq_one hone
  have hmeans : bare.Means "ECHO".toList c := ⟨hc, Or.inr ⟨by decide +kernel, hname ▸ hone⟩⟩
  refine ⟨c, hname, fun answer s => ?_⟩
  have hsame := tokens_do_what_their_line_does bare given hbare (hjoin ▸ hverb) (hjoin ▸ hnamespace)
  rw [hjoin] at hsame
  obtain ⟨-, -, token, rest, htokens, hruns⟩ := hsame
  obtain ⟨rfl, rfl⟩ := List.cons.inj htokens
  exact (hruns answer s).1 c hmeans

end CommandShell.Shell
