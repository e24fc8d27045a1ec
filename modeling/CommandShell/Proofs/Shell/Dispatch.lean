import CommandShell.Proofs.Shell.Retrigger

/-!
# Which command a line runs

A line that is no verb and no bare name of a namespace has a first token, and that token means at
most one command: the one of that exact name, or else the visible one that it resolves to. Main
statement: the line runs the command that its first token means, once, and no other; if the token
means none, the outcome says so and nothing is run.
-/

namespace CommandShell

/-- A line without a dot or a space that is no command's name but begins a visible one's. -/
structure Shell.BareNamespace (shell : Shell) (line : Text) : Prop where
  no_dot : '.' ∉ line
  no_space : ' ' ∉ line
  no_command : line ∉ shell.registry.commands.map (·.name)
  has_member : ∃ name ∈ shell.registry.visibleNames, line ++ ['.'] <+: name

/-- The token is the name of the command, or it is no command's name and resolves to it. -/
def Shell.Means (shell : Shell) (token : Text) (c : Descriptor) : Prop :=
  c ∈ shell.registry.commands ∧
    (c.name = token ∨
      token ∉ shell.registry.commands.map (·.name) ∧
        Match.resolve token shell.registry.visibleNames = .one c.name)

namespace Shell

variable {shell : Shell} {token line : Text} {c d : Descriptor}

/-! ## What a token means -/

theorem choose_eq_run_iff_means : shell.choose token = .run c ↔ shell.Means token c := by
  rw [choose_eq_run_iff, Means, Registry.get?_eq_some_iff, Registry.get?_eq_none_iff]
  constructor
  · rintro (⟨hc, hname⟩ | ⟨hnone, name, hone, hget⟩)
    · exact ⟨hc, Or.inl hname⟩
    · obtain ⟨hc, rfl⟩ := Registry.get?_eq_some_iff.1 hget
      exact ⟨hc, Or.inr ⟨hnone, hone⟩⟩
  · rintro ⟨hc, hname | ⟨hnone, hone⟩⟩
    · exact Or.inl ⟨hc, hname⟩
    · exact Or.inr ⟨hnone, c.name, hone, Registry.get?_eq_some_iff.2 ⟨hc, rfl⟩⟩

theorem Means.unique (hc : shell.Means token c) (hd : shell.Means token d) : c = d := by
  rw [← choose_eq_run_iff_means] at hc hd
  exact Choice.run.inj (hc.symm.trans hd)

/-- No other name diverts a token that is the name of a command. -/
theorem means_name_iff (hc : c ∈ shell.registry.commands) : shell.Means c.name d ↔ d = c := by
  have hself : shell.Means c.name c := ⟨hc, Or.inl rfl⟩
  constructor
  · exact fun hd => hd.unique hself
  · rintro rfl
    exact hself

theorem exists_of_resolve_eq_one {name : Text}
    (h : Match.resolve token shell.registry.visibleNames = .one name) :
    ∃ c ∈ shell.registry.commands, c.name = name ∧ c.hidden = false := by
  have hvisible := Match.mem_of_resolve_eq_one h
  obtain ⟨c, hget⟩ := Registry.exists_get?_of_mem_visibleNames hvisible
  obtain ⟨hc, rfl⟩ := Registry.get?_eq_some_iff.1 hget
  exact ⟨c, hc, rfl, Registry.hidden_of_mem_visibleNames hc hvisible⟩

theorem Means.visible (h : shell.Means token c) (hname : c.name ≠ token) : c.hidden = false := by
  obtain ⟨hc, heq | ⟨-, hone⟩⟩ := h
  · exact absurd heq hname
  · exact Registry.hidden_of_mem_visibleNames hc (Match.mem_of_resolve_eq_one hone)

/-- A token that means no command resolves to none or to several, and the choice says which. -/
theorem choose_of_forall_not_means (h : ∀ c, ¬ shell.Means token c) :
    Match.resolve token shell.registry.visibleNames = .unknown ∧ shell.choose token = .unknown ∨
    ∃ names, Match.resolve token shell.registry.visibleNames = .several names ∧
      shell.choose token = .several names := by
  have hnone : shell.registry.get? token = none := by
    refine Registry.get?_eq_none_iff.2 fun hname => ?_
    obtain ⟨c, hc, hname⟩ := List.mem_map.1 hname
    exact h c ⟨hc, Or.inl hname⟩
  rw [choose, hnone]
  cases hresolve : Match.resolve token shell.registry.visibleNames with
  | unknown => exact Or.inl ⟨rfl, rfl⟩
  | several names => exact Or.inr ⟨names, rfl, rfl⟩
  | one name =>
    obtain ⟨c, hc, rfl, -⟩ := exists_of_resolve_eq_one hresolve
    exact absurd ⟨hc, Or.inr ⟨Registry.get?_eq_none_iff.1 hnone, hresolve⟩⟩ (h c)

/-- A token that means no command comes to the list of what it resolves to, or to the report. -/
theorem decisionOfTokens_of_forall_not_means {token : Text} (rest : List Text)
    (h : ∀ c, ¬ shell.Means token c) :
    ∃ outcome, shell.decisionOfTokens (token :: rest) = .answer outcome ∧
      (Match.resolve token shell.registry.visibleNames = .unknown ∧
          outcome = .failed (shell.report token (.unknownCommand token)) ∨
        ∃ names, Match.resolve token shell.registry.visibleNames = .several names ∧
          outcome = .result (.ofText (Match.listing names)) ∧ 2 ≤ names.length ∧
          (∀ name ∈ names, name ∈ shell.registry.visibleNames) ∧
          names.Pairwise fun a b => Text.le a b = true ∧ a ≠ b) := by
  rw [decisionOfTokens]
  rcases choose_of_forall_not_means h with ⟨hresolve, hchoose⟩ | ⟨names, hresolve, hchoose⟩
  · rw [hchoose]
    exact ⟨_, rfl, Or.inl ⟨hresolve, rfl⟩⟩
  · rw [hchoose]
    exact ⟨_, rfl, Or.inr ⟨names, hresolve, rfl,
      Match.listed_of_resolve_eq_several Registry.visibleNames_nodup hresolve⟩⟩

/-! ## What a line asks for -/

theorem namespaceMembers_ne_nil_iff :
    shell.namespaceMembers line ≠ [] ↔ shell.BareNamespace line := by
  have hsorted : ∀ names, Text.sorted names ≠ [] ↔ ∃ name, name ∈ names := by
    intro names
    constructor
    · intro hne
      obtain ⟨name, hname⟩ := List.exists_mem_of_ne_nil _ hne
      exact ⟨name, List.mem_mergeSort.1 hname⟩
    · rintro ⟨name, hname⟩
      exact List.ne_nil_of_mem (List.mem_mergeSort.2 hname)
  rw [namespaceMembers]
  split
  · next hcond =>
    simp only [Bool.or_eq_true, List.contains_iff_mem, Registry.has_eq_true_iff] at hcond
    constructor
    · exact fun h => absurd rfl h
    · rintro ⟨hdot, hspace, hname, -⟩
      rcases hcond with (h | h) | h
      · exact absurd h hdot
      · exact absurd h hspace
      · exact absurd h hname
  · next hcond =>
    simp only [Bool.or_eq_true, List.contains_iff_mem, Registry.has_eq_true_iff, not_or] at hcond
    rw [hsorted]
    constructor
    · rintro ⟨name, hname⟩
      obtain ⟨hvisible, hbegins⟩ := List.mem_filter.1 hname
      exact ⟨hcond.1.1, hcond.1.2, hcond.2, name, hvisible, List.isPrefixOf_iff_prefix.1 hbegins⟩
    · rintro ⟨-, -, -, name, hvisible, hbegins⟩
      exact ⟨name, List.mem_filter.2 ⟨hvisible, List.isPrefixOf_iff_prefix.2 hbegins⟩⟩

theorem reading_eq_command_iff :
    shell.reading line = .command ↔
      (∀ v : Verb, line ∉ v.spellings) ∧ ¬ shell.BareNamespace line := by
  rw [← Verb.ofLine?_eq_none_iff, ← namespaceMembers_ne_nil_iff, reading]
  cases Verb.ofLine? line with
  | some v => simp
  | none => cases shell.namespaceMembers line <;> simp

theorem reading_eq_members_iff {names : List Text} :
    shell.reading line = .members names ↔
      (∀ v : Verb, line ∉ v.spellings) ∧ names ≠ [] ∧ shell.namespaceMembers line = names := by
  rw [← Verb.ofLine?_eq_none_iff, reading]
  cases Verb.ofLine? line with
  | some v => simp
  | none =>
    cases shell.namespaceMembers line with
    | nil => simp
    | cons first others =>
      constructor
      · intro h
        obtain rfl := Reading.members.inj h
        exact ⟨rfl, List.cons_ne_nil first others, rfl⟩
      · rintro ⟨-, -, rfl⟩
        rfl

theorem evaluateLine_of_verb {v : Verb} (h : line.strip ∈ v.spellings) (answer : Answerer)
    (s : Session) :
    shell.evaluateLine answer line s =
      some (shell.obey v, { s with lastInput := some line.strip }) := by
  have hfilled : line.strip.isEmpty = false := by
    rw [List.isEmpty_eq_false_iff]
    intro hnil
    rw [hnil] at h
    revert h
    cases v <;> decide
  simp [evaluateLine, hfilled, reading_eq_verb_iff.2 h]

theorem evaluateLine_of_members (hne : line.strip ≠ [])
    {names : List Text} (h : shell.reading line.strip = .members names) (answer : Answerer) (s : Session) :
    shell.evaluateLine answer line s =
      some (.result (.ofText (namespaceListing line.strip names)),
        { s with lastInput := some line.strip }) := by
  have hfilled : line.strip.isEmpty = false := by rwa [List.isEmpty_eq_false_iff]
  simp [evaluateLine, hfilled, h]

/-- A verb or a bare namespace has its outcome without a command. -/
theorem evaluateLine_of_not_command (hnonblank : line.strip ≠ [])
    (h : (∃ v : Verb, line.strip ∈ v.spellings) ∨ shell.BareNamespace line.strip) :
    ∃ outcome, ∀ answer s, shell.evaluateLine answer line s =
      some (outcome, { s with lastInput := some line.strip }) := by
  cases hreading : shell.reading line.strip with
  | verb v => exact ⟨_, evaluateLine_of_verb (reading_eq_verb_iff.1 hreading)⟩
  | members names => exact ⟨_, evaluateLine_of_members hnonblank hreading⟩
  | command =>
    obtain ⟨hverb, hnamespace⟩ := reading_eq_command_iff.1 hreading
    rcases h with ⟨v, hv⟩ | h
    · exact absurd hv (hverb v)
    · exact absurd h hnamespace

/-- A command line is taken in, and then what its first token chooses is done. -/
theorem evaluateLine_of_command (hnonblank : line.strip ≠ [])
    (h : shell.reading line.strip = .command) :
    ∃ token rest, Token.ofLine line = token :: rest ∧
      shell.decision (.line line) = shell.decisionOfTokens (token :: rest) ∧
      ∀ answer s, shell.evaluateLine answer line s =
        shell.carryOut answer (shell.decisionOfTokens (token :: rest))
          { s with lastInput := some line.strip, history := s.history.record line.strip } := by
  have hfilled : line.strip.isEmpty = false := by simpa using hnonblank
  obtain ⟨token, rest, htokens⟩ := List.exists_cons_of_ne_nil (Token.ofLine_ne_nil hnonblank)
  have hdecision : shell.decision (.line line) = shell.decisionOfTokens (token :: rest) := by
    simp [decision, hfilled, h, Token.ofLine_strip, htokens]
  refine ⟨token, rest, htokens, hdecision, fun answer s => ?_⟩
  rw [← hdecision]
  exact (evaluateInput_eq (.line line)).trans (by simp [taken, hfilled, h])

/-! ## What an evaluation runs -/

/-- An evaluation runs the command of that name first, with those tokens, if it runs any. -/
def Calls (s after : Session) (name : Text) (tokens : List Text) : Prop :=
  ∃ own, after.journal = s.journal ++ .ran name tokens :: own

theorem calls_iff_of_evaluate {depth : Nat} {s after : Session} {outcome : Outcome}
    (h : shell.evaluate depth (.line line) s = some (outcome, after)) (name : Text)
    (tokens : List Text) :
    Calls s after name tokens ↔
      ∃ c, shell.decision (.line line) = .call c tokens ∧ c.name = name := by
  rcases journal_of_evaluate h with ⟨hdecision, hjournal⟩ | ⟨c, rest, own, hdecision, hjournal⟩
  · rw [hdecision, Calls, hjournal]
    simp
  · rw [hdecision, Calls, hjournal]
    constructor
    · rintro ⟨own', heq⟩
      obtain ⟨hfirst, -⟩ := List.cons.inj (List.append_cancel_left heq)
      obtain ⟨rfl, rfl⟩ := Event.ran.inj hfirst
      exact ⟨c, rfl, rfl⟩
    · rintro ⟨d, hcall, rfl⟩
      obtain ⟨rfl, rfl⟩ := Decision.call.inj hcall
      exact ⟨own, rfl⟩

/--
What a line that is not blank does, for every way to answer the requests of commands. A verb or a
bare namespace has its outcome at once and leaves the history alone. Any other line is recorded if
it is admitted, and has a first token. It runs the command that the token means, once and with the
tokens after it, and it runs no other. If the token means no command, nothing is run, and it resolves
to several visible names, whose sorted list is the outcome, or to none, which is reported.
-/
theorem line_runs_the_meant_command (shell : Shell) {line : Text} (nonblank : line.strip ≠ []) :
    ((∃ v : Verb, line.strip ∈ v.spellings) ∨ shell.BareNamespace line.strip →
      ∃ outcome, ∀ answer s, shell.evaluateLine answer line s =
        some (outcome, { s with lastInput := some line.strip })) ∧
    ((∀ v : Verb, line.strip ∉ v.spellings) → ¬ shell.BareNamespace line.strip →
      ∃ token rest, Token.ofLine line = token :: rest ∧
        (∀ depth s outcome after, shell.evaluate depth (.line line) s = some (outcome, after) →
          ∀ name tokens, Calls s after name tokens ↔
            tokens = rest ∧ ∃ c, shell.Means token c ∧ c.name = name) ∧
        ∀ answer s,
          let heard := { s with
            lastInput := some line.strip
            history := if History.admits line.strip then s.history.append line.strip
              else s.history }
          (∀ c, shell.Means token c →
            shell.evaluateLine answer line s = shell.invoke answer c rest heard) ∧
          ((∀ c, ¬ shell.Means token c) →
            Match.resolve token shell.registry.visibleNames = .unknown ∧
              shell.evaluateLine answer line s =
                some (.failed (shell.report token (.unknownCommand token)), heard) ∨
            ∃ names, Match.resolve token shell.registry.visibleNames = .several names ∧
              shell.evaluateLine answer line s =
                some (.result (.ofText (Match.listing names)), heard) ∧
              2 ≤ names.length ∧ (∀ name ∈ names, name ∈ shell.registry.visibleNames) ∧
              names.Pairwise fun a b => Text.le a b = true ∧ a ≠ b)) ∧
    (∀ c ∈ shell.registry.commands, ∀ d, shell.Means c.name d ↔ d = c) ∧
    (∀ token c, shell.Means token c → c.name ≠ token → c.hidden = false) ∧
    ∀ token name, Match.resolve token shell.registry.visibleNames = .one name →
      ∃ c ∈ shell.registry.commands, c.name = name ∧ c.hidden = false := by
  refine ⟨evaluateLine_of_not_command nonblank, ?_, fun c hc d => means_name_iff hc,
    fun token c h => h.visible, fun token name => exists_of_resolve_eq_one⟩
  intro hverb hnamespace
  obtain ⟨token, rest, htokens, hdecision, hline⟩ :=
    evaluateLine_of_command nonblank (reading_eq_command_iff.2 ⟨hverb, hnamespace⟩)
  refine ⟨token, rest, htokens, ?_, fun answer s => ⟨?_, ?_⟩⟩
  · intro depth s outcome after hrun name tokens
    rw [calls_iff_of_evaluate hrun, hdecision]
    simp only [decisionOfTokens_eq_call_iff, choose_eq_run_iff_means]
    constructor
    · rintro ⟨c, ⟨first, heq, hmeans⟩, hname⟩
      obtain ⟨rfl, rfl⟩ := List.cons.inj heq
      exact ⟨rfl, c, hmeans, hname⟩
    · rintro ⟨rfl, c, hmeans, hname⟩
      exact ⟨c, ⟨token, rfl, hmeans⟩, hname⟩
  · intro c hmeans
    rw [hline, decisionOfTokens, choose_eq_run_iff_means.2 hmeans]
    rfl
  · intro hnone
    obtain ⟨outcome, hanswer, hform⟩ := decisionOfTokens_of_forall_not_means rest hnone
    rw [hline, hanswer]
    rcases hform with ⟨hresolve, rfl⟩ | ⟨names, hresolve, rfl, hlisted⟩
    · exact Or.inl ⟨hresolve, rfl⟩
    · exact Or.inr ⟨names, hresolve, rfl, hlisted⟩

/-- A quoted first token in capitals that is no command's name runs the command it resolves to. -/
theorem line_runs_the_meant_command_quoted :
    Text.strip " \"ECHO\" \"a b\"".toList ≠ [] ∧
      ∃ c, c.name = "dbg.echo".toList ∧ ∀ answer s,
        bare.evaluateLine answer " \"ECHO\" \"a b\"".toList s =
          bare.invoke answer c ["a b".toList]
            { s with
              lastInput := some "\"ECHO\" \"a b\"".toList
              history := s.history.append "\"ECHO\" \"a b\"".toList } := by
  have nonblank : Text.strip " \"ECHO\" \"a b\"".toList ≠ [] := by decide +kernel
  have hstrip : Text.strip " \"ECHO\" \"a b\"".toList = "\"ECHO\" \"a b\"".toList := by
    decide +kernel
  have hreading : bare.reading (Text.strip " \"ECHO\" \"a b\"".toList) = .command := by
    decide +kernel
  have hone : Match.resolve "ECHO".toList bare.registry.visibleNames = .one "dbg.echo".toList := by
    decide +kernel
  obtain ⟨hverb, hnamespace⟩ := reading_eq_command_iff.1 hreading
  obtain ⟨-, hcommand, -, -, hfound⟩ := line_runs_the_meant_command bare nonblank
  obtain ⟨token, rest, htokens, -, hruns⟩ := hcommand hverb hnamespace
  have hcut : Token.ofLine " \"ECHO\" \"a b\"".toList = ["ECHO".toList, "a b".toList] := by
    decide +kernel
  obtain ⟨rfl, rfl⟩ := List.cons.inj (hcut.symm.trans htokens)
  obtain ⟨c, hc, hname, -⟩ := hfound _ _ hone
  have hmeans : bare.Means "ECHO".toList c := ⟨hc, Or.inr ⟨by decide +kernel, hname ▸ hone⟩⟩
  refine ⟨nonblank, c, hname, fun answer s => ?_⟩
  have hline := (hruns answer s).1 c hmeans
  rw [hstrip] at hline
  exact hline

end Shell

end CommandShell
