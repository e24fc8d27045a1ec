import CommandShell.Command.Builtin
import CommandShell.Proofs.Match.Resolution
import CommandShell.Proofs.Shell.Listing
import CommandShell.Proofs.Shell.Reachable
import CommandShell.Proofs.Token.Cut

/-!
# What replaying a recorded line triggers

No recorded line holds the name of a command on the history, so none calls such a command by its
name. It may still do so by likeness, and a question mark that was recorded as a token asks for
help when it is read as a line. Main statement: these are the only ways.
-/

namespace CommandShell

/-- The commands on the history itself. -/
def historyCommands : List Text := ["history".toList, "redo".toList, "flush".toList]

/-- Whether an event is a call of a command on the history. -/
def Event.OnHistory (e : Event) : Prop :=
  ∃ name ∈ historyCommands, ∃ tokens, e = .ran name tokens

theorem History.Admitted.not_isInfix {h : History} (hh : h.Admitted) {entry name : Text}
    (hentry : entry ∈ h.entries) (hname : name ∈ metaWords) : ¬ name <:+: entry := by
  obtain ⟨hstrip, hadmits⟩ := hh entry hentry
  have hnot := not_isInfix_of_admits hadmits hname
  rwa [hstrip] at hnot

namespace Shell

/-- The line means the command of that name, and by likeness alone. -/
def Abbreviates (shell : Shell) (line name : Text) : Prop :=
  shell.reading line = .command ∧
    ∃ token rest, Token.ofLine line = token :: rest ∧ shell.registry.get? token = none ∧
      token.strip ≠ [] ∧ token.strip ∉ shell.registry.visibleNames ∧
      Match.candidates token.strip shell.registry.visibleNames = [name]

variable {shell : Shell} {s : Session} {h : History} {entry : Text}

/-! ## Calling a command on the history -/

theorem not_isInfix_token (hh : h.Admitted) (hentry : entry ∈ h.entries) {name token : Text}
    (hname : name ∈ historyCommands) (htoken : token ∈ Token.ofLine entry) :
    ¬ name <:+: token ∨ token.head? = some '-' := by
  by_cases hdash : token.head? = some '-'
  · exact Or.inr hdash
  · have hmeta : name ∈ History.metaWords := by
      revert name
      decide
    exact Or.inl fun hpart =>
      hh.not_isInfix hentry hmeta (hpart.trans (Token.infix_of_mem_ofLine htoken hdash))

theorem head?_of_mem_historyCommands {name : Text} (h : name ∈ historyCommands) :
    name.head? ≠ some '-' := by
  revert name
  decide

theorem ne_of_mem_historyCommands (hh : h.Admitted) (hentry : entry ∈ h.entries) {name token : Text}
    (hname : name ∈ historyCommands) (htoken : token ∈ Token.ofLine entry) :
    name ≠ token ∧ name ≠ token.strip := by
  have hhead := head?_of_mem_historyCommands hname
  rcases not_isInfix_token hh hentry hname htoken with hpart | hdash
  · constructor
    · rintro rfl
      exact hpart List.infix_rfl
    · rintro rfl
      exact hpart (Text.strip_isInfix token)
  · constructor
    · rintro rfl
      exact hhead hdash
    · rintro rfl
      exact hhead (Text.head?_strip_of_head? hdash (by decide))

theorem choose_historyCommand_iff (hh : h.Admitted) (hentry : entry ∈ h.entries)
    {name token : Text} (hname : name ∈ historyCommands) (htoken : token ∈ Token.ofLine entry) :
    (∃ d, shell.choose token = .run d ∧ d.name = name) ↔
      shell.registry.get? token = none ∧ token.strip ≠ [] ∧
        token.strip ∉ shell.registry.visibleNames ∧
        Match.candidates token.strip shell.registry.visibleNames = [name] := by
  obtain ⟨hne, hnestrip⟩ := ne_of_mem_historyCommands hh hentry hname htoken
  constructor
  · rintro ⟨d, hrun, rfl⟩
    rcases choose_eq_run_iff.1 hrun with hget | ⟨hnone, found, hresolve, hget⟩
    · exact absurd (Registry.name_of_get? hget) hne
    · have hfound : d.name = found := Registry.name_of_get? hget
      obtain ⟨hblank, ⟨-, hexact⟩ | ⟨hvisible, hcandidates⟩⟩ := Match.resolve_eq_one_iff.1 hresolve
      · exact absurd (hfound.trans hexact) hnestrip
      · exact ⟨hnone, hblank, hvisible, hfound ▸ hcandidates⟩
  · rintro ⟨hnone, hblank, hvisible, hcandidates⟩
    have hknown : name ∈ shell.registry.visibleNames :=
      Match.mem_of_mem_candidates (hcandidates ▸ List.mem_singleton_self name)
    obtain ⟨d, hget⟩ := Registry.exists_get?_of_mem_visibleNames hknown
    refine ⟨d, choose_eq_run_iff.2 (Or.inr ⟨hnone, name, ?_, hget⟩), Registry.name_of_get? hget⟩
    exact Match.resolve_eq_one_iff.2 ⟨hblank, Or.inr ⟨hvisible, hcandidates⟩⟩

theorem calls_historyCommand_iff (hh : h.Admitted) (hentry : entry ∈ h.entries) {name : Text}
    (hname : name ∈ historyCommands) :
    (∃ d tokens, shell.decision (.line entry) = .call d tokens ∧ d.name = name) ↔
      shell.Abbreviates entry name := by
  have hstrip := (hh entry hentry).1
  constructor
  · rintro ⟨d, rest, hcall, hd⟩
    obtain ⟨hreading, token, htokens, hrun⟩ := decision_line_eq_call_iff.1 hcall
    rw [hstrip] at hreading htokens
    have htoken : token ∈ Token.ofLine entry := htokens ▸ List.mem_cons_self
    exact ⟨hreading, token, rest, htokens,
      (choose_historyCommand_iff hh hentry hname htoken).1 ⟨d, hrun, hd⟩⟩
  · rintro ⟨hreading, token, rest, htokens, hlike⟩
    have htoken : token ∈ Token.ofLine entry := htokens ▸ List.mem_cons_self
    obtain ⟨d, hrun, hd⟩ := (choose_historyCommand_iff hh hentry hname htoken).2 hlike
    refine ⟨d, rest, decision_line_eq_call_iff.2 ?_, hd⟩
    rw [hstrip]
    exact ⟨hreading, token, htokens, hrun⟩

/-! ## Asking for help -/

theorem eq_question_of_reading (hh : h.Admitted) (hentry : entry ∈ h.entries)
    (hverb : shell.reading entry = .verb .help) : entry = ['?'] := by
  have hspelled := reading_eq_verb_iff.1 hverb
  rw [Verb.spellings, List.mem_cons, List.mem_singleton] at hspelled
  rcases hspelled with rfl | hquestion
  · exact absurd List.infix_rfl (hh.not_isInfix hentry (by decide))
  · exact hquestion

theorem not_mem_of_reading_members {line : Text} {names : List Text}
    (hmembers : shell.reading line = .members names) : ' ' ∉ line := by
  have hlisted : shell.namespaceMembers line ≠ [] := by
    intro hnone
    rw [reading] at hmembers
    split at hmembers
    · contradiction
    · rw [hnone] at hmembers
      contradiction
  intro hspace
  apply hlisted
  rw [namespaceMembers, if_pos]
  simp [hspace]

theorem ofText_inj {t u : Text} (heq : Outcome.result (.ofText t) = .result (.ofText u)) :
    t = u := by
  have := Outcome.result.inj heq
  simpa [Value.ofText] using this

/-- Of all texts, tokens are answered by the listing of several commands at most. -/
theorem decisionOfTokens_ne_text {text : Text} (h : ∀ names, Match.listing names ≠ text)
    (tokens : List Text) : shell.decisionOfTokens tokens ≠ .answer (.result (.ofText text)) := by
  intro heq
  cases tokens with
  | nil => cases heq
  | cons token rest =>
    rw [decisionOfTokens] at heq
    split at heq
    · cases heq
    · next names _ => exact h names (ofText_inj (Decision.answer.inj heq))
    · cases heq

theorem decisionOfTokens_ne_help (tokens : List Text) :
    shell.decisionOfTokens tokens ≠ .answer (.result (.ofText shell.helpText)) :=
  decisionOfTokens_ne_text
    (fun names => helpText_ne_of_head? shell (Match.head?_listing names) (by decide)) tokens

/-- A recorded line asks for help only if it is the question mark. -/
theorem decision_eq_help_iff (hh : h.Admitted) (hentry : entry ∈ h.entries) :
    shell.decision (.line entry) = .answer (.result (.ofText shell.helpText)) ↔ entry = ['?'] := by
  have hstrip := (hh entry hentry).1
  constructor
  · intro heq
    rw [decision, hstrip] at heq
    split at heq
    · cases heq
    · split at heq
      · next v hreading =>
        cases v with
        | quit => cases heq
        | help => exact eq_question_of_reading hh hentry hreading
        | repl =>
          have htext := ofText_inj (Decision.answer.inj heq)
          exact absurd htext (helpText_ne_of_head? shell (c := 'T') rfl (by decide))
        | list =>
          have htext := ofText_inj (Decision.answer.inj heq)
          exact absurd htext (helpText_ne_of_head? shell shell.head?_commandListing (by decide))
      · next names hreading =>
        have htext := ofText_inj (Decision.answer.inj heq)
        have hspace := not_mem_of_reading_members hreading
        refine absurd htext (namespaceListing_ne_helpText shell names hspace ?_)
        intro hend
        have hblank := Text.getLast?_of_strip_eq_self hstrip hend
        exact absurd hblank (by decide)
      · exact absurd heq (decisionOfTokens_ne_help _)
  · rintro rfl
    have hverb : shell.reading ['?'] = .verb .help := reading_eq_verb_iff.2 (by decide)
    rw [decision, hstrip, hverb]
    rfl

/-! ## Replaying -/

/-- What replaying is not to do: to call a command on the history, or to end with the help text. -/
def Triggers (shell : Shell) (outcome : Outcome) (events : List Event) : Prop :=
  (∃ e ∈ events, e.OnHistory) ∨ outcome = .result (.ofText shell.helpText)

theorem triggers_nil_iff {outcome : Outcome} :
    shell.Triggers outcome [] ↔ outcome = .result (.ofText shell.helpText) := by
  simp [Triggers]

theorem triggers_cons_iff {outcome : Outcome} {name : Text} {tokens : List Text}
    {own : List Event} :
    shell.Triggers outcome (.ran name tokens :: own) ↔
      name ∈ historyCommands ∨ shell.Triggers outcome own := by
  have hfirst : Event.OnHistory (.ran name tokens) ↔ name ∈ historyCommands := by
    constructor
    · rintro ⟨other, hother, _, heq⟩
      obtain ⟨rfl, -⟩ := Event.ran.inj heq
      exact hother
    · exact fun hname => ⟨name, hname, tokens, rfl⟩
  rw [Triggers, Triggers, ← or_assoc]
  simp only [List.mem_cons, or_and_right, exists_or, exists_eq_left, hfirst]

/-- The ways in which replaying an entry triggers what it is not to: by itself, or as a command
that is not on the history but makes its own program do so. -/
theorem triggers_iff_of_evaluate (hh : h.Admitted) (hentry : entry ∈ h.entries) {depth : Nat}
    {outcome : Outcome} {after : Session}
    (hrun : shell.evaluate depth (.line entry) s = some (outcome, after)) :
    ∃ events, after.journal = s.journal ++ events ∧
      (shell.Triggers outcome events ↔
        entry = ['?'] ∨ (∃ name ∈ historyCommands, shell.Abbreviates entry name) ∨
          ∃ d tokens own, shell.decision (.line entry) = .call d tokens ∧
            d.name ∉ historyCommands ∧ events = .ran d.name tokens :: own ∧
            shell.Triggers outcome own) := by
  have hhelp : shell.decision (.line entry) = .answer (.result (.ofText shell.helpText)) ↔
      entry = ['?'] := decision_eq_help_iff hh hentry
  rcases journal_of_evaluate hrun with ⟨hgiven, hjournal⟩ | ⟨d, tokens, own, hcall, hjournal⟩
  · refine ⟨[], by rw [hjournal, List.append_nil], ?_⟩
    rw [hgiven] at hhelp
    rw [triggers_nil_iff, ← hhelp]
    constructor
    · rintro rfl
      exact Or.inl rfl
    · rintro (heq | ⟨name, hname, hlike⟩ | ⟨d, tokens, _, hcall, -⟩)
      · exact Decision.answer.inj heq
      · obtain ⟨d, tokens, hcall, -⟩ := (calls_historyCommand_iff hh hentry hname).2 hlike
        rw [hgiven] at hcall
        contradiction
      · rw [hgiven] at hcall
        contradiction
  · refine ⟨.ran d.name tokens :: own, hjournal, ?_⟩
    rw [triggers_cons_iff]
    constructor
    · intro htriggers
      by_cases hname : d.name ∈ historyCommands
      · have hlike := (calls_historyCommand_iff hh hentry hname).1 ⟨d, tokens, hcall, rfl⟩
        exact Or.inr (Or.inl ⟨d.name, hname, hlike⟩)
      · have hown := htriggers.resolve_left hname
        exact Or.inr (Or.inr ⟨d, tokens, own, hcall, hname, rfl, hown⟩)
    · rintro (rfl | ⟨name, hname, hlike⟩ | ⟨_, _, _, -, -, heq, hown⟩)
      · rw [hhelp.2 rfl] at hcall
        contradiction
      · obtain ⟨other, _, hother, rfl⟩ := (calls_historyCommand_iff hh hentry hname).2 hlike
        rw [hcall] at hother
        obtain ⟨rfl, -⟩ := Decision.call.inj hother
        exact Or.inl hname
      · obtain ⟨-, rfl⟩ := List.cons.inj heq
        exact Or.inr hown

/--
Replaying an entry asks for help exactly if the entry is the question mark, and calls a command on
the history exactly if the entry means it by likeness. Beyond that only a command that is called
in their stead can bring either about, by what its own program runs or returns.
-/
theorem replayed_entry_triggers_iff (reachable : shell.Reachable s)
    (stored : entry ∈ s.history.entries) :
    (shell.decision (.line entry) = .answer (.result (.ofText shell.helpText)) ↔
      entry = ['?']) ∧
    (∀ name ∈ historyCommands,
      (∃ d tokens, shell.decision (.line entry) = .call d tokens ∧ d.name = name) ↔
        shell.Abbreviates entry name) ∧
    ∀ depth outcome after, shell.evaluate depth (.line entry) s = some (outcome, after) →
      ∃ events, after.journal = s.journal ++ events ∧
        (shell.Triggers outcome events ↔
          entry = ['?'] ∨ (∃ name ∈ historyCommands, shell.Abbreviates entry name) ∨
            ∃ d tokens own, shell.decision (.line entry) = .call d tokens ∧
              d.name ∉ historyCommands ∧ events = .ran d.name tokens :: own ∧
              shell.Triggers outcome own) := by
  have hh := reachable.admitted
  refine ⟨decision_eq_help_iff hh stored, ?_, ?_⟩
  · intro name hname
    exact calls_historyCommand_iff hh stored hname
  · intro depth outcome after hrun
    exact triggers_iff_of_evaluate hh stored hrun

/-- The built-in commands alone, without formatters and files. -/
def bare : Shell := ⟨Builtin.registry, .default, [], fun _ => .error .notFound⟩

/-- The session of the bare shell after the line that shows the history was typed in short. -/
def afterHist : Session :=
  { Session.start Settings.default (.ofTyped []) with
    history := ⟨Settings.default.historySize, ["hist".toList]⟩
    lastInput := some "hist".toList
    journal := [.ran "history".toList []] }

theorem bare_evaluate_hist :
    bare.evaluate 0 (.line "hist".toList) (.start bare.settings (.ofTyped [])) =
      some (.result (.ofText "0: hist".toList), afterHist) := by
  decide +kernel

theorem abbreviates_hist : bare.Abbreviates "hist".toList "history".toList := by
  refine ⟨by decide +kernel, "hist".toList, [], by decide +kernel, ?_, by decide +kernel,
    by decide +kernel, by decide +kernel⟩
  exact Option.isNone_iff_eq_none.1 (by decide +kernel)

theorem replayed_hist_calls_history :
    bare.Reachable afterHist ∧ "hist".toList ∈ afterHist.history.entries ∧
      ∃ d tokens, bare.decision (.line "hist".toList) = .call d tokens ∧
        d.name = "history".toList := by
  have reachable : bare.Reachable afterHist := .evaluated (.start _) bare_evaluate_hist
  have stored : "hist".toList ∈ afterHist.history.entries := by decide
  have hcalls := (replayed_entry_triggers_iff reachable stored).2.1 "history".toList (by decide)
  exact ⟨reachable, stored, hcalls.2 abbreviates_hist⟩

end Shell

end CommandShell
