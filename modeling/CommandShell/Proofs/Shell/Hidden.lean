import CommandShell.Proofs.Command.Requests
import CommandShell.Proofs.Shell.Retrigger

/-!
# Hidden commands do not interfere

A hidden command is found under its exact name and plays no part in anything else: not in the
listings, not in what a line asks for, and not in which command a token means. Main statement: a
line that does not name it is evaluated as if it were not registered.
-/

namespace CommandShell

/-- `more` holds the commands of `r` and, somewhere among them, a hidden one besides. -/
structure Registry.Hides (r more : Registry) (d : Descriptor) : Prop where
  hidden : d.hidden = true
  inserted : ∃ front back, r.commands = front ++ back ∧ more.commands = front ++ d :: back

namespace Registry.Hides

variable {r more : Registry} {d : Descriptor}

theorem ne_of_mem (h : r.Hides more d) {name : Text} (hname : name ∈ r.commands.map (·.name)) :
    name ≠ d.name := by
  obtain ⟨front, back, hr, hmore⟩ := h.inserted
  have hunique := more.unique
  rw [hmore, List.map_append, List.map_cons, List.nodup_middle, ← List.map_append, ← hr] at hunique
  rintro rfl
  exact (List.nodup_cons.1 hunique).1 hname

theorem filter_visible (h : r.Hides more d) :
    (more.commands.filter fun c => !c.hidden) = r.commands.filter fun c => !c.hidden := by
  obtain ⟨front, back, hr, hmore⟩ := h.inserted
  have hd : (!d.hidden) = false := by rw [h.hidden]; rfl
  simp [hr, hmore, List.filter_append, hd]

theorem visibleNames_eq (h : r.Hides more d) : more.visibleNames = r.visibleNames := by
  rw [visibleNames, visibleNames, h.filter_visible]

theorem descriptors_eq (h : r.Hides more d) : more.descriptors false = r.descriptors false := by
  have hfilter := h.filter_visible
  simp only [descriptors, Bool.false_or]
  rw [hfilter]

theorem get?_eq (h : r.Hides more d) {name : Text} (hname : name ≠ d.name) :
    more.get? name = r.get? name := by
  obtain ⟨front, back, hr, hmore⟩ := h.inserted
  have hd : (d.name == name) = false := beq_false_of_ne hname.symm
  rw [get?, get?, hr, hmore, List.find?_append, List.find?_append, List.find?_cons_of_neg]
  simp [hd]

theorem has_eq (h : r.Hides more d) {name : Text} (hname : name ≠ d.name) :
    more.has name = r.has name := by
  obtain ⟨front, back, hr, hmore⟩ := h.inserted
  have hd : (d.name == name) = false := beq_false_of_ne hname.symm
  simp [has, hr, hmore, hd]

end Registry.Hides

namespace Shell

variable {shell : Shell} {more : Registry} {d : Descriptor}

theorem helpText_hides (h : shell.registry.Hides more d) :
    { shell with registry := more }.helpText = shell.helpText := by
  simp only [helpText, helpEntries, h.descriptors_eq]

theorem commandListing_hides (h : shell.registry.Hides more d) :
    { shell with registry := more }.commandListing = shell.commandListing := by
  simp only [commandListing, h.visibleNames_eq]

theorem obey_hides (h : shell.registry.Hides more d) (v : Verb) :
    { shell with registry := more }.obey v = shell.obey v := by
  cases v with
  | quit => rfl
  | help => rw [obey, obey, helpText_hides h]
  | repl => rfl
  | list => rw [obey, obey, commandListing_hides h]

theorem reading_hides (h : shell.registry.Hides more d) {line : Text} (hline : line ≠ d.name) :
    { shell with registry := more }.reading line = shell.reading line := by
  simp only [reading, namespaceMembers, h.visibleNames_eq, h.has_eq hline]

/-- What a token means is always visible, so the hidden command is not looked up for it either. -/
theorem choose_hides (h : shell.registry.Hides more d) {token : Text} (htoken : token ≠ d.name) :
    { shell with registry := more }.choose token = shell.choose token := by
  simp only [choose, h.get?_eq htoken, h.visibleNames_eq]
  cases hresolve : Match.resolve token shell.registry.visibleNames with
  | unknown => rfl
  | several names => rfl
  | one name =>
    have hvisible := Match.mem_of_resolve_eq_one hresolve
    have hname := h.ne_of_mem (Registry.mem_names_of_mem_visibleNames hvisible)
    simp only [h.get?_eq hname]

theorem decision_hides (h : shell.registry.Hides more d) {line : Text}
    (hline : line.strip ≠ d.name) (htoken : (Token.ofLine line.strip).head? ≠ some d.name) :
    { shell with registry := more }.decision (.line line) = shell.decision (.line line) := by
  simp only [decision, reading_hides h hline, obey_hides h]
  cases hreading : shell.reading line.strip with
  | verb v => rfl
  | members names => rfl
  | command =>
    cases htokens : Token.ofLine line.strip with
    | nil => rfl
    | cons token rest =>
      rw [htokens] at htoken
      have hne : token ≠ d.name := fun he => htoken (congrArg some he)
      simp only [decisionOfTokens, choose_hides h hne]
      rfl

theorem taken_hides (h : shell.registry.Hides more d) {line : Text} (hline : line.strip ≠ d.name)
    (s : Session) :
    { shell with registry := more }.taken (.line line) s = shell.taken (.line line) s := by
  simp only [taken, reading_hides h hline]

theorem invoke_hides {c : Descriptor} {tokens : List Text}
    (hflat : (c.handler ⟨c.name, tokens, shell.settings⟩).Only (·.nests = false)) (more : Registry)
    (depth : Nat) (s : Session) :
    ∃ outcome after, shell.invoke (shell.answer depth) c tokens s = some (outcome, after) ∧
      { shell with registry := more }.invoke ({ shell with registry := more }.answer depth) c
        tokens s = some (outcome, after) := by
  have hsame := Program.run_congr hflat (fun r s hr => serve_congr shell
    (shell.below depth) ({ shell with registry := more }.below depth) hr more s)
    (s.note (.ran c.name tokens))
  obtain ⟨result, after, hrun⟩ := exists_run shell (shell.below depth) hflat
    (s.note (.ran c.name tokens))
  rw [← answer_eq] at hrun
  rw [← answer_eq, ← answer_eq, hrun] at hsame
  rw [invoke_eq, invoke_eq, hrun, hsame]
  exact ⟨_, _, rfl, rfl⟩

/--
A line whose text and whose first token differ from the name of a hidden command is evaluated to
the same outcome and the same session whether or not that command is registered: the same listing
or report, or the same command with the same tokens, and the same history and last input. This
holds at every depth, for a command that neither evaluates further input nor sees the registry.
-/
theorem hidden_command_never_interferes (h : shell.registry.Hides more d) {line : Text}
    (text_differs : line.strip ≠ d.name)
    (token_differs : (Token.ofLine line).head? ≠ some d.name)
    (flat : shell.CommandOnly (·.nests = false) (.line line)) (depth : Nat) (s : Session) :
    { shell with registry := more }.decision (.line line) = shell.decision (.line line) ∧
    ∃ outcome after, shell.evaluate depth (.line line) s = some (outcome, after) ∧
      { shell with registry := more }.evaluate depth (.line line) s = some (outcome, after) := by
  rw [← Token.ofLine_strip] at token_differs
  have hdecision := decision_hides h text_differs token_differs
  refine ⟨hdecision, ?_⟩
  simp only [evaluate, evaluateInput_eq, hdecision, taken_hides h text_differs]
  cases hcall : shell.decision (.line line) with
  | answer outcome => exact ⟨_, _, rfl, rfl⟩
  | call c tokens => exact invoke_hides (flat c tokens hcall) more depth _

/-- A hidden command whose name is as close to `dbg.ech` as that of `dbg.echo`. -/
def secret : Descriptor := ⟨"dbg.echt".toList, [], [], true, Builtin.flush⟩

def withSecret : Registry :=
  ⟨Builtin.descriptors.take 3 ++ secret :: Builtin.descriptors.drop 3, by decide⟩

theorem hidden_command_never_interferes_echt :
    bare.registry.Hides withSecret secret ∧
      ∃ outcome after,
        bare.evaluate 0 (.line "dbg.ech x".toList) (.start .default (.ofTyped [])) =
          some (outcome, after) ∧
        { bare with registry := withSecret }.evaluate 0 (.line "dbg.ech x".toList)
          (.start .default (.ofTyped [])) = some (outcome, after) := by
  have hides : bare.registry.Hides withSecret secret :=
    ⟨rfl, Builtin.descriptors.take 3, Builtin.descriptors.drop 3, rfl, rfl⟩
  have flat : bare.CommandOnly (·.nests = false) (.line "dbg.ech x".toList) := by
    intro c tokens hcall
    obtain ⟨-, token, htokens, hrun⟩ := decision_line_eq_call_iff.1 hcall
    have hcut : Token.ofLine (Text.strip "dbg.ech x".toList) = ["dbg.ech".toList, ['x']] := by
      decide +kernel
    obtain ⟨rfl, rfl⟩ := List.cons.inj (hcut.symm.trans htokens)
    have hmeant : Match.resolve "dbg.ech".toList bare.registry.visibleNames =
        .one "dbg.echo".toList := by decide +kernel
    rcases choose_eq_run_iff.1 hrun with hget | ⟨-, name, hname, hget⟩
    · cases hget
    · obtain rfl := Match.Resolution.one.inj (hmeant.symm.trans hname)
      obtain rfl := Option.some.inj hget
      trivial
  exact ⟨hides, (hidden_command_never_interferes hides (by decide +kernel) (by decide +kernel)
    flat 0 _).2⟩

end Shell

end CommandShell
