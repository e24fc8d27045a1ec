import CommandShell.Proofs.Arguments
import CommandShell.Proofs.History.Log
import CommandShell.Proofs.Output.Display
import CommandShell.Proofs.Script.Defect
import CommandShell.Proofs.Shell.Dispatch
import CommandShell.Proofs.Shell.Printing
import CommandShell.Proofs.Shell.Repetition
import CommandShell.Proofs.Text.Numeral
import CommandShell.Proofs.Token.Quoting

/-!
# Recalling a row of the history

The listing of a history has a row for every entry: its number, filled up with zeros, and its text.
Neither the line that shows the listing nor the one that repeats an entry is recorded, so the
numbers stay what they are. Main statement: repeating with a number as it stands in a row evaluates
the text of that row.
-/

namespace CommandShell

namespace Builtin

/-- The number in front of an entry of a listing. -/
def rowNumber (entries : List Text) (n : Nat) : Text :=
  Text.ofNatPadded (Text.ofNat (entries.length - 1)).length n

variable {entries : List Text} {entry number : Text} {n : Nat}

/-! ## The rows -/

theorem historyRows_getElem? (entries : List Text) (n : Nat) :
    (historyRows entries)[n]? =
      entries[n]?.map fun entry => rowNumber entries n ++ ": ".toList ++ entry := by
  rw [historyRows]
  simp only [List.getElem?_map, List.getElem?_zipIdx, Option.map_map, Nat.zero_add]
  rfl

theorem length_historyRows (entries : List Text) :
    (historyRows entries).length = entries.length := by
  simp [historyRows]

theorem mem_historyRows {row : Text} (h : row ∈ historyRows entries) :
    ∃ n entry, entries[n]? = some entry ∧ row = rowNumber entries n ++ ": ".toList ++ entry := by
  obtain ⟨n, hn⟩ := List.mem_iff_getElem?.1 h
  rw [historyRows_getElem?, Option.map_eq_some_iff] at hn
  obtain ⟨entry, hentry, rfl⟩ := hn
  exact ⟨n, entry, hentry, rfl⟩

theorem length_rowNumber (h : n < entries.length) :
    (rowNumber entries n).length = (Text.ofNat (entries.length - 1)).length :=
  Text.length_ofNatPadded (Text.length_ofNat_mono (by omega))

/-- Three of eleven entries. -/
example : (historyRows (List.replicate 11 ['a']))[3]? = some "03: a".toList := by decide

/-! ## How the rows are displayed -/

theorem exists_head?_of_allDigits (hdigits : Text.AllDigits number) (hne : number ≠ []) :
    ∃ c, number.head? = some c ∧ Text.isBlank c = false := by
  obtain ⟨c, rest, rfl⟩ := List.exists_cons_of_ne_nil hne
  exact ⟨c, rfl, Text.isBlank_eq_false_of_isDigit (hdigits c List.mem_cons_self)⟩

theorem isLineBoundary_of_mem_front (hdigits : Text.AllDigits number) :
    ∀ c ∈ number ++ ": ".toList, Text.isLineBoundary c = false := by
  intro c hc
  rcases List.mem_append.1 hc with hc | hc
  · exact Text.isLineBoundary_eq_false (Text.isBlank_eq_false_of_isDigit (hdigits c hc))
  · exact Text.isLineBoundary_eq_false_of_all (by decide) c hc

/-- The first line of a row is displayed, with the number in front of it. -/
theorem exists_visibleLines_row (hdigits : Text.AllDigits number) (hne : number ≠ [])
    (entry : Text) : ∃ first others,
      Display.visibleLines (number ++ ": ".toList ++ entry) =
        (number ++ ": ".toList ++ first) :: others := by
  obtain ⟨c, hhead, hc⟩ := exists_head?_of_allDigits hdigits hne
  have hfront : (number ++ ": ".toList).head? = some c := by
    rw [List.head?_append_of_ne_nil _ hne, hhead]
  exact Display.exists_visibleLines_append hfront hc (isLineBoundary_of_mem_front hdigits) entry

/-- The row of an entry without line boundaries is one line. -/
theorem visibleLines_row (hdigits : Text.AllDigits number) (hne : number ≠ [])
    (hentry : ∀ c ∈ entry, Text.isLineBoundary c = false) :
    Display.visibleLines (number ++ ": ".toList ++ entry) = [number ++ ": ".toList ++ entry] := by
  obtain ⟨c, hhead, hc⟩ := exists_head?_of_allDigits hdigits hne
  have hfront : (number ++ ": ".toList ++ entry).head? = some c := by
    rw [List.append_assoc, List.head?_append_of_ne_nil _ hne, hhead]
  refine Display.visibleLines_of_forall hfront hc fun d hd => ?_
  rcases List.mem_append.1 hd with hd | hd
  · exact isLineBoundary_of_mem_front hdigits d hd
  · exact hentry d hd

theorem endsInLine_row (number : Text) (hstrip : entry.strip = entry) :
    Text.EndsInLine (number ++ ": ".toList ++ entry) := by
  by_cases hnil : entry = []
  · rw [hnil, List.append_nil]
    exact Text.EndsInLine.append ⟨' ', rfl, by decide⟩ number
  · have hlast := List.getLast?_eq_some_getLast hnil
    have hblank := Text.getLast?_of_strip_eq_self hstrip hlast
    exact Text.EndsInLine.append ⟨_, hlast, Text.isLineBoundary_eq_false hblank⟩ _

/-- The lines of a listing that are displayed are those of its rows. -/
theorem visibleLines_listing (hstrip : ∀ entry ∈ entries, entry.strip = entry) :
    Display.visibleLines (Text.join ['\n'] (historyRows entries)) =
      (historyRows entries).flatMap Display.visibleLines := by
  have hrow : ∀ row ∈ historyRows entries, Text.EndsInLine row := by
    intro row hmem
    obtain ⟨n, entry, hentry, rfl⟩ := mem_historyRows hmem
    exact endsInLine_row _ (hstrip entry (List.mem_of_getElem? hentry))
  rw [Display.visibleLines, Text.screenLines_join hrow, List.filter_flatMap]
  rfl

theorem visibleLines_listing_ne_nil (hne : entries ≠ [])
    (hstrip : ∀ entry ∈ entries, entry.strip = entry) :
    Display.visibleLines (Text.join ['\n'] (historyRows entries)) ≠ [] := by
  have hrows : historyRows entries ≠ [] := by
    rw [← List.length_pos_iff, length_historyRows]
    exact List.length_pos_iff.2 hne
  obtain ⟨row, others, hcons⟩ := List.exists_cons_of_ne_nil hrows
  obtain ⟨n, entry, -, hfirst⟩ := mem_historyRows (hcons ▸ List.mem_cons_self)
  obtain ⟨first, more, hvisible⟩ := exists_visibleLines_row
    (Text.allDigits_ofNatPadded _ n) (Text.ofNatPadded_ne_nil _ n) entry
  rw [visibleLines_listing hstrip, hcons, List.flatMap_cons, hfirst, rowNumber, hvisible]
  exact List.cons_ne_nil _ _

end Builtin

/-- The session that has taken in a line, unrecorded, and run the command that the line calls. -/
def Session.called (s : Session) (line name : Text) (tokens : List Text) : Session :=
  { s with lastInput := some line, journal := s.journal ++ [.ran name tokens] }

namespace Shell

variable {shell : Shell} {s : Session} {d : Descriptor} {line number entry : Text}
  {tokens : List Text}

/-! ## Lines that are not recorded -/

theorem admits_eq_false {word : Text} (hword : word ∈ History.metaWords)
    (hpart : word <:+: line.strip) : History.admits line = false := by
  rw [Bool.eq_false_iff]
  exact fun hadmits => History.not_isInfix_of_admits hadmits hword hpart

theorem taken_of_not_admits (hcall : shell.decision (.line line) = .call d tokens)
    (hstrip : line.strip = line) (hadmits : History.admits line = false) (s : Session) :
    (shell.taken (.line line) s).note (.ran d.name tokens) = s.called line d.name tokens := by
  have hrecord : s.history.record line.strip = s.history := by
    rw [History.record, History.admits_strip, hadmits]
    rfl
  rw [taken_of_call hcall]
  show Session.note { s with lastInput := some line.strip,
                             history := s.history.record line.strip } _ = _
  rw [hrecord, hstrip]
  rfl

/-! ## The two commands -/

theorem run_history (depth : Nat) (i : Invocation) (s : Session) :
    (Builtin.history i).run (shell.answer depth) s = some (
      .ok (if s.history.entries = [] then .noOutput
        else .ofText (Text.join ['\n'] (Builtin.historyRows s.history.entries))), s) := by
  show (Program.bind (Program.request .look) _).run _ s = _
  have hview : s.view.history.entries = s.history.entries := rfl
  rw [Program.run_request_bind, answer_look]
  simp only [Option.bind_some, hview]
  cases s.history.entries <;> rfl

/-- Repeating an entry looks at the history, evaluates the entry as a line, and prints. -/
theorem run_redo (depth : Nat) {i : Invocation} {s : Session}
    (hchosen : Builtin.chosenLine s.history i.arguments.positional = .ok entry) :
    (Builtin.redo i).run (shell.answer (depth + 1)) s =
      (shell.evaluate depth (.line entry) s).map fun ended =>
        ((shell.print ended.1 ended.2).1.map fun _ => .noOutput, (shell.print ended.1 ended.2).2) := by
  show (Program.bind (Program.request .look) fun view =>
    Program.bind (Program.ofExcept (Builtin.chosenLine view.history i.arguments.positional)) _).run
      _ s = _
  rw [Program.run_request_bind, answer_look]
  show Program.run _ (Program.bind (Program.ofExcept
    (Builtin.chosenLine s.history i.arguments.positional)) _) s = _
  rw [hchosen]
  show Program.run _ (Program.bind (Program.request (.evaluate entry)) _) s = _
  rw [Program.run_request_bind]
  show (shell.evaluate depth (.line entry) s).bind _ = _
  cases shell.evaluate depth (.line entry) s with
  | none => rfl
  | some ended =>
    show Program.run _ (Program.bind (Program.request (.print ended.1)) _) ended.2 = _
    rw [Program.run_request_bind, answer_print, Option.map_some]
    generalize shell.print ended.1 ended.2 = reply
    obtain ⟨printed, after⟩ := reply
    cases printed <;> rfl

/-! ## Typing the name of the listing, and a number after it -/

theorem decision_history (hget : shell.registry.get? "history".toList = some d) :
    shell.decision (.line "history".toList) = .call d [] := by
  obtain ⟨hmem, hname⟩ := Registry.get?_eq_some_iff.1 hget
  have hknown : "history".toList ∈ shell.registry.commands.map (·.name) :=
    hname ▸ List.mem_map_of_mem hmem
  have hreading : shell.reading "history".toList = .command :=
    reading_eq_command_iff.2 ⟨by intro v; cases v <;> decide, fun h => h.no_command hknown⟩
  exact decision_line_eq_call_iff.2
    ⟨hreading, _, by decide +kernel, choose_eq_run_iff.2 (Or.inl hget)⟩

theorem evaluate_history (hget : shell.registry.get? "history".toList = some d)
    (hhandler : d.handler = Builtin.history) (depth : Nat) (s : Session) :
    shell.evaluate depth (.line "history".toList) s = some (
      .result (if s.history.entries = [] then .noOutput
        else .ofText (Text.join ['\n'] (Builtin.historyRows s.history.entries))),
      s.called "history".toList "history".toList []) := by
  have hcall := decision_history hget
  have htaken := taken_of_not_admits hcall (by decide +kernel) (by decide +kernel) s
  have hname := Registry.name_of_get? hget
  rw [evaluate, evaluateInput_eq, hcall, carryOut, invoke, hhandler, htaken, run_history, hname]
  rfl

theorem isBare_of_allDigits (hdigits : Text.AllDigits number) (hne : number ≠ []) :
    Token.IsBare number where
  ne_nil := hne
  no_blank c hc := Text.isBlank_eq_false_of_isDigit (hdigits c hc)
  no_quote hquote := absurd (hdigits _ hquote) (by decide)

theorem written_redo (hdigits : Text.AllDigits number) (hne : number ≠ []) :
    ∀ t ∈ ["redo".toList, number], Token.Written t := by
  intro t ht
  have hredo : Token.IsBare "redo".toList := by decide
  rcases List.mem_pair.1 ht with rfl | rfl
  · exact hredo.written
  · exact (isBare_of_allDigits hdigits hne).written

theorem join_redo (number : Text) :
    Text.join [' '] ["redo".toList, number] = "redo ".toList ++ number := by
  rw [Text.join_cons_cons, Text.join_singleton]
  rfl

theorem strip_redo (hdigits : Text.AllDigits number) (hne : number ≠ []) :
    Text.strip ("redo ".toList ++ number) = "redo ".toList ++ number := by
  rw [← join_redo]
  exact Token.strip_join fun t ht => (written_redo hdigits hne t ht).toUnbroken

theorem decision_redo (hget : shell.registry.get? "redo".toList = some d)
    (hdigits : Text.AllDigits number) (hne : number ≠ []) :
    shell.decision (.line ("redo ".toList ++ number)) = .call d [number] := by
  have hcut : Token.ofLine ("redo ".toList ++ number) = ["redo".toList, number] := by
    rw [← join_redo]
    exact Token.ofLine_join (written_redo hdigits hne)
  have hreading : shell.reading ("redo ".toList ++ number) = .command := by
    refine reading_eq_command_iff.2 ⟨?_, fun h => h.no_space (by simp)⟩
    intro v
    cases v <;> simp [Verb.spellings]
  rw [← strip_redo hdigits hne] at hreading hcut
  exact decision_line_eq_call_iff.2 ⟨hreading, _, hcut, choose_eq_run_iff.2 (Or.inl hget)⟩

/-- What a repeated line came to is printed; if that fails, repeating it has failed. -/
def printedBy (shell : Shell) (name : Text) (ended : Outcome × Session) : Outcome × Session :=
  match shell.print ended.1 ended.2 with
  | (.ok _, after) => (.result .noOutput, after)
  | (.error f, after) => (.failed (shell.report name f), after)

theorem evaluate_redo (hget : shell.registry.get? "redo".toList = some d)
    (hhandler : d.handler = Builtin.redo) (hdigits : Text.AllDigits number) (hne : number ≠ [])
    {n : Nat} (hnumber : Text.readInt number = some n) (hentry : s.history.entries[n]? = some entry)
    (depth : Nat) :
    shell.evaluate (depth + 1) (.line ("redo ".toList ++ number)) s =
      (shell.evaluate depth (.line entry)
        (s.called ("redo ".toList ++ number) "redo".toList [number])).map
        (shell.printedBy "redo".toList) := by
  have hcall := decision_redo hget hdigits hne
  have hstrip := strip_redo hdigits hne
  have hpart : "redo".toList <:+: Text.strip ("redo ".toList ++ number) :=
    ⟨[], ' ' :: number, hstrip.symm⟩
  have htaken := taken_of_not_admits hcall hstrip (admits_eq_false (by decide) hpart) s
  have hname := Registry.name_of_get? hget
  have hpositional : (Arguments.ofTokens [number]).positional = [number] := by
    rw [Arguments.positional_singleton, if_neg]
    refine Item.not_namesOption_of_head? fun hhead => ?_
    exact absurd (hdigits _ (List.mem_of_head? hhead)) (by decide)
  have hchosen : Builtin.chosenLine s.history (Arguments.ofTokens [number]).positional =
      .ok entry := by
    rw [hpositional, Builtin.chosenLine, hnumber]
    exact History.get_of_getElem? hentry
  rw [evaluate, evaluateInput_eq, hcall, carryOut, invoke, hhandler, htaken, hname,
    run_redo depth hchosen]
  cases shell.evaluate depth (.line entry)
    (s.called ("redo ".toList ++ number) "redo".toList [number]) with
  | none => rfl
  | some ended =>
    rw [Option.map_some, Option.map_some, printedBy]
    generalize shell.print ended.1 ended.2 = reply
    obtain ⟨printed, after⟩ := reply
    cases printed <;> rfl

theorem print_listing (reachable : shell.Reachable s) (hformatters : shell.formatters = [])
    (now : Session) :
    shell.print (.result (if s.history.entries = [] then .noOutput
      else .ofText (Text.join ['\n'] (Builtin.historyRows s.history.entries)))) now =
      (.ok (), if s.history.entries = [] then now
        else now.print (Display.plainly
          (Text.join ['\n'] (Builtin.historyRows s.history.entries)))) := by
  by_cases hempty : s.history.entries = []
  · rw [if_pos hempty, if_pos hempty]
    rfl
  · have hstrip : ∀ entry ∈ s.history.entries, entry.strip = entry := fun entry hentry =>
      (reachable.admitted entry hentry).1
    have hhanded := Display.handed_nil (Builtin.visibleLines_listing_ne_nil hempty hstrip)
    rw [if_neg hempty, if_neg hempty]
    exact print_ofText (hformatters ▸ hhanded) now

/--
The line that shows the history lists every entry, oldest first, in a row of its own. In front stand
the numbers from zero on, filled up with zeros to the width of the last. Without formatters the
listing is displayed line by line, or as it is if an entry makes it pass for help. Its lines are
those of the rows, one after another; a row begins with its number, and it is one line unless the
entry itself holds line boundaries. The session has taken the line in, and its history is what it
was. Where after that `redo` is typed with a number just as it stands in a row, on whatever
terminal, the text of that row is evaluated as a line, with nothing but the two lines taken in, and
its outcome is printed. A number of more digits than a numeral may have could neither be written nor
read; no history is as long as that.
-/
theorem redo_repeats_the_row (builtin : ∀ d ∈ Builtin.descriptors, d ∈ shell.registry.commands)
    (reachable : shell.Reachable s) (depth : Nat) :
    let entries := s.history.entries
    let rows := Builtin.historyRows entries
    let listed := s.called "history".toList "history".toList []
    let outcome := Outcome.result (if entries = [] then .noOutput
      else .ofText (Text.join ['\n'] rows))
    shell.evaluate depth (.line "history".toList) s = some (outcome, listed) ∧
    listed.history = s.history ∧
    rows.length = entries.length ∧
    (shell.formatters = [] → shell.print outcome listed =
      (.ok (), if entries = [] then listed
        else listed.print (Display.plainly (Text.join ['\n'] rows)))) ∧
    Display.visibleLines (Text.join ['\n'] rows) = rows.flatMap Display.visibleLines ∧
    ∀ n entry, entries[n]? = some entry → ∃ zeros number,
      number = List.replicate zeros '0' ++ Text.ofNat n ∧
      number.length = (Text.ofNat (entries.length - 1)).length ∧
      rows[n]? = some (number ++ ": ".toList ++ entry) ∧
      (∃ first others, Display.visibleLines (number ++ ": ".toList ++ entry) =
        (number ++ ": ".toList ++ first) :: others) ∧
      ((∀ c ∈ entry, Text.isLineBoundary c = false) →
        Display.visibleLines (number ++ ": ".toList ++ entry) =
          [number ++ ": ".toList ++ entry]) ∧
      (number.length ≤ Text.digitLimit → ∀ terminal : Terminal,
        let shown := { listed with terminal }
        shell.evaluate (depth + 1) (.line ("redo ".toList ++ number)) shown =
          (shell.evaluate depth (.line entry)
            (shown.called ("redo ".toList ++ number) "redo".toList [number])).map
            (shell.printedBy "redo".toList)) := by
  intro entries rows listed outcome
  obtain ⟨d, hget, -, hhandler⟩ : ∃ d, shell.registry.get? "history".toList = some d ∧
    d.name = "history".toList ∧ d.handler = Builtin.history := Builtin.exists_get? builtin rfl
  obtain ⟨e, hgetRedo, -, hhandlerRedo⟩ : ∃ e, shell.registry.get? "redo".toList = some e ∧
    e.name = "redo".toList ∧ e.handler = Builtin.redo := Builtin.exists_get? builtin rfl
  have hstrip : ∀ entry ∈ entries, entry.strip = entry := fun entry hentry =>
    (reachable.admitted entry hentry).1
  refine ⟨evaluate_history hget hhandler depth s, rfl, Builtin.length_historyRows entries,
    fun hformatters => print_listing reachable hformatters listed,
    Builtin.visibleLines_listing hstrip, ?_⟩
  intro n entry hentry
  obtain ⟨hn, -⟩ := List.getElem?_eq_some_iff.1 hentry
  have hdigits : Text.AllDigits (Builtin.rowNumber entries n) := Text.allDigits_ofNatPadded _ n
  have hne : Builtin.rowNumber entries n ≠ [] := Text.ofNatPadded_ne_nil _ n
  refine ⟨_, Builtin.rowNumber entries n, rfl, Builtin.length_rowNumber hn, ?_,
    Builtin.exists_visibleLines_row hdigits hne entry, Builtin.visibleLines_row hdigits hne, ?_⟩
  · rw [Builtin.historyRows_getElem?, hentry]
    rfl
  · intro hlength terminal shown
    have hshown : shown.history.entries[n]? = some entry := hentry
    exact evaluate_redo hgetRedo hhandlerRedo hdigits hne (Text.readInt_ofNatPadded hlength)
      hshown depth

/-- The session of the bare shell after a line was typed eleven times. -/
def afterEchoes : Session :=
  { Session.start Settings.default (.ofTyped []) with
    history := ⟨Settings.default.historySize, List.replicate 11 "dbg.echo a".toList⟩
    lastInput := some "dbg.echo a".toList
    journal := List.replicate 11 (.ran "dbg.echo".toList [['a']]) }

theorem reachable_afterEchoes : bare.Reachable afterEchoes := by
  have hrun : bare.execute 1 (Program.forEach (List.replicate 11 "dbg.echo a".toList) fun line =>
      (Program.request (.evaluate line)).bind fun _ => .done ())
        (.start bare.settings (.ofTyped [])) = some (.ok (), afterEchoes) := by
    decide +kernel
  exact .executed (.start _) hrun

/-- Of eleven entries the fourth is shown, and repeated, with a zero in front of its number. -/
theorem redo_repeats_the_row_padded :
    let listed := afterEchoes.called "history".toList "history".toList []
    bare.Reachable afterEchoes ∧
      (Builtin.historyRows afterEchoes.history.entries)[3]? = some "03: dbg.echo a".toList ∧
      bare.evaluate 1 (.line "redo 03".toList) listed =
        (bare.evaluate 0 (.line "dbg.echo a".toList)
          (listed.called "redo 03".toList "redo".toList ["03".toList])).map
          (bare.printedBy "redo".toList) := by
  intro listed
  obtain ⟨-, -, -, -, -, hrows⟩ := redo_repeats_the_row (fun _ hd => hd) reachable_afterEchoes 0
  obtain ⟨zeros, number, hnumber, hlength, hrow, -, -, hredo⟩ :=
    hrows 3 "dbg.echo a".toList (by decide)
  have hwidth : number.length = 2 := hlength.trans (by decide)
  have hzeros : zeros = 1 := by
    rw [hnumber, List.length_append, List.length_replicate] at hwidth
    have hone : (Text.ofNat 3).length = 1 := by decide
    omega
  obtain rfl : number = "03".toList := by
    rw [hnumber, hzeros]
    decide
  exact ⟨reachable_afterEchoes, hrow, hredo (by decide) listed.terminal⟩

end Shell

end CommandShell
