import CommandShell.Proofs.Script.Opener
import CommandShell.Proofs.Text.ScriptLines
import CommandShell.Script.Parser

/-!
# Showing a script and reading it back

The directives that a script is read as satisfy a few conditions, whatever the script. Directives
that satisfy them are shown as lines that read back as the same directives, so the conditions
describe exactly the directives that scripts can hold.
-/

namespace CommandShell

/-- A command line as a script can hold it: stripped, in one line, and no comment. -/
structure Text.IsCommand (t : Text) : Prop where
  nonempty : t ≠ []
  stripped : t.strip = t
  one_line : '\n' ∉ t
  no_comment : t.head? ≠ some '#'

namespace Directive

/-- A directive as a script can hold it. -/
def WellFormed : Directive → Prop
  | .plain text => text.IsCommand ∧ opener? text = none
  | .heredoc text marker lines => text.IsCommand ∧
      (marker ≠ [] ∧ ∀ c ∈ marker, Text.isWordChar c = true) ∧
      ∀ line ∈ lines, '\n' ∉ line ∧ line.strip ≠ marker

theorem echo_ne_nil (lead : Text) (d : Directive) : d.echo lead ≠ [] := by
  cases d <;> simp [echo]

theorem WellFormed.not_mem_echo {d : Directive} (h : d.WellFormed) {line : Text}
    (hl : line ∈ d.echo []) : '\n' ∉ line := by
  cases d with
  | plain text =>
    obtain rfl : line = text := by simpa [echo] using hl
    exact h.1.one_line
  | heredoc text marker lines =>
    obtain ⟨htext, ⟨-, hword⟩, hlines⟩ := h
    have hmarker : '\n' ∉ marker := Text.lineFeed_not_mem_of_word hword
    simp only [echo, List.nil_append, List.cons_append, List.mem_cons, List.mem_append,
      List.not_mem_nil, or_false] at hl
    rcases hl with rfl | hl | rfl
    · simp only [List.mem_append, not_or]
      exact ⟨⟨htext.one_line, by decide⟩, hmarker⟩
    · exact (hlines line hl).1
    · exact hmarker

end Directive

namespace Script

/-! ## Reading one line -/

theorem readLine_of_isCommand {t : Text} (h : t.IsCommand) :
    readLine t =
      match Directive.opener? t with
      | some (command, marker) => .opens command marker
      | none => .directive t := by
  have hcond : (t.isEmpty || t.head? == some '#') = false := by
    simp [h.nonempty, h.no_comment]
  simp only [readLine, h.stripped, hcond]
  rfl

/-- The line that opens the input of a well-formed directive is read as that. -/
theorem readLine_opening {text marker : Text} (htext : text.IsCommand) (hne : marker ≠ [])
    (hword : ∀ c ∈ marker, Text.isWordChar c = true) :
    readLine (text ++ " <<".toList ++ marker) = .opens text marker := by
  have hopens : Directive.Opens (text ++ " <<".toList ++ marker) text marker :=
    ⟨[' '], [], by simp, ⟨htext.nonempty, fun _ => Text.getLast?_of_strip_eq_self htext.stripped⟩,
      ⟨by simp, List.forall_mem_singleton.2 (by decide)⟩, by simp, hne, hword⟩
  have hmarker : '\n' ∉ marker := Text.lineFeed_not_mem_of_word hword
  have hhead : (text ++ " <<".toList ++ marker).head? = text.head? := by
    cases text with
    | nil => exact absurd rfl htext.nonempty
    | cons c text => rfl
  have hlast : (text ++ " <<".toList ++ marker).getLast? = marker.getLast? := by
    rw [List.getLast?_append_of_ne_nil _ hne]
  have hcommand : (text ++ " <<".toList ++ marker).IsCommand :=
    { nonempty := by simp
      stripped := Text.strip_eq_self
        (fun c hc => Text.head?_of_strip_eq_self htext.stripped (hhead ▸ hc))
        (fun c hc => Text.isBlank_eq_false_of_isWordChar
          (hword c (List.mem_of_getLast? (hlast ▸ hc))))
      one_line := by
        simp only [List.mem_append, not_or]
        exact ⟨⟨htext.one_line, by decide⟩, hmarker⟩
      no_comment := by rw [hhead]; exact htext.no_comment }
  rw [readLine_of_isCommand hcommand, Directive.opener?_eq_some_iff.2 hopens]

theorem isCommand_strip_of_readLine {line : Text} (hl : '\n' ∉ line)
    (h : readLine line ≠ .nothing) : line.strip.IsCommand := by
  unfold readLine at h
  dsimp only at h
  split at h
  · exact absurd rfl h
  · next hcond =>
    simp only [Bool.or_eq_true, List.isEmpty_iff, beq_iff_eq, not_or] at hcond
    exact ⟨hcond.1, Text.strip_strip line, fun hm => hl (line.strip_isInfix.subset hm), hcond.2⟩

theorem wellFormed_of_readLine_directive {line text : Text} (hl : '\n' ∉ line)
    (h : readLine line = .directive text) : (Directive.plain text).WellFormed := by
  have hcommand := isCommand_strip_of_readLine hl (by rw [h]; simp)
  have hread := readLine_of_isCommand hcommand
  simp only [readLine, Text.strip_strip] at hread h
  rw [hread] at h
  cases ho : Directive.opener? line.strip with
  | none =>
    rw [ho] at h
    obtain rfl := LineReading.directive.inj h
    exact ⟨hcommand, ho⟩
  | some opened => simp [ho] at h

/-- The command and the marker of a line that opens input make a well-formed directive. -/
theorem wellFormed_of_readLine_opens {line command marker : Text} (hl : '\n' ∉ line)
    (h : readLine line = .opens command marker) :
    (Directive.heredoc command marker []).WellFormed := by
  have hcommand := isCommand_strip_of_readLine hl (by rw [h]; simp)
  have hread := readLine_of_isCommand hcommand
  simp only [readLine, Text.strip_strip] at hread h
  rw [hread] at h
  cases ho : Directive.opener? line.strip with
  | none => simp [ho] at h
  | some opened =>
    obtain ⟨c, m⟩ := opened
    rw [ho] at h
    obtain ⟨rfl, rfl⟩ := LineReading.opens.inj h
    obtain ⟨gap, inner, hline, ⟨hne, hlast⟩, -, -, hmarker⟩ := Directive.opens_of_opener? ho
    have hhead : line.strip.head? = c.head? := by
      rw [hline]
      cases c with
      | nil => exact absurd rfl hne
      | cons d c => simp
    refine ⟨⟨hne, ?_, ?_, ?_⟩, hmarker, by simp⟩
    · exact Text.strip_eq_self
        (fun d hd => Text.head?_of_strip_eq_self hcommand.stripped (hhead ▸ hd)) hlast
    · intro hm
      apply hcommand.one_line
      rw [hline]
      simp [hm]
    · rw [← hhead]
      exact hcommand.no_comment

/-! ## The two states of the scanner -/

theorem map_cons_eq_ok {d : Directive} {result : Except Unclosed (List Directive)}
    {ds : List Directive} (h : result.map (d :: ·) = .ok ds) :
    ∃ rest, result = .ok rest ∧ ds = d :: rest := by
  cases result with
  | error u => simp [Except.map] at h
  | ok rest => exact ⟨rest, rfl, (Except.ok.inj h).symm⟩

/-- What the invariant of the scanner says of open input: closed here, it would be well-formed. -/
def OpenHeredoc.WellFormed (h : OpenHeredoc) : Prop :=
  (Directive.heredoc h.command h.marker h.lines).WellFormed

theorem OpenHeredoc.WellFormed.push {h : OpenHeredoc} (hh : h.WellFormed) {line : Text}
    (hl : '\n' ∉ line) (hm : line.strip ≠ h.marker) :
    OpenHeredoc.WellFormed { h with lines := h.lines ++ [line] } := by
  obtain ⟨hcommand, hmarker, hlines⟩ := hh
  refine ⟨hcommand, hmarker, fun l hmem => ?_⟩
  rcases List.mem_append.1 hmem with hold | hnew
  · exact hlines l hold
  · rw [List.mem_singleton.1 hnew]
    exact ⟨hl, hm⟩

theorem wellFormed_of_parseLines {lines : List Text} (hl : ∀ line ∈ lines, '\n' ∉ line) :
    ∀ {number : Nat} {state : Option OpenHeredoc} {ds : List Directive},
      (∀ h, state = some h → h.WellFormed) → parseLines number state lines = .ok ds →
      ∀ d ∈ ds, d.WellFormed := by
  induction lines with
  | nil =>
    intro number state ds _ hp
    cases state with
    | none => simp [← Except.ok.inj hp]
    | some h => cases hp
  | cons line lines ih =>
    intro number state ds hs hp
    have hline := hl line List.mem_cons_self
    have ih := fun {number state ds} => @ih (fun l hm => hl l (List.mem_cons_of_mem _ hm))
      number state ds
    have hnone : ∀ h : OpenHeredoc, none = some h → h.WellFormed := fun _ he => nomatch he
    cases state with
    | some h =>
      have hopen := hs h rfl
      rw [parseLines] at hp
      split at hp
      · obtain ⟨rest, hrest, rfl⟩ := map_cons_eq_ok hp
        exact List.forall_mem_cons.2 ⟨hopen, ih hnone hrest⟩
      · next hmarker =>
        refine ih (fun h' he => ?_) hp
        obtain rfl := Option.some.inj he
        exact hopen.push hline hmarker
    | none =>
      rw [parseLines] at hp
      split at hp
      · exact ih hnone hp
      · next text hread =>
        obtain ⟨rest, hrest, rfl⟩ := map_cons_eq_ok hp
        exact List.forall_mem_cons.2
          ⟨wellFormed_of_readLine_directive hline hread, ih hnone hrest⟩
      · next command marker hread =>
        refine ih (fun h he => ?_) hp
        obtain rfl := Option.some.inj he
        exact wellFormed_of_readLine_opens hline hread

/-- Open input takes the lines up to its marker, whatever else they look like. -/
theorem parseLines_some_append {h : OpenHeredoc} (hm : h.marker.strip = h.marker)
    {lines : List Text} (hl : ∀ line ∈ lines, line.strip ≠ h.marker) (number : Nat)
    (rest : List Text) :
    parseLines number (some h) (lines ++ h.marker :: rest) =
      (parseLines (number + lines.length + 1) none rest).map
        (.heredoc h.command h.marker (h.lines ++ lines) :: ·) := by
  induction lines generalizing h number with
  | nil =>
    rw [List.nil_append, parseLines, if_pos hm]
    simp
  | cons line lines ih =>
    rw [List.cons_append, parseLines, if_neg (hl line List.mem_cons_self)]
    have hrest := ih (h := { h with lines := h.lines ++ [line] }) hm
      (fun l hmem => hl l (List.mem_cons_of_mem _ hmem)) (number + 1)
    rw [hrest]
    simp [Nat.add_comm, Nat.add_left_comm]

/-- The lines that show a well-formed directive are read as that directive. -/
theorem parseLines_echo_append {d : Directive} (hd : d.WellFormed) (number : Nat)
    (rest : List Text) :
    parseLines number none (d.echo [] ++ rest) =
      (parseLines (number + (d.echo []).length) none rest).map (d :: ·) := by
  cases d with
  | plain text =>
    have hread : readLine text = .directive text := by
      rw [readLine_of_isCommand hd.1, hd.2]
    simp [Directive.echo, parseLines, hread]
  | heredoc text marker lines =>
    obtain ⟨htext, ⟨hne, hword⟩, hlines⟩ := hd
    have hecho : (Directive.heredoc text marker lines).echo [] ++ rest =
        (text ++ " <<".toList ++ marker) :: (lines ++ marker :: rest) := by
      simp [Directive.echo]
    rw [hecho, parseLines, readLine_opening htext hne hword]
    have hclose := parseLines_some_append (h := ⟨text, marker, number, []⟩)
      (Text.strip_eq_self_of_word hword) (fun line hm => (hlines line hm).2) (number + 1) rest
    have hlength : ((Directive.heredoc text marker lines).echo []).length = lines.length + 2 := by
      simp [Directive.echo]
    rw [hlength, show number + (lines.length + 2) = number + 1 + lines.length + 1 from by omega]
    exact hclose

theorem parseLines_echoes {ds : List Directive} (hds : ∀ d ∈ ds, d.WellFormed) (number : Nat) :
    parseLines number none (ds.flatMap (Directive.echo [])) = .ok ds := by
  induction ds generalizing number with
  | nil => rfl
  | cons d ds ih =>
    rw [List.flatMap_cons, parseLines_echo_append (hds d List.mem_cons_self),
      ih fun d hm => hds d (List.mem_cons_of_mem _ hm)]
    rfl

/--
Reading a script yields well-formed directives only, and every list of well-formed directives is
read from the lines that show it, ended as on either kind of system.
-/
theorem parse_echo_round_trip :
    (∀ text ds, parse text = .ok ds → ∀ d ∈ ds, d.WellFormed) ∧
    (∀ ds : List Directive, (∀ d ∈ ds, d.WellFormed) →
      parse (Text.join ['\r', '\n'] (ds.flatMap (Directive.echo []))) = .ok ds) := by
  constructor
  · intro text ds hp
    refine wellFormed_of_parseLines (fun _ => Text.not_mem_of_mem_scriptLines) ?_ hp
    intro h he
    cases he
  · intro ds hds
    cases ds with
    | nil => rfl
    | cons d ds =>
      have hlines : Text.scriptLines
          (Text.join ['\r', '\n'] ((d :: ds).flatMap (Directive.echo []))) =
            (d :: ds).flatMap (Directive.echo []) := by
        refine Text.scriptLines_join ?_ fun line hm => ?_
        · simp [Directive.echo_ne_nil]
        · obtain ⟨e, he, hline⟩ := List.mem_flatMap.1 hm
          exact (hds e he).not_mem_echo hline
      rw [parse, hlines]
      exact parseLines_echoes hds 1

/-- An earlier `<<`, lines that only resemble the marker, and a carriage return all come back. -/
theorem parse_echo_round_trip_nested :
    let ds : List Directive :=
      [.plain "say <<EOF now".toList,
        .heredoc "cat <<X".toList "EOF".toList ["EOF x".toList, [], "\tEO\r".toList]]
    (∀ d ∈ ds, d.WellFormed) ∧
      parse (Text.join ['\r', '\n'] (ds.flatMap (Directive.echo []))) = .ok ds := by
  intro ds
  have hscript : parse "say <<EOF now\ncat <<X <<EOF\nEOF x\n\n\tEO\r\r\nEOF".toList = .ok ds := by
    decide +kernel
  have hds := parse_echo_round_trip.1 _ ds hscript
  exact ⟨hds, parse_echo_round_trip.2 ds hds⟩

end Script

end CommandShell
