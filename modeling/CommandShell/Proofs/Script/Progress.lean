import Mathlib.Data.List.Induction
import CommandShell.Proofs.Text.LineEnds
import CommandShell.Script.Parser

/-!
# Reading a script line by line

A script is read from its first line to its last, and the state in between is the directives so far
and the input that is open, if any is. Outside any input a line counts as far as it is stripped,
and what was read before a line does not change how it is read, apart from its number. Main
statements: `scripts_read_one_after_another` and `line_ends_of_any_style`.
-/

namespace CommandShell.Script

/--
How far the reading of a script has come: the number of the next line, the directives so far, and
the input that is being collected, if any is.
-/
structure Progress where
  number : Nat
  directives : List Directive
  pending : Option OpenHeredoc

namespace Progress

/-- Nothing has been read. -/
def start : Progress := ⟨1, [], none⟩

/-- Reads the next line. -/
def step (p : Progress) (line : Text) : Progress :=
  match p.pending with
  | some h =>
    if line.strip = h.marker then
      ⟨p.number + 1, p.directives ++ [.heredoc h.command h.marker h.lines], none⟩
    else ⟨p.number + 1, p.directives, some { h with lines := h.lines ++ [line] }⟩
  | none =>
    match readLine line with
    | .nothing => ⟨p.number + 1, p.directives, none⟩
    | .directive text => ⟨p.number + 1, p.directives ++ [.plain text], none⟩
    | .opens command marker => ⟨p.number + 1, p.directives, some ⟨command, marker, p.number, []⟩⟩

/-- Reads some lines. -/
def after (p : Progress) (lines : List Text) : Progress := lines.foldl step p

/-- What the script comes to if it ends here. -/
def result (p : Progress) : Except Unclosed (List Directive) :=
  match p.pending with
  | none => .ok p.directives
  | some h => .error ⟨h.marker, h.start⟩

variable {p : Progress} {line : Text} {lines : List Text} {ds : List Directive}

theorem after_cons (p : Progress) (line : Text) (lines : List Text) :
    p.after (line :: lines) = (p.step line).after lines := rfl

theorem after_append (p : Progress) (lines more : List Text) :
    p.after (lines ++ more) = (p.after lines).after more :=
  List.foldl_append

theorem after_concat (p : Progress) (lines : List Text) (line : Text) :
    p.after (lines ++ [line]) = (p.after lines).step line :=
  after_append p lines [line]

theorem step_number (p : Progress) (line : Text) : (p.step line).number = p.number + 1 := by
  unfold step
  split
  · split <;> rfl
  · split <;> rfl

theorem after_number (p : Progress) (lines : List Text) :
    (p.after lines).number = p.number + lines.length := by
  induction lines generalizing p with
  | nil => rfl
  | cons line lines ih =>
    rw [after_cons, ih, step_number, List.length_cons]
    omega

theorem map_cons_map_append (result : Except Unclosed (List Directive)) (d : Directive)
    (ds : List Directive) :
    (result.map (d :: ·)).map (ds ++ ·) = result.map ((ds ++ [d]) ++ ·) := by
  cases result with
  | error u => rfl
  | ok more => simp [Except.map]

/-- The scanner goes on from where the reading has come to. -/
theorem result_after (p : Progress) (lines : List Text) :
    (p.after lines).result = (parseLines p.number p.pending lines).map (p.directives ++ ·) := by
  induction lines generalizing p with
  | nil =>
    obtain ⟨number, directives, pending⟩ := p
    cases pending with
    | none => simp [after, result, parseLines, Except.map]
    | some h => rfl
  | cons line lines ih =>
    obtain ⟨number, directives, pending⟩ := p
    rw [after_cons, ih]
    cases pending with
    | some h =>
      by_cases hm : line.strip = h.marker
      · simp [step, parseLines, hm, map_cons_map_append]
      · simp [step, parseLines, hm]
    | none =>
      cases hread : readLine line with
      | nothing => simp [step, parseLines, hread]
      | directive text => simp [step, parseLines, hread, map_cons_map_append]
      | opens command marker => simp [step, parseLines, hread]

/-! ## How a reading ends -/

theorem result_eq_ok_iff : p.result = .ok ds ↔ p.pending = none ∧ p.directives = ds := by
  rw [result]
  cases p.pending <;> simp

theorem result_eq_error_iff {marker : Text} {number : Nat} :
    p.result = .error ⟨marker, number⟩ ↔
      ∃ h, p.pending = some h ∧ h.marker = marker ∧ h.start = number := by
  rw [result]
  cases p.pending <;> simp

/-! ## Only stripped lines count outside any input -/

theorem readLine_congr {other : Text} (h : other.strip = line.strip) :
    readLine other = readLine line := by
  rw [readLine, readLine, h]

/-- A line that is not collected counts as far as it is stripped. -/
theorem step_congr {other : Text} (hstrip : other.strip = line.strip)
    (h : p.pending = none ∨ (p.step line).pending = none) : p.step other = p.step line := by
  obtain ⟨number, directives, pending⟩ := p
  cases pending with
  | none => simp only [step, readLine_congr hstrip]
  | some opened =>
    have hmarker : line.strip = opened.marker := by
      by_contra hm
      simp [step, hm] at h
    simp only [step, hstrip, hmarker, if_true]

/-- If no input is open at the end, a carriage return there makes no difference. -/
theorem after_modifyLast (h : (p.after lines).pending = none) :
    p.after (lines.modifyLast Text.dropReturn) = p.after lines := by
  obtain rfl | ⟨front, last, rfl⟩ := lines.eq_nil_or_concat
  · rfl
  · rw [List.concat_eq_append] at h ⊢
    rw [List.modifyLast_concat, after_concat, after_concat]
    rw [after_concat] at h
    exact step_congr (Text.strip_dropReturn last) (Or.inr h)

/-! ## Reading behind another script -/

/-- The same progress behind so many lines that were read as these directives. -/
def behind (count : Nat) (ds : List Directive) (p : Progress) : Progress :=
  ⟨p.number + count, ds ++ p.directives,
    p.pending.map fun h => { h with start := h.start + count }⟩

theorem step_behind (count : Nat) (ds : List Directive) (p : Progress) (line : Text) :
    (p.behind count ds).step line = (p.step line).behind count ds := by
  obtain ⟨number, directives, pending⟩ := p
  cases pending with
  | some h => by_cases hm : line.strip = h.marker <;> simp [step, behind, hm, Nat.add_right_comm]
  | none => cases hread : readLine line <;> simp [step, behind, hread, Nat.add_right_comm]

theorem after_behind (count : Nat) (ds : List Directive) (p : Progress) (lines : List Text) :
    (p.behind count ds).after lines = (p.after lines).behind count ds :=
  List.foldl_hom (behind count ds) (step_behind count ds)

/-! ## Input that is left open -/

/-- Input that is open after a line was opened by it, or was open before and took it. -/
theorem pending_step {p : Progress} {line : Text} {h : OpenHeredoc}
    (hpending : (p.step line).pending = some h) :
    (p.pending = none ∧ readLine line = .opens h.command h.marker ∧ h.start = p.number ∧
        h.lines = []) ∨
      ∃ old, p.pending = some old ∧ line.strip ≠ old.marker ∧
        h = { old with lines := old.lines ++ [line] } := by
  unfold step at hpending
  split at hpending
  · next old hold =>
    split at hpending
    · contradiction
    · next hmarker => exact Or.inr ⟨old, hold, hmarker, (Option.some.inj hpending).symm⟩
  · next hclosed =>
    split at hpending
    · contradiction
    · contradiction
    · next command marker hread =>
      obtain rfl := Option.some.inj hpending
      exact Or.inl ⟨hclosed, hread, rfl, rfl⟩

/-- Open input takes all lines up to its marker. -/
theorem after_pending {number : Nat} {ds : List Directive} {h : OpenHeredoc} {lines : List Text}
    (hopen : ∀ line ∈ lines, line.strip ≠ h.marker) :
    after ⟨number, ds, some h⟩ lines =
      ⟨number + lines.length, ds, some { h with lines := h.lines ++ lines }⟩ := by
  induction lines generalizing number h with
  | nil => simp [after]
  | cons line lines ih =>
    rw [List.forall_mem_cons] at hopen
    let taken : OpenHeredoc := { h with lines := h.lines ++ [line] }
    have hstep : step ⟨number, ds, some h⟩ line = ⟨number + 1, ds, some taken⟩ := by
      simp [step, taken, hopen.1]
    have hrest : after ⟨number + 1, ds, some taken⟩ lines =
        ⟨number + 1 + lines.length, ds, some { taken with lines := taken.lines ++ lines }⟩ :=
      ih hopen.2
    rw [after_cons, hstep, hrest]
    simp [taken, Nat.add_assoc, Nat.add_comm 1]

/-- The input that is open after some lines was opened by one of them, and it takes the others. -/
theorem exists_of_pending {lines : List Text} {h : OpenHeredoc}
    (hpending : (start.after lines).pending = some h) :
    ∃ earlier line, lines = earlier ++ line :: h.lines ∧ h.start = earlier.length + 1 ∧
      (start.after earlier).pending = none ∧ readLine line = .opens h.command h.marker ∧
      ∀ later ∈ h.lines, later.strip ≠ h.marker := by
  induction lines using List.reverseRecOn generalizing h with
  | nil => contradiction
  | append_singleton lines line ih =>
    -- the last line opened the input, or it is one more line of input that was open before
    rw [after_concat] at hpending
    rcases pending_step hpending with ⟨hclosed, hread, hstart, hlines⟩ | ⟨old, hold, hmarker, rfl⟩
    · refine ⟨lines, line, by rw [hlines], ?_, hclosed, hread, by simp [hlines]⟩
      rw [hstart, after_number]
      exact Nat.add_comm 1 _
    · obtain ⟨earlier, opener, rfl, hstart, hclosed, hread, hopen⟩ := ih hold
      refine ⟨earlier, opener, by simp, hstart, hclosed, hread, ?_⟩
      intro later hlater
      rcases List.mem_append.1 hlater with hbefore | hlast
      · exact hopen later hbefore
      · rwa [List.mem_singleton.1 hlast]

end Progress

/-! ## Reading a text -/

open Progress

theorem parse_eq (text : Text) : parse text = (start.after (Text.scriptLines text)).result := by
  rw [result_after]
  change _ = (parse text).map ([] ++ ·)
  cases parse text <;> rfl

theorem parse_eq_ok_iff {text : Text} {ds : List Directive} :
    parse text = .ok ds ↔
      start.after (Text.scriptLines text) = start.behind (text.count '\n' + 1) ds := by
  have hnumber := after_number start (Text.scriptLines text)
  rw [Text.length_scriptLines] at hnumber
  rw [parse_eq, result_eq_ok_iff]
  generalize start.after (Text.scriptLines text) = p at hnumber ⊢
  obtain ⟨number, directives, pending⟩ := p
  obtain rfl : number = 1 + (text.count '\n' + 1) := hnumber
  simp [behind, start, and_comm]

/-- What follows a whole script and a line feed is read as it stands alone. -/
theorem parse_append {a : Text} {before : List Directive} (h : parse a = .ok before) (b : Text) :
    parse (a ++ '\n' :: b) =
      ((start.after (Text.scriptLines b)).behind (a.count '\n' + 1) before).result := by
  have hbefore := parse_eq_ok_iff.1 h
  have hclosed : (start.after (Text.scriptLines a)).pending = none := by
    rw [hbefore]
    rfl
  rw [parse_eq, Text.scriptLines_append_lineFeed, after_append, after_modifyLast hclosed, hbefore,
    after_behind]

/--
A script that is read as some directives, a line feed and any text are read as these directives and
those of the text; if the text ends inside the input that one of its lines opens, so does the whole,
and the line is counted from the beginning of the whole.
-/
theorem scripts_read_one_after_another {a : Text} {before : List Directive}
    (h : parse a = .ok before) (b : Text) :
    (∀ ds, parse b = .ok ds → parse (a ++ '\n' :: b) = .ok (before ++ ds)) ∧
    ∀ marker number, parse b = .error ⟨marker, number⟩ →
      parse (a ++ '\n' :: b) = .error ⟨marker, number + (1 + a.count '\n')⟩ := by
  rw [parse_append h]
  constructor
  · intro ds hb
    rw [parse_eq, result_eq_ok_iff] at hb
    obtain ⟨hpending, rfl⟩ := hb
    exact result_eq_ok_iff.2 ⟨congrArg (Option.map _) hpending, rfl⟩
  · intro marker number hb
    rw [parse_eq, result_eq_error_iff] at hb
    obtain ⟨opened, hpending, hmarker, rfl⟩ := hb
    refine result_eq_error_iff.2 ⟨_, congrArg (Option.map _) hpending, hmarker, ?_⟩
    show opened.start + (a.count '\n' + 1) = opened.start + (1 + a.count '\n')
    omega

/-- A carriage return where the two scripts meet belongs to no line; the marker still closes. -/
theorem scripts_read_one_after_another_open :
    parse "x <<E\nl\r\nE\r".toList = .ok [.heredoc ['x'] ['E'] [['l']]] ∧
      parse "y\nz <<F\nq".toList = .error ⟨['F'], 2⟩ ∧
      parse ("x <<E\nl\r\nE\r".toList ++ '\n' :: "y\nz <<F\nq".toList) = .error ⟨['F'], 5⟩ := by
  have hfirst : parse "x <<E\nl\r\nE\r".toList = .ok [.heredoc ['x'] ['E'] [['l']]] := by
    decide +kernel
  have hsecond : parse "y\nz <<F\nq".toList = .error ⟨['F'], 2⟩ := by decide +kernel
  obtain ⟨-, hopen⟩ := scripts_read_one_after_another hfirst "y\nz <<F\nq".toList
  exact ⟨hfirst, hsecond, hopen _ _ hsecond⟩

/--
Lines without line feeds and without carriage returns at their ends are read as they are, wherever
which style of line end stands between them, also inside input that is left open.
-/
theorem line_ends_of_any_style {lines : List Text}
    (h : ∀ line ∈ lines, '\n' ∉ line ∧ line.getLast? ≠ some '\r') (ends ends' : Nat → Text.LineEnd) :
    (lines ≠ [] → parse (Text.joinEnds ends lines) = parseLines 1 none lines) ∧
      parse (Text.joinEnds ends lines) = parse (Text.joinEnds ends' lines) := by
  by_cases hne : lines = []
  · rw [hne]
    exact ⟨fun h => absurd rfl h, rfl⟩
  · have hparse : ∀ ends, parse (Text.joinEnds ends lines) = parseLines 1 none lines := by
      intro ends
      rw [parse, Text.scriptLines_joinEnds hne h]
    exact ⟨fun _ => hparse ends, (hparse ends).trans (hparse ends').symm⟩

/-- A carriage return inside a line is part of it in either style. -/
theorem line_ends_of_any_style_mixed :
    let lines := ["# note\rx".toList, "greet <<E".toList, "  Alice ".toList, "E ".toList]
    parse (Text.joinEnds (fun n => if n = 1 then .lineFeed else .returnLineFeed) lines) =
        parse (Text.joinEnds (fun _ => .lineFeed) lines) ∧
      parse (Text.joinEnds (fun _ => .lineFeed) lines) =
        .ok [.heredoc "greet".toList ['E'] ["  Alice ".toList]] := by
  intro lines
  have hlines : ∀ line ∈ lines, '\n' ∉ line ∧ line.getLast? ≠ some '\r' := by decide
  refine ⟨(line_ends_of_any_style hlines _ _).2, ?_⟩
  decide +kernel

end CommandShell.Script
