import Mathlib.Data.List.ModifyLast
import CommandShell.Proofs.Text.Parts
import CommandShell.Proofs.Text.ScriptLines

/-!
# Line ends of a script

A line feed behind a text ends its last line and takes a carriage return at its end along; what
follows is read as if it stood alone. So the lines of a script do not depend on the style of its
line ends, and the text before a line holds exactly the lines before it.
-/

namespace CommandShell.Text

/-- The text without the carriage return at its end, if it has one. -/
def dropReturn (t : Text) : Text :=
  if t.getLast? = some '\r' then t.dropLast else t

theorem dropReturn_eq_self {t : Text} (h : t.getLast? ≠ some '\r') : t.dropReturn = t :=
  if_neg h

theorem dropReturn_cons {c : Char} {t : Text} (h : c = '\r' → t ≠ []) :
    dropReturn (c :: t) = c :: dropReturn t := by
  cases t with
  | nil => exact dropReturn_eq_self fun hc => h (Option.some.inj hc) rfl
  | cons d t =>
    rw [dropReturn, dropReturn, List.getLast?_cons_cons]
    split <;> rfl

theorem strip_concat_blank {c : Char} (hc : isBlank c = true) (t : Text) :
    strip (t ++ [c]) = strip t := by
  have hend : ∀ u : Text, dropEnd (u ++ [c]) isBlank = dropEnd u isBlank := fun u =>
    List.rdropWhile_concat_pos isBlank u c hc
  rw [strip, trim, strip, trim, List.dropWhile_append]
  cases hfront : t.dropWhile isBlank with
  | nil => simp [hc]
  | cons d u => exact hend (d :: u)

@[simp] theorem strip_dropReturn (t : Text) : t.dropReturn.strip = t.strip := by
  rw [dropReturn]
  split
  · next hlast =>
    have hblank : isBlank '\r' = true := by decide
    rw [← strip_concat_blank hblank t.dropLast, List.dropLast_append_getLast? _ hlast]
  · rfl

theorem scriptLines_ne_nil (t : Text) : scriptLines t ≠ [] := by
  fun_cases scriptLines t with
  | case4 c rest => cases scriptLines rest <;> simp [consFirst]
  | _ => simp

theorem length_scriptLines (t : Text) : (scriptLines t).length = t.count '\n' + 1 := by
  fun_induction scriptLines t with
  | case1 => rfl
  | case2 rest ih => simp [ih]
  | case3 rest ih => simp [ih]
  | case4 c rest hc _ ih =>
    rw [List.count_cons_of_ne (fun h => hc h), ← ih]
    cases hlines : scriptLines rest with
    | nil => exact absurd hlines (scriptLines_ne_nil rest)
    | cons first others => rfl

theorem eq_nil_of_scriptLines {t : Text} (h : scriptLines t = [[]]) : t = [] := by
  have hlength := length_scriptLines t
  rw [h, List.length_singleton] at hlength
  have hcount : t.count '\n' = 0 := by omega
  rw [scriptLines_of_not_mem (List.count_eq_zero.1 hcount)] at h
  exact (List.cons.inj h).1

theorem modifyLast_cons (line : Text) {lines : List Text} (h : lines ≠ []) :
    (line :: lines).modifyLast dropReturn = line :: lines.modifyLast dropReturn :=
  List.modifyLast_append_of_right_ne_nil dropReturn [line] lines h

theorem consFirst_modifyLast {c : Char} {lines : List Text} (hne : lines ≠ [])
    (h : c = '\r' → lines ≠ [[]]) (more : List Text) :
    consFirst c (lines.modifyLast dropReturn ++ more) =
      (consFirst c lines).modifyLast dropReturn ++ more := by
  obtain ⟨first, others, rfl⟩ := List.exists_cons_of_ne_nil hne
  cases others with
  | nil =>
    have hfirst : c = '\r' → first ≠ [] := fun hc he => h hc (by rw [he])
    exact congrArg (· :: more) (dropReturn_cons hfirst).symm
  | cons next others =>
    have hothers : next :: others ≠ [] := by simp
    rw [modifyLast_cons first hothers]
    exact congrArg (· ++ more) (modifyLast_cons (c :: first) hothers).symm

/-- A line feed behind a text ends its last line, together with a carriage return before it. -/
theorem scriptLines_append_lineFeed (a b : Text) :
    scriptLines (a ++ '\n' :: b) = (scriptLines a).modifyLast dropReturn ++ scriptLines b := by
  fun_induction scriptLines a with
  | case1 => rfl
  | case2 rest ih =>
    change [] :: scriptLines (rest ++ '\n' :: b) = _
    rw [ih, modifyLast_cons [] (scriptLines_ne_nil rest)]
    rfl
  | case3 rest ih =>
    change [] :: scriptLines (rest ++ '\n' :: b) = _
    rw [ih, modifyLast_cons [] (scriptLines_ne_nil rest)]
    rfl
  | case4 c rest hc hreturn ih =>
    -- only a carriage return at the very end meets the line feed that is added
    by_cases hend : c = '\r' ∧ rest = []
    · obtain ⟨rfl, rfl⟩ := hend
      rfl
    · have hhead : c = '\r' → (rest ++ '\n' :: b).head? ≠ some '\n' := by
        rintro rfl
        cases rest with
        | nil => exact absurd ⟨rfl, rfl⟩ hend
        | cons d rest =>
          intro hd
          exact hreturn rest rfl (congrArg (· :: rest) (Option.some.inj hd))
      have hlast : c = '\r' → scriptLines rest ≠ [[]] := fun hreturn hlines =>
        hend ⟨hreturn, eq_nil_of_scriptLines hlines⟩
      rw [List.cons_append, scriptLines_cons hc hhead, ih]
      exact consFirst_modifyLast (scriptLines_ne_nil rest) hlast _

/-! ## Lines with line ends of either style -/

/-- How a line of a script ends. -/
inductive LineEnd where
  | lineFeed
  | returnLineFeed
  deriving DecidableEq, Repr

/-- The characters of a line end. -/
def LineEnd.text : LineEnd → Text
  | .lineFeed => ['\n']
  | .returnLineFeed => ['\r', '\n']

/-- The lines with a line end between neighbours, each in a style of its own. -/
def joinEnds (ends : Nat → LineEnd) : List Text → Text
  | [] => []
  | [line] => line
  | line :: next :: rest =>
    line ++ ((ends 0).text ++ joinEnds (fun n => ends (n + 1)) (next :: rest))

theorem scriptLines_append_end {line : Text} (h : '\n' ∉ line) (hr : line.getLast? ≠ some '\r')
    (lineEnd : LineEnd) (rest : Text) :
    scriptLines (line ++ (lineEnd.text ++ rest)) = line :: scriptLines rest := by
  cases lineEnd with
  | lineFeed =>
    refine (scriptLines_append_lineFeed line rest).trans ?_
    rw [scriptLines_of_not_mem h]
    exact congrArg (· :: scriptLines rest) (dropReturn_eq_self hr)
  | returnLineFeed => exact scriptLines_append_lineEnd h rest

/-- Whatever style each line end has, the lines are read back. -/
theorem scriptLines_joinEnds {lines : List Text} (hne : lines ≠ [])
    (h : ∀ line ∈ lines, '\n' ∉ line ∧ line.getLast? ≠ some '\r') (ends : Nat → LineEnd) :
    scriptLines (joinEnds ends lines) = lines := by
  induction lines generalizing ends with
  | nil => exact absurd rfl hne
  | cons line rest ih =>
    obtain ⟨hfeed, hreturn⟩ := h line List.mem_cons_self
    cases rest with
    | nil => exact scriptLines_of_not_mem hfeed
    | cons next rest =>
      have hrest := ih (by simp) (fun l hl => h l (List.mem_cons_of_mem _ hl))
        (fun n => ends (n + 1))
      rw [joinEnds, scriptLines_append_end hfeed hreturn, hrest]

/-! ## The text before a line -/

/-- The text before its line end of the number, counted from zero; all of it if it has none. -/
def beforeEnd (number : Nat) : Text → Text
  | [] => []
  | '\n' :: rest => if number = 0 then [] else '\n' :: beforeEnd (number - 1) rest
  | '\r' :: '\n' :: rest => if number = 0 then [] else '\r' :: '\n' :: beforeEnd (number - 1) rest
  | c :: rest => c :: beforeEnd number rest

/-- The text before its line of the number, counted from one, without the line end before it. -/
def beforeLine (number : Nat) (t : Text) : Text :=
  match number with
  | 0 | 1 => []
  | n + 2 => t.beforeEnd n

theorem head?_beforeEnd {number : Nat} {t : Text} {c : Char}
    (h : (beforeEnd number t).head? = some c) : t.head? = some c := by
  revert h
  fun_cases beforeEnd number t with
  | case1 => exact id
  | case2 rest => simp
  | case3 rest _ => exact id
  | case4 rest => simp
  | case5 rest _ => exact id
  | case6 d rest _ _ => exact id

theorem scriptLines_beforeEnd (number : Nat) (t : Text) :
    scriptLines (beforeEnd number t) = (scriptLines t).take (number + 1) := by
  fun_induction beforeEnd number t with
  | case1 number => simp
  | case2 rest => rfl
  | case3 number rest hnumber ih =>
    rw [scriptLines_lineFeed, scriptLines_lineFeed, List.take_succ_cons, ih]
    rw [Nat.sub_add_cancel (by omega)]
  | case4 rest => rfl
  | case5 number rest hnumber ih =>
    rw [scriptLines_return_lineFeed, scriptLines_return_lineFeed, List.take_succ_cons, ih]
    rw [Nat.sub_add_cancel (by omega)]
  | case6 number c rest hc hreturn ih =>
    have hhead : c = '\r' → rest.head? ≠ some '\n' := by
      rintro rfl hd
      obtain ⟨after, hafter⟩ := List.head?_eq_some_iff.1 hd
      exact hreturn after rfl hafter
    obtain ⟨first, others, hlines⟩ := List.exists_cons_of_ne_nil (scriptLines_ne_nil rest)
    rw [scriptLines_cons hc fun h hd => hhead h (head?_beforeEnd hd), scriptLines_cons hc hhead, ih,
      hlines]
    rfl

/-- A line end and the lines from the next one on follow the text before a line end. -/
theorem exists_eq_beforeEnd_append {number : Nat} {t : Text}
    (h : number + 1 < (scriptLines t).length) :
    ∃ (lineEnd : LineEnd) (rest : Text), t = beforeEnd number t ++ (lineEnd.text ++ rest) ∧
      scriptLines rest = (scriptLines t).drop (number + 1) := by
  fun_induction beforeEnd number t with
  | case1 number => simp at h
  | case2 rest => exact ⟨.lineFeed, rest, rfl, rfl⟩
  | case3 number rest hnumber ih =>
    rw [scriptLines_lineFeed, List.length_cons] at h
    obtain ⟨lineEnd, after, hrest, hlines⟩ := ih (by omega)
    rw [Nat.sub_add_cancel (by omega)] at hlines
    exact ⟨lineEnd, after, congrArg ('\n' :: ·) hrest, hlines⟩
  | case4 rest => exact ⟨.returnLineFeed, rest, rfl, rfl⟩
  | case5 number rest hnumber ih =>
    rw [scriptLines_return_lineFeed, List.length_cons] at h
    obtain ⟨lineEnd, after, hrest, hlines⟩ := ih (by omega)
    rw [Nat.sub_add_cancel (by omega)] at hlines
    exact ⟨lineEnd, after, congrArg ('\r' :: '\n' :: ·) hrest, hlines⟩
  | case6 number c rest hc hreturn ih =>
    obtain ⟨first, others, hlines⟩ := List.exists_cons_of_ne_nil (scriptLines_ne_nil rest)
    have hline : scriptLines (c :: rest) = (c :: first) :: others := by
      rw [scriptLines, hlines]
      · rfl
      · exact hc
      · exact hreturn
    rw [hlines] at ih
    rw [hline] at h ⊢
    obtain ⟨lineEnd, after, hrest, hafter⟩ := ih h
    exact ⟨lineEnd, after, congrArg (c :: ·) hrest, hafter⟩

end CommandShell.Text
