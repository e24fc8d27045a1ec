import CommandShell.Text.Lines

/-!
# Lines of a script

No line of a script holds a line feed. Lines without line feeds that are joined by a carriage return
and a line feed are read back as they were, whatever carriage returns they hold: of several carriage
returns before a line feed only the last one belongs to the line end.
-/

namespace CommandShell.Text

@[simp] theorem scriptLines_nil : scriptLines [] = [[]] := rfl

@[simp] theorem scriptLines_lineFeed (rest : Text) :
    scriptLines ('\n' :: rest) = [] :: scriptLines rest := rfl

@[simp] theorem scriptLines_return_lineFeed (rest : Text) :
    scriptLines ('\r' :: '\n' :: rest) = [] :: scriptLines rest := rfl

/-- A character that does not begin a line end goes to the first line. -/
theorem scriptLines_cons {c : Char} {rest : Text} (hc : c ≠ '\n')
    (hr : c = '\r' → rest.head? ≠ some '\n') :
    scriptLines (c :: rest) = consFirst c (scriptLines rest) := by
  rw [scriptLines]
  · exact hc
  · rintro after rfl rfl
    exact hr rfl rfl

theorem mem_consFirst {c : Char} {lines : List Text} {line : Text} (h : line ∈ consFirst c lines) :
    line = [c] ∨ (∃ first ∈ lines, line = c :: first) ∨ line ∈ lines := by
  cases lines with
  | nil => exact Or.inl (List.mem_singleton.1 h)
  | cons first rest =>
    rcases List.mem_cons.1 h with rfl | h
    · exact Or.inr (Or.inl ⟨first, List.mem_cons_self, rfl⟩)
    · exact Or.inr (Or.inr (List.mem_cons_of_mem _ h))

theorem not_mem_of_mem_scriptLines {t line : Text} (h : line ∈ scriptLines t) : '\n' ∉ line := by
  fun_induction scriptLines t generalizing line with
  | case1 => simp [List.mem_singleton.1 h]
  | case2 rest ih =>
    rcases List.mem_cons.1 h with rfl | h
    · simp
    · exact ih h
  | case3 rest ih =>
    rcases List.mem_cons.1 h with rfl | h
    · simp
    · exact ih h
  | case4 c rest hc _ ih =>
    have hc : '\n' ≠ c := fun he => hc he.symm
    rcases mem_consFirst h with rfl | ⟨first, hfirst, rfl⟩ | h
    · simpa using hc
    · simpa using ⟨hc, ih hfirst⟩
    · exact ih h

theorem scriptLines_of_not_mem {line : Text} (h : '\n' ∉ line) : scriptLines line = [line] := by
  induction line with
  | nil => rfl
  | cons c line ih =>
    have hc : c ≠ '\n' := fun he => h (he ▸ List.mem_cons_self)
    have hl : '\n' ∉ line := fun hm => h (List.mem_cons_of_mem _ hm)
    rw [scriptLines_cons hc fun _ hh => hl (List.mem_of_head? hh), ih hl]
    rfl

/-- A line without line feeds ends exactly where a carriage return and a line feed follow it. -/
theorem scriptLines_append_lineEnd {line : Text} (h : '\n' ∉ line) (rest : Text) :
    scriptLines (line ++ '\r' :: '\n' :: rest) = line :: scriptLines rest := by
  induction line with
  | nil => rfl
  | cons c line ih =>
    have hc : c ≠ '\n' := fun he => h (he ▸ List.mem_cons_self)
    have hl : '\n' ∉ line := fun hm => h (List.mem_cons_of_mem _ hm)
    have hhead : (line ++ '\r' :: '\n' :: rest).head? ≠ some '\n' := by
      cases line with
      | nil => simp
      | cons d line =>
        intro he
        obtain rfl := Option.some.inj he
        exact hl List.mem_cons_self
    rw [List.cons_append, scriptLines_cons hc fun _ => hhead, ih hl]
    rfl

/-- Joining lines and reading the lines of the text are inverse to each other. -/
theorem scriptLines_join {lines : List Text} (hne : lines ≠ []) (h : ∀ line ∈ lines, '\n' ∉ line) :
    scriptLines (join ['\r', '\n'] lines) = lines := by
  induction lines with
  | nil => exact absurd rfl hne
  | cons line rest ih =>
    have hline := h line List.mem_cons_self
    cases rest with
    | nil => simpa [join] using scriptLines_of_not_mem hline
    | cons next rest =>
      have hrest := ih (by simp) fun l hl => h l (List.mem_cons_of_mem _ hl)
      rw [join, List.intercalate_cons_cons, List.append_assoc]
      exact (scriptLines_append_lineEnd hline _).trans (congrArg _ hrest)

end CommandShell.Text
