import CommandShell.Output.Display
import CommandShell.Proofs.Text.ScreenLines

/-!
# What is displayed

Without formatters a text is displayed as it is if it passes for help, and otherwise without its
blank lines. A text that begins with a character that is not blank, and with no line boundary after
it, is displayed from its beginning on.
-/

namespace CommandShell.Display

/-- What is displayed of a text that has a line that is not blank, if there are no formatters. -/
def plainly (t : Text) : Text :=
  if isHelp t then t else Text.join ['\n'] (visibleLines t)

variable {front t : Text} {c : Char}

theorem handed_nil (h : visibleLines t ≠ []) : handed [] t = .ok (some (plainly t)) := by
  have hne : t.isEmpty = false := by
    cases t with
    | nil => exact absurd rfl h
    | cons c t => rfl
  obtain ⟨line, others, hlines⟩ := List.exists_cons_of_ne_nil h
  rw [handed, hne, if_neg Bool.false_ne_true, plainly]
  split
  · rfl
  · rw [format, List.foldlM_nil]
    simp only [pure, Except.pure, hlines]

/-- What begins with a character that is not blank is no blank line. -/
theorem strip_ne_nil (hhead : t.head? = some c) (hc : Text.isBlank c = false) :
    t.strip ≠ [] := by
  intro hnil
  have hstrip := Text.head?_strip_of_head? hhead hc
  rw [hnil] at hstrip
  contradiction

/-- What stands before the first line boundary is on the first line that is displayed. -/
theorem exists_visibleLines_append (hhead : front.head? = some c) (hc : Text.isBlank c = false)
    (hfront : ∀ d ∈ front, Text.isLineBoundary d = false) (t : Text) :
    ∃ first others, visibleLines (front ++ t) = (front ++ first) :: others := by
  have hne : front ≠ [] := by
    rintro rfl
    contradiction
  obtain ⟨first, others, hlines⟩ := Text.exists_screenLines_append hne hfront t
  have hvisible : (front ++ first).strip ≠ [] := by
    apply strip_ne_nil _ hc
    rw [List.head?_append_of_ne_nil _ hne, hhead]
  refine ⟨first, others.filter fun line => !line.strip.isEmpty, ?_⟩
  rw [visibleLines, hlines, List.filter_cons_of_pos (by simpa using hvisible)]

theorem visibleLines_of_forall (hhead : t.head? = some c) (hc : Text.isBlank c = false)
    (h : ∀ d ∈ t, Text.isLineBoundary d = false) : visibleLines t = [t] := by
  have hne : t ≠ [] := by
    rintro rfl
    contradiction
  rw [visibleLines, Text.screenLines_of_forall hne h]
  exact List.filter_cons_of_pos (by simpa using strip_ne_nil hhead hc)

theorem isPrefix_plainly (hhead : front.head? = some c) (hc : Text.isBlank c = false)
    (hfront : ∀ d ∈ front, Text.isLineBoundary d = false) (t : Text) :
    front <+: plainly (front ++ t) := by
  rw [plainly]
  split
  · exact List.prefix_append front t
  · obtain ⟨first, others, hlines⟩ := exists_visibleLines_append hhead hc hfront t
    obtain ⟨rest, hrest⟩ := Text.exists_join_cons ['\n'] (front ++ first) others
    rw [hlines, hrest, List.append_assoc]
    exact List.prefix_append front _

end CommandShell.Display
