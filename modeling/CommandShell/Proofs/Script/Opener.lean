import CommandShell.Proofs.Text.Parts
import CommandShell.Script.Directive

/-!
# Lines that open input

A line opens input if it is a command, blanks, `<<`, blanks or nothing, and a marker. Such a line is
read in one way only: the marker is the longest word at its end, and the command ends at the last
character before `<<` that is not a blank. So earlier `<<` in the line belong to the command.
-/

namespace CommandShell.Directive

/-- The shape of a line that opens input for a command up to a marker. -/
def Opens (line command marker : Text) : Prop :=
  ∃ gap inner, line = command ++ gap ++ "<<".toList ++ inner ++ marker ∧
    (command ≠ [] ∧ ∀ c, command.getLast? = some c → Text.isBlank c = false) ∧
    (gap ≠ [] ∧ ∀ c ∈ gap, Text.isBlank c = true) ∧
    (∀ c ∈ inner, Text.isBlank c = true) ∧
    (marker ≠ [] ∧ ∀ c ∈ marker, Text.isWordChar c = true)

theorem mem_takeWhile {p : Char → Bool} {t : Text} {c : Char} (h : c ∈ t.takeWhile p) :
    p c = true :=
  List.all_eq_true.1 List.all_takeWhile c h

theorem opens_of_opener? {line command marker : Text} (h : opener? line = some (command, marker)) :
    Opens line command marker := by
  have hword := List.takeWhile_append_dropWhile (p := Text.isWordChar) (l := line.reverse)
  have hinner := List.takeWhile_append_dropWhile (p := Text.isBlank)
    (l := line.reverse.dropWhile Text.isWordChar)
  unfold opener? at h
  dsimp only at h
  split at h
  · next before hbefore =>
    have hgap := List.takeWhile_append_dropWhile (p := Text.isBlank) (l := before)
    split at h
    · simp at h
    · next hcond =>
      simp only [Bool.or_eq_true, Bool.not_eq_true', List.isEmpty_iff, not_or,
        List.reverse_eq_nil_iff, Bool.not_eq_false] at hcond
      obtain ⟨⟨hmarker, hcommand⟩, hhead⟩ := hcond
      obtain ⟨rfl, rfl⟩ := Prod.mk.inj (Option.some.inj h)
      refine ⟨(before.takeWhile Text.isBlank).reverse,
        ((line.reverse.dropWhile Text.isWordChar).takeWhile Text.isBlank).reverse, ?_, ⟨?_, ?_⟩,
        ⟨?_, ?_⟩, ?_, ?_, ?_⟩
      · have hline : line.reverse = line.reverse.takeWhile Text.isWordChar ++
            ((line.reverse.dropWhile Text.isWordChar).takeWhile Text.isBlank ++
              '<' :: '<' :: (before.takeWhile Text.isBlank ++ before.dropWhile Text.isBlank)) := by
          rw [hgap, ← hbefore, hinner, hword]
        calc line = line.reverse.reverse := (List.reverse_reverse line).symm
          _ = _ := congrArg List.reverse hline
          _ = _ := by
            simp only [List.reverse_append, List.reverse_cons, List.append_assoc,
              List.cons_append, List.nil_append]
            rfl
      · simpa using hcommand
      · intro c hc
        have hnot := List.head?_dropWhile_not Text.isBlank before
        rw [List.getLast?_reverse] at hc
        rw [hc] at hnot
        simpa using hnot
      · cases before with
        | nil => simp at hhead
        | cons c before =>
          have hc : Text.isBlank c = true := by simpa using hhead
          simp [hc]
      · exact fun c hc => mem_takeWhile (List.mem_reverse.1 hc)
      · exact fun c hc => mem_takeWhile (List.mem_reverse.1 hc)
      · simpa using hmarker
      · exact fun c hc => mem_takeWhile (List.mem_reverse.1 hc)
  · simp at h

/-- A front part of a class and a rest that does not begin with it are taken apart again. -/
theorem span_append {p : Char → Bool} (front rest : Text) (hf : ∀ c ∈ front, p c = true)
    (hr : ∀ c, rest.head? = some c → p c = false) :
    (front ++ rest).takeWhile p = front ∧ (front ++ rest).dropWhile p = rest := by
  have htake : rest.takeWhile p = [] := by
    cases rest with
    | nil => rfl
    | cons c rest => exact List.takeWhile_cons_of_neg (by simp [hr c rfl])
  constructor
  · rw [List.takeWhile_append_of_pos hf, htake, List.append_nil]
  · rw [List.dropWhile_append_of_pos hf, Text.dropWhile_eq_self hr]

theorem opener?_of_opens {line command marker : Text} (h : Opens line command marker) :
    opener? line = some (command, marker) := by
  obtain ⟨gap, inner, hline, ⟨hcne, hclast⟩, ⟨hgne, hgap⟩, hinner, hmne, hmarker⟩ := h
  have hrev : line.reverse =
      marker.reverse ++ (inner.reverse ++ '<' :: '<' :: (gap.reverse ++ command.reverse)) := by
    rw [hline]
    simp
  have hword := span_append (p := Text.isWordChar) marker.reverse
    (inner.reverse ++ '<' :: '<' :: (gap.reverse ++ command.reverse))
    (fun c hc => hmarker c (List.mem_reverse.1 hc)) (by
      intro c hc
      cases hi : inner.reverse with
      | nil =>
        rw [hi] at hc
        obtain rfl := Option.some.inj hc
        decide +kernel
      | cons d rest =>
        rw [hi] at hc
        obtain rfl := Option.some.inj hc
        have hd : d ∈ inner := List.mem_reverse.1 (hi ▸ List.mem_cons_self)
        exact Text.isWordChar_eq_false_of_isBlank (hinner d hd))
  have hblank := span_append (p := Text.isBlank) inner.reverse
    ('<' :: '<' :: (gap.reverse ++ command.reverse))
    (fun c hc => hinner c (List.mem_reverse.1 hc)) (by
      intro c hc
      obtain rfl := Option.some.inj hc
      decide)
  have hgaps := span_append (p := Text.isBlank) gap.reverse command.reverse
    (fun c hc => hgap c (List.mem_reverse.1 hc))
    (fun c hc => hclast c (by rwa [List.head?_reverse] at hc))
  have hhead : (gap.reverse ++ command.reverse).head?.any Text.isBlank = true := by
    cases hg : gap.reverse with
    | nil => exact absurd (List.reverse_eq_nil_iff.1 hg) hgne
    | cons c rest =>
      have hc := hgap c (List.mem_reverse.1 (hg ▸ List.mem_cons_self))
      simpa using hc
  unfold opener?
  dsimp only
  rw [hrev, hword.1, hword.2, hblank.2]
  simp only [hgaps.2, hhead]
  simp [hmne, hcne]

/-- A line opens input exactly if it has the shape, and then in one way. -/
theorem opener?_eq_some_iff {line command marker : Text} :
    opener? line = some (command, marker) ↔ Opens line command marker :=
  ⟨opens_of_opener?, opener?_of_opens⟩

end CommandShell.Directive
