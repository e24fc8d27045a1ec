import CommandShell.History
import CommandShell.Proofs.Text.Parts

/-!
# What the history holds

Every entry was stripped and admitted when it was recorded, whatever was recorded or forgotten in
between, so no entry holds one of the words that keep a line out.
-/

namespace CommandShell.History

@[simp] theorem admits_strip (line : Text) : admits line.strip = admits line := by
  rw [admits, admits, Text.strip_strip]

theorem not_isInfix_of_admits {line word : Text} (h : admits line = true)
    (hword : word ∈ metaWords) : ¬ word <:+: line.strip := by
  intro hpart
  rw [admits, Bool.not_eq_true', List.any_eq_false] at h
  exact h word hword (Text.includes_iff.2 hpart)

theorem mem_of_mem_keep {cap : Nat} {entries : List Text} {entry : Text}
    (h : entry ∈ keep cap entries) : entry ∈ entries := by
  rw [keep] at h
  split at h
  · exact h
  · exact List.mem_of_mem_drop h

/-- A history of stripped lines that hold none of the words that keep a line out. -/
def Admitted (h : History) : Prop :=
  ∀ entry ∈ h.entries, entry.strip = entry ∧ admits entry = true

theorem admitted_empty (cap : Nat) : (empty cap).Admitted := by
  intro entry hentry
  exact absurd hentry List.not_mem_nil

theorem Admitted.flush (h : History) : h.flush.Admitted := admitted_empty h.cap

theorem Admitted.record {h : History} (hh : h.Admitted) (line : Text) :
    (h.record line).Admitted := by
  intro entry hentry
  rw [History.record] at hentry
  split at hentry
  · next hadmits =>
    have hmem := mem_of_mem_keep hentry
    rw [List.mem_append, List.mem_singleton] at hmem
    rcases hmem with hmem | rfl
    · exact hh entry hmem
    · exact ⟨Text.strip_strip line, by rwa [admits_strip]⟩
  · exact hh entry hentry

end CommandShell.History
