import CommandShell.Files.Path
import CommandShell.Proofs.Text.Parts

/-!
# Characters of a path

The normal form of a path holds no character that the path does not hold, slashes and dots apart.
-/

namespace CommandShell.Path

variable {path part : Text} {c : Char}

theorem mem_of_mem_parts (hpart : part ∈ parts path) (hc : c ∈ part) : c ∈ path := by
  have hjoin : Text.join ['/'] (path.splitOn '/') = path := List.intercalate_splitOn '/'
  rw [← hjoin]
  exact Text.mem_join_of_mem ['/'] (List.mem_filter.1 hpart).1 hc

theorem eq_slash_of_mem_root (hc : c ∈ root path) : c = '/' := by
  revert hc
  fun_cases root path <;> simp

theorem mem_of_mem_normal (hc : c ∈ normal path) : c ∈ path ∨ c = '/' ∨ c = '.' := by
  rw [normal] at hc
  split at hc
  · exact Or.inr (Or.inr (List.mem_singleton.1 hc))
  · rcases List.mem_append.1 hc with hc | hc
    · exact Or.inr (Or.inl (eq_slash_of_mem_root hc))
    · rcases Text.mem_join hc with hc | ⟨part, hpart, hc⟩
      · exact Or.inr (Or.inl (List.mem_singleton.1 hc))
      · exact Or.inl (mem_of_mem_parts hpart hc)

end CommandShell.Path
