import CommandShell.Shell.Evaluation
import CommandShell.Proofs.Text.Parts

/-!
# How the listings begin

The texts that a session shows by itself differ from the help text, which begins with its usage: the
others begin with a word that holds no colon and line feed, or with a stripped line.
-/

namespace CommandShell

theorem Match.head?_listing (names : List Text) : (Match.listing names).head? = some '?' := rfl

namespace Shell

theorem helpText_eq (shell : Shell) : ∃ rest, shell.helpText = "USAGE:\n ".toList ++ rest :=
  ⟨_, rfl⟩

theorem head?_commandListing (shell : Shell) : shell.commandListing.head? = some 'A' := by
  obtain ⟨rest, hrest⟩ := Text.exists_join_cons ['\n'] "Available commands:".toList
    ((rows (Text.sorted shell.registry.visibleNames)).map fun row =>
      "  ".toList ++ Text.join "  ".toList row)
  rw [commandListing, hrest]
  rfl

theorem namespaceListing_eq (name : Text) (names : List Text) :
    ∃ rest, namespaceListing name names = name ++ ' ' :: rest := by
  obtain ⟨rest, hrest⟩ := Text.exists_join_cons ['\n']
    (name ++ " is a command namespace. Available commands:".toList)
    [Text.join ", ".toList names,
     "Try '".toList ++ name ++ ".<command>' to run a specific command in this namespace.".toList]
  rw [namespaceListing, hrest, List.append_assoc]
  exact ⟨_, rfl⟩

theorem helpText_ne_of_head? (shell : Shell) {t : Text} {c : Char} (h : t.head? = some c)
    (hc : c ≠ 'U') : t ≠ shell.helpText := by
  obtain ⟨rest, hrest⟩ := helpText_eq shell
  rintro rfl
  rw [hrest] at h
  exact hc (Option.some.inj h).symm

/-- A listing of a namespace begins with the name and a space, so its name can be told. -/
theorem namespaceListing_ne {name word : Text} (names : List Text) (hname : ' ' ∉ name)
    (hword : ' ' ∉ word) (hne : name ≠ word) (rest : Text) :
    namespaceListing name names ≠ word ++ ' ' :: rest := by
  obtain ⟨listed, hlisted⟩ := namespaceListing_eq name names
  have hbefore : ∀ {t : Text} (rest : Text), ' ' ∉ t →
      (t ++ ' ' :: rest).takeWhile (· != ' ') = t := by
    intro t rest ht
    rw [List.takeWhile_append_of_pos (by
      intro c hc
      simpa using fun h : c = ' ' => ht (h ▸ hc))]
    simp
  intro heq
  rw [hlisted] at heq
  have hleft := hbefore listed hname
  rw [heq, hbefore rest hword] at hleft
  exact hne hleft.symm

/-- Only a name that ends in a line feed could make a namespace listing read like the help text. -/
theorem namespaceListing_ne_helpText (shell : Shell) {name : Text} (names : List Text)
    (hspace : ' ' ∉ name) (hend : name.getLast? ≠ some '\n') :
    namespaceListing name names ≠ shell.helpText := by
  obtain ⟨help, hhelp⟩ := helpText_eq shell
  have hword : ' ' ∉ "USAGE:\n".toList := by decide
  rw [hhelp]
  refine namespaceListing_ne names hspace hword ?_ help
  rintro rfl
  exact hend rfl

/-- The question mark alone could make a namespace listing read like that of several commands. -/
theorem namespaceListing_ne_listing {name : Text} (names others : List Text) (hspace : ' ' ∉ name)
    (hquestion : name ≠ ['?']) : namespaceListing name names ≠ Match.listing others := by
  have hword : ' ' ∉ ['?'] := by decide
  exact namespaceListing_ne names hspace hword hquestion _

end Shell

end CommandShell
