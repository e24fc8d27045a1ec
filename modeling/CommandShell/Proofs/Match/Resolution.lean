import CommandShell.Match.Resolution

/-!
# The commands that a text can mean

Only known commands come into question for a text, and a text means one of them alone in two ways:
it is the command's name, or the command is the only candidate. If several come into question they
are listed in ascending order, each once if each is known once.
-/

namespace CommandShell.Match

theorem candidates_sublist (text : Text) (commands : List Text) :
    List.Sublist (candidates text commands) commands := by
  have hscored : (commands.map fun c => (c, score text c)).map Prod.fst = commands := by
    rw [List.map_map]
    exact List.map_id commands
  have hkept : List.Sublist (candidates text commands)
      ((commands.map fun c => (c, score text c)).map Prod.fst) :=
    (List.filter_sublist.trans List.filter_sublist).map Prod.fst
  rwa [hscored] at hkept

theorem mem_of_mem_candidates {text : Text} {commands : List Text} {name : Text}
    (h : name ∈ candidates text commands) : name ∈ commands :=
  (candidates_sublist text commands).subset h

theorem resolve_eq_one_iff {text : Text} {commands : List Text} {name : Text} :
    resolve text commands = .one name ↔
      text.strip ≠ [] ∧
        (text.strip ∈ commands ∧ name = text.strip ∨
          text.strip ∉ commands ∧ candidates text.strip commands = [name]) := by
  rw [resolve]
  by_cases hempty : text.strip = []
  · simp [hempty]
  by_cases hmem : text.strip ∈ commands
  · simp only [hempty, hmem, List.isEmpty_iff, List.contains_iff_mem, if_false, if_true,
      Resolution.one.injEq, ne_eq, not_false_eq_true, not_true_eq_false, true_and, false_and,
      or_false]
    exact eq_comm
  rw [if_neg (by simpa using hempty), if_neg (by simpa using hmem)]
  have hright : text.strip ≠ [] ∧ (text.strip ∈ commands ∧ name = text.strip ∨
      text.strip ∉ commands ∧ candidates text.strip commands = [name]) ↔
        candidates text.strip commands = [name] := by
    constructor
    · rintro ⟨-, ⟨h, -⟩ | ⟨-, h⟩⟩
      · exact absurd h hmem
      · exact h
    · exact fun h => ⟨hempty, Or.inr ⟨hmem, h⟩⟩
  rw [hright]
  generalize candidates text.strip commands = found
  match found with
  | [] => simp
  | [only] => simp
  | _ :: _ :: _ => simp

theorem mem_of_resolve_eq_one {text name : Text} {commands : List Text}
    (h : resolve text commands = .one name) : name ∈ commands := by
  obtain ⟨-, ⟨hknown, rfl⟩ | ⟨-, hcandidates⟩⟩ := resolve_eq_one_iff.1 h
  · exact hknown
  · exact mem_of_mem_candidates (hcandidates ▸ List.mem_singleton_self name)

theorem resolve_eq_several {text : Text} {commands names : List Text}
    (h : resolve text commands = .several names) :
    names = Text.sorted (candidates text.strip commands) ∧
      2 ≤ (candidates text.strip commands).length := by
  rw [resolve] at h
  split at h
  · contradiction
  · split at h
    · contradiction
    · split at h
      · contradiction
      · contradiction
      · next hnone hone =>
        refine ⟨(Resolution.several.inj h).symm, ?_⟩
        cases hfound : candidates text.strip commands with
        | nil => exact absurd hfound hnone
        | cons first others =>
          cases others with
          | nil => exact absurd hfound (hone first)
          | cons second others =>
            rw [List.length_cons, List.length_cons]
            omega

/-- The names that are listed are two or more known ones, each once and in ascending order. -/
theorem listed_of_resolve_eq_several {text : Text} {commands names : List Text}
    (hunique : commands.Nodup) (h : resolve text commands = .several names) :
    2 ≤ names.length ∧ (∀ name ∈ names, name ∈ commands) ∧
      names.Pairwise fun a b => Text.le a b = true ∧ a ≠ b := by
  obtain ⟨rfl, hlength⟩ := resolve_eq_several h
  have hperm := Text.sorted_perm (candidates text.strip commands)
  have hdistinct : (candidates text.strip commands).Nodup :=
    hunique.sublist (candidates_sublist _ _)
  refine ⟨?_, ?_, Text.sorted_strictly hdistinct⟩
  · rwa [hperm.length_eq]
  · intro name hname
    exact mem_of_mem_candidates (hperm.mem_iff.1 hname)

end CommandShell.Match
