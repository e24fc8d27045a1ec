import Mathlib.Data.List.Nodup
import CommandShell.Command.Registry

/-!
# Looking a command up

A name finds the command that is registered under it. Every visible name finds one. The ordered
listing holds each command once, and the visible ones stand in it in the order of their own listing.
-/

namespace CommandShell.Registry

variable {r : Registry} {name : Text} {d : Descriptor}

theorem name_of_get? (h : r.get? name = some d) : d.name = name := by
  simpa using List.find?_some h

theorem exists_get? (h : name ∈ r.commands.map (·.name)) : ∃ d, r.get? name = some d := by
  obtain ⟨d, hd, rfl⟩ := List.mem_map.1 h
  exact Option.isSome_iff_exists.1 (List.find?_isSome.2 ⟨d, hd, beq_self_eq_true _⟩)

theorem mem_names_of_mem_visibleNames (h : name ∈ r.visibleNames) :
    name ∈ r.commands.map (·.name) :=
  ((List.filter_sublist).map _).subset h

/-- Names are unique, so looking a name up finds the one command of that name. -/
theorem get?_eq_some_iff : r.get? name = some d ↔ d ∈ r.commands ∧ d.name = name := by
  constructor
  · exact fun h => ⟨List.mem_of_find?_eq_some h, name_of_get? h⟩
  · rintro ⟨hd, rfl⟩
    obtain ⟨e, he⟩ := exists_get? (List.mem_map_of_mem hd)
    have hname : e.name = d.name := name_of_get? he
    have hsame := List.inj_on_of_nodup_map r.unique (List.mem_of_find?_eq_some he) hd hname
    rw [he, hsame]

theorem get?_eq_none_iff : r.get? name = none ↔ name ∉ r.commands.map (·.name) := by
  constructor
  · intro hnone hname
    obtain ⟨d, hd⟩ := exists_get? hname
    rw [hnone] at hd
    contradiction
  · intro hname
    refine Option.eq_none_iff_forall_not_mem.2 fun d hd => hname ?_
    obtain ⟨hmem, rfl⟩ := get?_eq_some_iff.1 hd
    exact List.mem_map_of_mem hmem

theorem has_eq_true_iff : r.has name = true ↔ name ∈ r.commands.map (·.name) := by
  simp [has]

theorem visibleNames_nodup : r.visibleNames.Nodup :=
  r.unique.sublist (List.filter_sublist.map _)

theorem mem_visibleNames_iff :
    name ∈ r.visibleNames ↔ ∃ d ∈ r.commands, d.name = name ∧ d.hidden = false := by
  rw [visibleNames, List.mem_map]
  constructor
  · rintro ⟨d, hd, hname⟩
    obtain ⟨hmem, hvisible⟩ := List.mem_filter.1 hd
    exact ⟨d, hmem, hname, by simpa using hvisible⟩
  · rintro ⟨d, hmem, hname, hvisible⟩
    exact ⟨d, List.mem_filter.2 ⟨hmem, by simpa using hvisible⟩, hname⟩

theorem hidden_of_mem_visibleNames (hd : d ∈ r.commands) (h : d.name ∈ r.visibleNames) :
    d.hidden = false := by
  obtain ⟨e, hmem, hname, hvisible⟩ := mem_visibleNames_iff.1 h
  obtain rfl := List.inj_on_of_nodup_map r.unique hmem hd hname
  exact hvisible

theorem exists_get?_of_mem_visibleNames (h : name ∈ r.visibleNames) : ∃ d, r.get? name = some d :=
  exists_get? (mem_names_of_mem_visibleNames h)

theorem has_eq_isSome_get? (r : Registry) (name : Text) : r.has name = (r.get? name).isSome :=
  List.isSome_find?.symm

/-! ## The commands in the order of their names -/

theorem descriptors_perm (r : Registry) (includeHidden : Bool) :
    (r.descriptors includeHidden).Perm
      (r.commands.filter fun d => includeHidden || !d.hidden) :=
  List.mergeSort_perm _ _

theorem descriptors_ascending (r : Registry) (includeHidden : Bool) :
    (r.descriptors includeHidden).Pairwise fun d e =>
      Text.le d.name e.name = true ∧ d.name ≠ e.name := by
  have hsorted : (r.descriptors includeHidden).Pairwise fun d e =>
      Text.le d.name e.name = true :=
    List.pairwise_mergeSort (fun d e f => Text.le_trans d.name e.name f.name)
      (fun d e => Text.le_total d.name e.name) _
  have hnames : ((r.descriptors includeHidden).map (·.name)).Nodup :=
    ((r.descriptors_perm includeHidden).map _).nodup_iff.2
      (r.unique.sublist (List.filter_sublist.map _))
  exact hsorted.and (List.pairwise_map.1 hnames)

theorem mem_descriptors_true_iff : d ∈ r.descriptors true ↔ r.get? d.name = some d := by
  rw [(r.descriptors_perm true).mem_iff, get?_eq_some_iff]
  simp

/-- Hidden commands leave no trace in the order of the others. -/
theorem descriptors_false_eq (r : Registry) :
    r.descriptors false = (r.descriptors true).filter (!·.hidden) := by
  have hperm : (r.descriptors false).Perm ((r.descriptors true).filter (!·.hidden)) := by
    have hall := (r.descriptors_perm true).filter (!·.hidden)
    rw [List.filter_filter] at hall
    refine (r.descriptors_perm false).trans ?_
    simpa using hall.symm
  have hleft := r.descriptors_ascending false
  have hright := (r.descriptors_ascending true).sublist (List.filter_sublist (p := (!·.hidden)))
  -- two names never stand in both orders, so a sorted listing is unique
  refine hperm.eq_of_pairwise (fun d e _ _ hde hed => ?_) hleft hright
  exact absurd (Text.le_antisymm _ _ hde.1 hed.1) hde.2

theorem visibleNames_perm (r : Registry) :
    r.visibleNames.Perm ((r.descriptors false).map (·.name)) :=
  ((r.descriptors_perm false).map Descriptor.name).symm

end CommandShell.Registry
