import Mathlib.Data.List.Induction
import CommandShell.Proofs.Command.Registry

/-!
# What a registry holds

A registry is written once. Of the commands that are given under one name the first is kept, and
every later one is refused. Main statement: after any calls on an empty registry, whichever way one
looks at it, each name stands for the first command that was given under it.
-/

namespace CommandShell.Registry

/-- A call that puts a command into a registry. -/
inductive Registration where
  /-- Add a command as it stands. -/
  | add (d : Descriptor)
  /-- Register what is done under a name. -/
  | register (name about usage : Text) (hidden : Bool) (handler : Handler)

/-- The command that a call gives. -/
def Registration.descriptor : Registration → Descriptor
  | add d => d
  | register name about usage hidden handler => ⟨name, about, usage, hidden, handler⟩

/-- What a call makes of a registry. -/
def Registration.apply (r : Registry) : Registration → Except Failure Registry
  | add d => r.add d
  | register name about usage hidden handler => r.register name handler about usage hidden

/-- What a call raises, and the registry after it. -/
def take (r : Registry) (call : Registration) : Option Failure × Registry :=
  match call.apply r with
  | .ok next => (none, next)
  | .error f => (some f, r)

/-- The registry after some calls, whether or not they are refused. -/
def after (r : Registry) (calls : List Registration) : Registry :=
  calls.foldl (fun r call => (r.take call).2) r

/-- The first of the commands that are given under a name. -/
def firstNamed (given : List Descriptor) (name : Text) : Option Descriptor :=
  given.find? fun d => d.name == name

/-- Each view of a registry shows, of the commands that were given, the first of every name. -/
structure ShowsFirst (r : Registry) (given : List Descriptor) : Prop where
  get? : ∀ name, r.get? name = firstNamed given name
  has : ∀ name, r.has name = (firstNamed given name).isSome
  lookup : ∀ name, r.lookup name = (firstNamed given name).map (·.handler)
  program : ∀ name invocation, r.program name invocation =
    (firstNamed given name).elim (.fail (.unregistered name)) (·.handler invocation)
  mem_all : ∀ d, d ∈ r.descriptors true ↔ firstNamed given d.name = some d
  ascending : (r.descriptors true).Pairwise fun d e =>
    Text.le d.name e.name = true ∧ d.name ≠ e.name
  visible : r.descriptors false = (r.descriptors true).filter (!·.hidden)
  names : r.visibleNames.Perm ((r.descriptors false).map (·.name))

variable {r : Registry} {call : Registration} {calls more : List Registration}
  {given : List Descriptor} {name : Text} {d : Descriptor}

/-! ## One call -/

theorem Registration.apply_eq (r : Registry) (call : Registration) :
    call.apply r = r.add call.descriptor := by
  cases call <;> rfl

theorem take_of_has (h : r.has call.descriptor.name = true) :
    r.take call = (some (.duplicateCommand call.descriptor.name), r) := by
  have hadd : r.add call.descriptor = .error (.duplicateCommand call.descriptor.name) := dif_pos h
  rw [take, Registration.apply_eq, hadd]

theorem take_of_not_has (h : r.has call.descriptor.name = false) :
    (r.take call).1 = none ∧ (r.take call).2.commands = r.commands ++ [call.descriptor] := by
  have hadd : r.add call.descriptor = .ok ⟨r.commands ++ [call.descriptor], nodup_append_name h⟩ :=
    dif_neg (by simp [h])
  rw [take, Registration.apply_eq, hadd]
  exact ⟨rfl, rfl⟩

/-- A call gives its name a command unless it has one. -/
theorem get?_take (r : Registry) (call : Registration) (name : Text) :
    (r.take call).2.get? name = (r.get? name).or (firstNamed [call.descriptor] name) := by
  cases h : r.has call.descriptor.name with
  | false =>
    rw [get?, (take_of_not_has h).2, List.find?_append]
    rfl
  | true =>
    rw [take_of_has h]
    cases hfound : r.get? name with
    | some d => rfl
    | none =>
      have hother : call.descriptor.name ≠ name := by
        rintro rfl
        rw [has_eq_isSome_get?, hfound] at h
        contradiction
      simp [firstNamed, hother]

/-! ## A run of calls -/

theorem after_concat (r : Registry) (calls : List Registration) (call : Registration) :
    r.after (calls ++ [call]) = ((r.after calls).take call).2 := by
  rw [after, List.foldl_append]
  rfl

theorem firstNamed_append (given more : List Descriptor) (name : Text) :
    firstNamed (given ++ more) name = (firstNamed given name).or (firstNamed more name) :=
  List.find?_append

/-- What a name stands for is what it stood for before the calls, or else the first of its name. -/
theorem get?_after (r : Registry) (calls : List Registration) (name : Text) :
    (r.after calls).get? name =
      (r.get? name).or (firstNamed (calls.map (·.descriptor)) name) := by
  induction calls using List.reverseRecOn with
  | nil => exact (Option.or_none).symm
  | append_singleton calls call ih =>
    rw [after_concat, get?_take, ih, List.map_append, firstNamed_append, Option.or_assoc]
    rfl

/-- All views of a registry follow from what its names stand for. -/
theorem showsFirst_of_get? (h : ∀ name, r.get? name = firstNamed given name) :
    r.ShowsFirst given where
  get? := h
  has name := by rw [has_eq_isSome_get?, h]
  lookup name := by rw [lookup, h]
  program name invocation := by
    rw [program, h]
    cases firstNamed given name <;> rfl
  mem_all d := by rw [mem_descriptors_true_iff, h]
  ascending := r.descriptors_ascending true
  visible := r.descriptors_false_eq
  names := r.visibleNames_perm

/--
A registry is written once. A call under a name that is taken raises the failure for duplicates and
changes nothing; any other puts its command behind the others. No later call changes what a name
stands for, and every view shows the first command of each name, and no others; running a name that
stands for nothing fails as a missing key does.
-/
theorem registry_written_once (calls : List Registration) :
    (∀ call, (empty.after calls).has call.descriptor.name = true →
      (empty.after calls).take call =
        (some (.duplicateCommand call.descriptor.name), empty.after calls)) ∧
    (∀ call, (empty.after calls).has call.descriptor.name = false →
      ((empty.after calls).take call).1 = none ∧
        ((empty.after calls).take call).2.commands =
          (empty.after calls).commands ++ [call.descriptor]) ∧
    (∀ more name d, (empty.after calls).get? name = some d →
      (empty.after (calls ++ more)).get? name = some d) ∧
    (empty.after calls).ShowsFirst (calls.map (·.descriptor)) ∧
    (∀ name, (Failure.duplicateCommand name).kind = "ValueError".toList ∧
      (Failure.unregistered name).kind = "KeyError".toList) := by
  have hget : ∀ calls name,
      (empty.after calls).get? name = firstNamed (calls.map (·.descriptor)) name :=
    fun calls name => get?_after empty calls name
  refine ⟨fun _ => take_of_has, fun _ => take_of_not_has, ?_, showsFirst_of_get? (hget calls),
    fun _ => ⟨rfl, rfl⟩⟩
  intro more name d hd
  rw [hget] at hd ⊢
  rw [List.map_append, firstNamed_append, hd]
  rfl

/-- A hidden command and a visible one; then the name of the first is given again, and a new one. -/
theorem registry_written_once_hidden :
    let first : Descriptor := ⟨['b'], [], [], true, fun _ => .done .noOutput⟩
    let calls : List Registration :=
      [.register ['b'] [] [] true first.handler, .register ['a'] [] [] false first.handler]
    let again : Registration := .add ⟨['b'], ['x'], [], false, fun _ => .fail .inputEnded⟩
    let fresh : Registration := .add ⟨['c'], [], [], false, first.handler⟩
    ((empty.after calls).has ['b'] = true ∧
      (empty.after calls).take again = (some (.duplicateCommand ['b']), empty.after calls)) ∧
    ((empty.after calls).has ['c'] = false ∧ ((empty.after calls).take fresh).1 = none) ∧
    ((empty.after calls).get? ['b'] = some first ∧
      (empty.after (calls ++ [again])).get? ['b'] = some first) := by
  intro first calls again fresh
  obtain ⟨hrefused, htaken, hkept, -⟩ := registry_written_once calls
  exact ⟨⟨rfl, hrefused again rfl⟩, ⟨rfl, (htaken fresh rfl).1⟩, rfl, hkept [again] ['b'] first rfl⟩

end CommandShell.Registry
