import CommandShell.Command.Program

/-!
# Registry of commands

The registry holds commands under unique names. A name is written once: registering it again is
refused and changes nothing. A hidden command runs by its exact name and shows up nowhere else.
-/

namespace CommandShell

/-- A command: its name, what help says about it, whether it is hidden, and what it does. -/
structure Descriptor where
  name : Text
  about : Text
  usage : Text
  hidden : Bool
  handler : Handler

/-- Commands in the order of their registration, no two of one name. -/
structure Registry where
  commands : List Descriptor
  unique : (commands.map (·.name)).Nodup

namespace Registry

/-- A registry without commands. -/
def empty : Registry := ⟨[], List.nodup_nil⟩

/-- The command of that exact name. -/
def get? (r : Registry) (name : Text) : Option Descriptor :=
  r.commands.find? fun d => d.name == name

/-- Whether a command of that exact name is registered. -/
def has (r : Registry) (name : Text) : Bool :=
  r.commands.any fun d => d.name == name

/-- What the command of that exact name does. -/
def lookup (r : Registry) (name : Text) : Option Handler :=
  (r.get? name).map (·.handler)

theorem nodup_append_name {r : Registry} {d : Descriptor} (h : r.has d.name = false) :
    ((r.commands ++ [d]).map (·.name)).Nodup := by
  have hn : d.name ∉ r.commands.map (·.name) := by
    intro hm
    obtain ⟨e, he, hname⟩ := List.mem_map.1 hm
    have : r.has d.name = true := List.any_eq_true.2 ⟨e, he, by simp [hname]⟩
    simp [h] at this
  rw [List.map_append, List.nodup_append]
  refine ⟨r.unique, by simp, ?_⟩
  intro a ha b hb hab
  simp only [List.map_cons, List.map_nil, List.mem_singleton] at hb
  subst hab hb
  exact hn ha

/-- Registers a command. -/
def add (r : Registry) (d : Descriptor) : Except Failure Registry :=
  if h : r.has d.name = true then .error (.duplicateCommand d.name)
  else .ok ⟨r.commands ++ [d], nodup_append_name (Bool.eq_false_iff.2 h)⟩

/-- Registers what `handler` does under a name. -/
def register (r : Registry) (name : Text) (handler : Handler) (about : Text := [])
    (usage : Text := []) (hidden : Bool := false) : Except Failure Registry :=
  r.add ⟨name, about, usage, hidden, handler⟩

/-- Registers commands one after another, up to the first that is refused. -/
def addAll (r : Registry) (ds : List Descriptor) : Except Failure Registry :=
  ds.foldlM add r

/-- The commands in ascending order of their names, with or without the hidden ones. -/
def descriptors (r : Registry) (includeHidden : Bool) : List Descriptor :=
  (r.commands.filter fun d => includeHidden || !d.hidden).mergeSort fun a b => Text.le a.name b.name

/-- The names of the commands that are not hidden. -/
def visibleNames (r : Registry) : List Text :=
  (r.commands.filter fun d => !d.hidden).map (·.name)

/-- What running the command of that exact name with these tokens does. -/
def program (r : Registry) (name : Text) (invocation : Invocation) : Program Value :=
  match r.get? name with
  | none => .fail (.unregistered name)
  | some d => d.handler invocation

end Registry

end CommandShell
