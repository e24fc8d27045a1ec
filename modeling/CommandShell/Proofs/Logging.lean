import Mathlib.Data.List.Induction
import CommandShell.Logging

/-!
# Which log handler is up

A call that names a known level leaves its configuration remembered, and one that names another is
refused and leaves what is remembered as it was. But a refused call has taken all handlers down
before, and asking for the remembered configuration puts none up again. Main statement: the handler
of the remembered configuration is up exactly if no call was refused since it was put up.
-/

namespace CommandShell.Logging

/-- A call to configure logging: the profile and the level as it was given. -/
structure Call where
  profile : Text
  level : Text
  deriving DecidableEq, Repr

/-- The configuration that a call asks for. -/
def Call.choice (c : Call) : LogChoice := ⟨c.profile, c.level.upper⟩

/-- Whether a handler can have the level of the configuration. -/
def Known (choice : LogChoice) : Prop := choice.level ∈ levels

instance (choice : LogChoice) : Decidable (Known choice) :=
  inferInstanceAs (Decidable (choice.level ∈ levels))

/-- What a call returns, and logging after it. -/
def take (l : Logging) (c : Call) : Option Failure × Logging := l.configure c.profile c.level

/-- Logging after some calls, whether or not they are refused. -/
def after (l : Logging) (calls : List Call) : Logging := calls.foldl (fun l c => (l.take c).2) l

variable {l : Logging} {c : Call} {calls : List Call} {choice : LogChoice}
  {handlers : List LogChoice}

/-! ## One call -/

theorem take_of_remembered (h : l.remembered = some c.choice) : l.take c = (none, l) :=
  if_pos h

/-- Unless its configuration is remembered, a call takes all handlers down before anything else. -/
theorem take_of_other (h : l.remembered ≠ some c.choice) :
    l.take c =
      match add ⟨[], l.remembered⟩ c.choice with
      | .error f => (some f, ⟨[], l.remembered⟩)
      | .ok up => (none, { up with remembered := some c.choice }) :=
  if_neg h

theorem take_of_known (h : l.remembered ≠ some c.choice) (hknown : Known c.choice) :
    l.take c = (none, ⟨[c.choice], some c.choice⟩) := by
  have hadd : add ⟨[], l.remembered⟩ c.choice = .ok ⟨[c.choice], l.remembered⟩ :=
    if_pos (List.contains_iff_mem.2 hknown)
  rw [take_of_other h, hadd]

theorem take_of_unknown (h : l.remembered ≠ some c.choice) (hknown : ¬ Known c.choice) :
    l.take c = (some (.unknownLevel c.level.upper), ⟨[], l.remembered⟩) := by
  have hadd : add ⟨[], l.remembered⟩ c.choice = .error (.unknownLevel c.level.upper) :=
    if_neg fun hmem => hknown (List.contains_iff_mem.1 hmem)
  rw [take_of_other h, hadd]

/-- What is remembered after a call does not depend on the handlers. -/
theorem take_remembered (l : Logging) (c : Call) :
    (l.take c).2.remembered = if Known c.choice then some c.choice else l.remembered := by
  by_cases h : l.remembered = some c.choice
  · rw [take_of_remembered h, h, ite_self]
  · by_cases hknown : Known c.choice
    · rw [take_of_known h hknown, if_pos hknown]
    · rw [take_of_unknown h hknown, if_neg hknown]

/-! ## A run of calls -/

theorem after_concat (l : Logging) (calls : List Call) (c : Call) :
    l.after (calls ++ [c]) = ((l.after calls).take c).2 := by
  rw [after, List.foldl_append]
  rfl

/-- The last known configuration that was asked for is remembered. -/
theorem after_remembered (handlers : List LogChoice) (calls : List Call) :
    (after ⟨handlers, none⟩ calls).remembered =
      ((calls.map Call.choice).filter fun choice => Known choice).getLast? := by
  induction calls using List.reverseRecOn with
  | nil => rfl
  | append_singleton calls c ih =>
    rw [after_concat, take_remembered, ih, List.map_append, List.filter_append]
    by_cases hknown : Known c.choice
    · simp [hknown]
    · simp [hknown]

theorem known_of_after (h : (after ⟨handlers, none⟩ calls).remembered = some choice) :
    Known choice := by
  rw [after_remembered] at h
  have hmem := List.mem_of_getLast? h
  simpa using (List.mem_filter.1 hmem).2

/-- A call is refused exactly if it names no known level. -/
theorem take_after_eq_none_iff :
    ((after ⟨handlers, none⟩ calls).take c).1 = none ↔ Known c.choice := by
  by_cases h : (after ⟨handlers, none⟩ calls).remembered = some c.choice
  · rw [take_of_remembered h]
    exact iff_of_true rfl (known_of_after h)
  · by_cases hknown : Known c.choice
    · rw [take_of_known h hknown]
      exact iff_of_true rfl hknown
    · rw [take_of_unknown h hknown]
      exact iff_of_false (Option.some_ne_none _) hknown

/-- One of the calls put the handler of the configuration up, and all later ones asked for it. -/
def PutUp (handlers : List LogChoice) (calls : List Call) (choice : LogChoice) : Prop :=
  ∃ before c since, calls = before ++ c :: since ∧ c.choice = choice ∧
    (after ⟨handlers, none⟩ before).remembered ≠ some choice ∧
    ∀ later ∈ since, later.choice = choice

theorem putUp_concat_iff : PutUp handlers (calls ++ [c]) choice ↔
    c.choice = choice ∧
      (PutUp handlers calls choice ∨
        (after ⟨handlers, none⟩ calls).remembered ≠ some choice) := by
  constructor
  · rintro ⟨before, first, since, hcalls, hfirst, hother, hsince⟩
    obtain rfl | ⟨since, last, rfl⟩ := since.eq_nil_or_concat
    · obtain ⟨rfl, hc⟩ := List.append_inj' hcalls rfl
      obtain rfl : c = first := List.head_eq_of_cons_eq hc
      exact ⟨hfirst, Or.inr hother⟩
    · rw [List.concat_eq_append] at hcalls hsince
      rw [← List.cons_append, ← List.append_assoc] at hcalls
      obtain ⟨rfl, hlast⟩ := List.append_inj' hcalls rfl
      obtain rfl : c = last := List.head_eq_of_cons_eq hlast
      rw [List.forall_mem_append] at hsince
      refine ⟨hsince.2 c List.mem_cons_self, Or.inl ?_⟩
      exact ⟨before, first, since, rfl, hfirst, hother, hsince.1⟩
  · rintro ⟨hc, ⟨before, first, since, rfl, hfirst, hother, hsince⟩ | hother⟩
    · refine ⟨before, first, since ++ [c], by simp, hfirst, hother, ?_⟩
      rw [List.forall_mem_append]
      exact ⟨hsince, by simpa using hc⟩
    · exact ⟨calls, c, [], rfl, hc, hother, by simp⟩

/-- What is remembered has its handler up if it was put up and no call was refused since. -/
theorem after_handlers (h : (after ⟨handlers, none⟩ calls).remembered = some choice) :
    PutUp handlers calls choice ∧ (after ⟨handlers, none⟩ calls).handlers = [choice] ∨
      ¬ PutUp handlers calls choice ∧ (after ⟨handlers, none⟩ calls).handlers = [] := by
  induction calls using List.reverseRecOn with
  | nil => contradiction
  | append_singleton calls c ih =>
    rw [putUp_concat_iff]
    rw [after_concat] at h ⊢
    by_cases hsame : (after ⟨handlers, none⟩ calls).remembered = some c.choice
    · -- nothing is done, so it is as it was before the call
      rw [take_of_remembered hsame] at h ⊢
      have hc : c.choice = choice := Option.some.inj (hsame.symm.trans h)
      have hkept : ¬ (after ⟨handlers, none⟩ calls).remembered ≠ some choice := not_not.2 h
      simpa only [hc, hkept, true_and, or_false] using ih h
    · by_cases hknown : Known c.choice
      · rw [take_of_known hsame hknown] at h ⊢
        obtain rfl : c.choice = choice := Option.some.inj h
        exact Or.inl ⟨⟨rfl, Or.inr hsame⟩, rfl⟩
      · rw [take_of_unknown hsame hknown] at h ⊢
        have hc : c.choice ≠ choice := by
          rintro rfl
          exact hsame h
        exact Or.inr ⟨fun hput => hc hput.1, rfl⟩

/--
Logging after any calls, whatever handlers were up before them. The last known configuration that
was asked for is remembered. Its handler is the only one that is up if no call was refused since it
was put up, and otherwise none is up. A call is refused exactly if its level is not known. A refused
call takes all handlers down and leaves what is remembered; so it changes nothing only if none was
up. Any other call is remembered, and its handler is up unless it was remembered without one.
-/
theorem remembered_handler_up_iff (handlers : List LogChoice) (calls : List Call) :
    let l := after ⟨handlers, none⟩ calls
    l.remembered = ((calls.map Call.choice).filter fun choice => Known choice).getLast? ∧
    (∀ choice, l.remembered = some choice →
      (l.handlers = [choice] ↔ PutUp handlers calls choice) ∧
      (l.handlers = [] ↔ ¬ PutUp handlers calls choice)) ∧
    ∀ c : Call,
      ((l.take c).1 = none ↔ Known c.choice) ∧
      (¬ Known c.choice →
        l.take c = (some (.unknownLevel c.level.upper), ⟨[], l.remembered⟩) ∧
        ((l.take c).2 = l ↔ l.handlers = [])) ∧
      (Known c.choice →
        (l.take c).2.remembered = some c.choice ∧
        ((l.take c).2.handlers = [c.choice] ↔
          l.remembered ≠ some c.choice ∨ l.handlers = [c.choice])) := by
  intro l
  refine ⟨after_remembered handlers calls, ?_, fun c => ⟨take_after_eq_none_iff, ?_, ?_⟩⟩
  · intro choice h
    rcases after_handlers h with ⟨hput, hup⟩ | ⟨hput, hdown⟩
    · rw [show l.handlers = [choice] from hup]
      simp [hput]
    · rw [show l.handlers = [] from hdown]
      simp [hput]
  · intro hknown
    have hother : l.remembered ≠ some c.choice := fun h => hknown (known_of_after h)
    rw [take_of_unknown hother hknown]
    refine ⟨rfl, fun h => (congrArg Logging.handlers h).symm, fun h => ?_⟩
    rw [← h]
  · intro hknown
    refine ⟨by rw [take_remembered, if_pos hknown], ?_⟩
    by_cases hsame : l.remembered = some c.choice
    · rw [take_of_remembered hsame]
      simp [hsame]
    · rw [take_of_known hsame hknown]
      simp [hsame]

/-- A good call that is repeated after a refused one is skipped while no handler is up. -/
theorem remembered_handler_down_after_refusal :
    let good : Call := ⟨replProfile, "info".toList⟩
    let refused : Call := ⟨"default".toList, "bogus".toList⟩
    let l := initial.after [good, refused, good]
    ((initial.after [good]).take refused).1 = some (.unknownLevel "BOGUS".toList) ∧
      (initial.after [good, refused]).take good = (none, l) ∧
      l.remembered = some ⟨replProfile, "INFO".toList⟩ ∧ l.handlers = [] ∧
      ¬ PutUp [] [good, refused, good] ⟨replProfile, "INFO".toList⟩ := by
  intro good refused l
  have hremembered : l.remembered = some ⟨replProfile, "INFO".toList⟩ := by decide +kernel
  have hdown : l.handlers = [] := by decide +kernel
  obtain ⟨-, hup, -⟩ := remembered_handler_up_iff [] [good, refused, good]
  refine ⟨by decide +kernel, by decide +kernel, hremembered, hdown, ?_⟩
  exact (hup _ hremembered).2.1 hdown

end CommandShell.Logging
