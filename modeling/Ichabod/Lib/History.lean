import Mathlib.Data.List.Basic

/-! What the actions taken so far say: the value written last, and what was so at one of them. -/

namespace History

universe u v

variable {Action : Type u} {Value : Type v}

/-- The last value that an action writes, if any of them does. -/
def latest (writes : Action → Option Value) (past : List Action) : Option Value :=
  (past.filterMap writes).getLast?

/-- One more action writes the last value, or leaves it as it was. -/
theorem latest_concat (writes : Action → Option Value) (past : List Action) (action : Action) :
    latest writes (past ++ [action]) = (writes action).or (latest writes past) := by
  rw [latest, List.filterMap_append]
  cases written : writes action with
  | none => simp [written, latest]
  | some value => simp [written]

/-- The action was taken at a moment at which the past was as required. -/
def TakenWhen (required : List Action → Prop) (action : Action) (past : List Action) : Prop :=
  ∃ before after, past = before ++ action :: after ∧ required before

variable {required : List Action → Prop} {action : Action} {past : List Action}

/-- An action that was taken at some moment was taken. -/
theorem TakenWhen.mem (taken : TakenWhen required action past) : action ∈ past := by
  obtain ⟨before, after, rfl, _⟩ := taken
  exact List.mem_append_right before List.mem_cons_self

/-- One more action is taken now, and the others were taken when they were. -/
theorem takenWhen_concat (last : Action) :
    TakenWhen required action (past ++ [last]) ↔
      TakenWhen required action past ∨ (last = action ∧ required past) := by
  constructor
  · intro taken
    obtain ⟨before, after, split, now⟩ := taken
    -- Either nothing comes behind the action, or the last one does.
    rcases List.eq_nil_or_concat after with rfl | ⟨front, other, rfl⟩
    · obtain ⟨rfl, same⟩ := List.append_inj' split rfl
      exact .inr ⟨(List.cons.inj same).1, now⟩
    · have moved : past ++ [last] = (before ++ action :: front) ++ [other] := by simpa using split
      obtain ⟨rfl, _⟩ := List.append_inj' moved rfl
      exact .inl ⟨before, front, rfl, now⟩
  · intro taken
    rcases taken with ⟨before, after, rfl, now⟩ | ⟨rfl, now⟩
    · exact ⟨before, after ++ [last], by simp, now⟩
    · exact ⟨past, [], rfl, now⟩

/-- What was taken at some moment stays so, whatever comes behind it. -/
theorem TakenWhen.later (taken : TakenWhen required action past) (last : Action) :
    TakenWhen required action (past ++ [last]) :=
  (takenWhen_concat last).mpr (.inl taken)

/-- An action that comes last is taken now. -/
theorem takenWhen_now (now : required past) : TakenWhen required action (past ++ [action]) :=
  (takenWhen_concat action).mpr (.inr ⟨rfl, now⟩)

end History
