import Mathlib.Logic.Function.Basic

/-! Threads that take turns in critical sections, by the owner of one mutex. -/

namespace Mutex

universe u

variable {Thread : Type u}

/-- Exactly the owner of the mutex is in its critical section. -/
def Excludes (owner : Option Thread) (critical : Thread → Prop) : Prop :=
  ∀ thread, critical thread ↔ owner = some thread

variable {owner : Option Thread} {critical later : Thread → Prop} {thread other : Thread}

/-- Nobody is in a critical section while the mutex is free. -/
theorem excludes_free (nobody : ∀ thread, ¬ critical thread) : Excludes none critical := by
  intro thread
  simp [nobody thread]

/-- Two threads in their critical sections are the same one. -/
theorem Excludes.alone (excludes : Excludes owner critical) (mine : critical thread)
    (theirs : critical other) : thread = other := by
  have first := (excludes thread).mp mine
  have second := (excludes other).mp theirs
  exact Option.some.inj (first.symm.trans second)

/-- The thread that takes a free mutex is in its critical section from there on. -/
theorem Excludes.acquire (excludes : Excludes none critical) (mine : later thread)
    (others : ∀ other, other ≠ thread → (later other ↔ critical other)) :
    Excludes (some thread) later := by
  -- No other thread was in its critical section, and none has entered it.
  intro other
  by_cases same : other = thread
  · rw [same]
    simp [mine]
  · rw [others other same, excludes other]
    simp [Ne.symm same]

/-- The owner may move within its critical section. -/
theorem Excludes.inside (excludes : Excludes owner critical) (before : critical thread)
    (mine : later thread) (others : ∀ other, other ≠ thread → (later other ↔ critical other)) :
    Excludes owner later := by
  intro other
  by_cases same : other = thread
  · rw [same, ← excludes thread]
    exact ⟨fun _ => before, fun _ => mine⟩
  · rw [others other same, excludes other]

/-- The owner leaves its critical section and frees the mutex. -/
theorem Excludes.release (excludes : Excludes owner critical) (before : critical thread)
    (mine : ¬ later thread) (others : ∀ other, other ≠ thread → (later other ↔ critical other)) :
    Excludes none later := by
  apply excludes_free
  intro other
  by_cases same : other = thread
  · rw [same]
    exact mine
  · rw [others other same]
    exact fun theirs => same (excludes.alone theirs before)

/-- Moves outside the critical section leave the mutex as it is. -/
theorem Excludes.outside (excludes : Excludes owner critical)
    (same : ∀ other, later other ↔ critical other) : Excludes owner later := by
  intro other
  rw [same other, excludes other]

end Mutex
