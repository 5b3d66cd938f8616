import Mathlib.Data.List.Basic

/-! Runs of a labelled partial step function, and the rules that carry facts along them. -/

namespace Interleaving

universe u v

variable {State : Type u} {Action : Type v} {step : State → Action → Option State}

/-- Executes the actions in order, and fails at the first one that is not enabled. -/
def run (step : State → Action → Option State) : State → List Action → Option State
  | state, [] => some state
  | state, action :: rest => (step state action).bind fun next => run step next rest

/-- Some finite sequence of actions leads from the start to the state. -/
def Reachable (step : State → Action → Option State) (start state : State) : Prop :=
  ∃ actions, run step start actions = some state

/-- Every state visited by a run satisfies the predicate, the first and the last included. -/
def Along (step : State → Action → Option State) (holds : State → Prop) :
    State → List Action → Prop
  | state, [] => holds state
  | state, action :: rest =>
    holds state ∧ ∀ next, step state action = some next → Along step holds next rest

/-- Every step taken by a run meets the guard in the state it is taken from. -/
def Guarded (step : State → Action → Option State) (guard : State → Action → Prop) :
    State → List Action → Prop
  | _, [] => True
  | state, action :: rest =>
    ∀ next, step state action = some next → guard state action ∧ Guarded step guard next rest

/-- A nonempty run is one enabled step followed by the remaining run. -/
theorem run_cons_iff {state finish : State} {action : Action} {rest : List Action} :
    run step state (action :: rest) = some finish ↔
      ∃ next, step state action = some next ∧ run step next rest = some finish := by
  simp [run, Option.bind_eq_some_iff]

/-- An enabled step is a run of one action. -/
theorem run_single {state next : State} {action : Action}
    (taken : step state action = some next) : run step state [action] = some next := by
  simp [run, taken]

/-- Consecutive runs compose at their common state. -/
theorem run_append_iff {state finish : State} {first second : List Action} :
    run step state (first ++ second) = some finish ↔
      ∃ middle, run step state first = some middle ∧ run step middle second = some finish := by
  -- The first part is consumed one action at a time, and the middle state is where it ends.
  induction first generalizing state with
  | nil => simp [run]
  | cons action rest ih =>
    simp only [List.cons_append, run_cons_iff, ih]
    constructor
    · intro split
      obtain ⟨next, taken, middle, before, after⟩ := split
      exact ⟨middle, ⟨next, taken, before⟩, after⟩
    · intro joined
      obtain ⟨middle, ⟨next, taken, before⟩, after⟩ := joined
      exact ⟨next, taken, middle, before, after⟩

/-- Behind a first part that goes through, a run is the run of its second part. -/
theorem run_append {state middle : State} {first second : List Action}
    (ran : run step state first = some middle) :
    run step state (first ++ second) = run step middle second := by
  -- The first part is consumed one action at a time, and the middle state is where it ends.
  induction first generalizing state with
  | nil =>
    obtain rfl : state = middle := Option.some.inj ran
    rfl
  | cons action rest ih =>
    obtain ⟨next, taken, ran⟩ := run_cons_iff.mp ran
    rw [List.cons_append, run, taken, Option.bind_some]
    exact ih ran

/-- A run that evaluates to a state with a decidable property does end in such a state. -/
theorem run_ends {goal : State → Prop} [DecidablePred goal] {start : State} {actions : List Action}
    (evaluated : (run step start actions).any (fun final => decide (goal final)) = true) :
    ∃ final, run step start actions = some final ∧ goal final := by
  -- The evaluation decides both that the run goes through and what holds at its end.
  cases ran : run step start actions with
  | none => simp [ran] at evaluated
  | some final => exact ⟨final, rfl, by simpa [ran] using evaluated⟩

/-- What every step preserves is preserved by every run. -/
theorem run_invariant (inv : State → Prop)
    (keep : ∀ state action next, inv state → step state action = some next → inv next)
    {state finish : State} {actions : List Action} (now : inv state)
    (ran : run step state actions = some finish) : inv finish := by
  -- The induction consumes the actions, and the invariant moves one step at a time.
  induction actions generalizing state with
  | nil =>
    simp only [run, Option.some.injEq] at ran
    exact ran ▸ now
  | cons action rest ih =>
    obtain ⟨next, taken, ran⟩ := run_cons_iff.mp ran
    exact ih (keep state action next now taken) ran

/-- An invariant of the step function holds in every reachable state. -/
theorem reachable_invariant (inv : State → Prop) {start state : State}
    (keep : ∀ state action next, inv state → step state action = some next → inv next)
    (initial : inv start) (reached : Reachable step start state) : inv state := by
  -- A reachable state is the end of some run from the start.
  obtain ⟨actions, ran⟩ := reached
  exact run_invariant inv keep initial ran

/-- What every step preserves about the state and the actions so far holds after every run. -/
theorem run_history_invariant (inv : List Action → State → Prop)
    (keep : ∀ past state action next, inv past state → step state action = some next →
      inv (past ++ [action]) next)
    {past actions : List Action} {state finish : State} (now : inv past state)
    (ran : run step state actions = some finish) : inv (past ++ actions) finish := by
  -- Each step moves one action from the run to its history.
  induction actions generalizing past state with
  | nil =>
    simp only [run, Option.some.injEq] at ran
    rw [List.append_nil]
    exact ran ▸ now
  | cons action rest ih =>
    obtain ⟨next, taken, ran⟩ := run_cons_iff.mp ran
    have later := ih (keep past state action next now taken) ran
    rwa [List.append_assoc] at later

/-- A run is guarded if its first step is, and what comes behind it. -/
theorem Guarded.cons {guard : State → Action → Prop} {state next : State} {action : Action}
    {rest : List Action} (taken : step state action = some next) (meets : guard state action)
    (later : Guarded step guard next rest) : Guarded step guard state (action :: rest) := by
  intro other same
  obtain rfl := Option.some.inj (taken.symm.trans same)
  exact ⟨meets, later⟩

/-- A run that meets a guard meets every weaker one. -/
theorem Guarded.mono {guard weaker : State → Action → Prop}
    (weaken : ∀ state action, guard state action → weaker state action)
    {state : State} {actions : List Action} (guarded : Guarded step guard state actions) :
    Guarded step weaker state actions := by
  -- The run takes the same steps under either guard.
  induction actions generalizing state with
  | nil => exact trivial
  | cons action rest ih =>
    intro next taken
    obtain ⟨meets, later⟩ := guarded next taken
    exact ⟨weaken state action meets, ih later⟩

/-- A predicate that holds along a run holds in its first state. -/
theorem Along.first {holds : State → Prop} {state : State} {actions : List Action}
    (along : Along step holds state actions) : holds state := by
  cases actions with
  | nil => exact along
  | cons action rest => exact along.1

/-- A weaker predicate holds along the same run. -/
theorem Along.mono {holds weaker : State → Prop} (weaken : ∀ state, holds state → weaker state)
    {state : State} {actions : List Action} (along : Along step holds state actions) :
    Along step weaker state actions := by
  -- The run visits the same states under either predicate.
  induction actions generalizing state with
  | nil => exact weaken state along
  | cons action rest ih => exact ⟨weaken state along.1, fun next taken => ih (along.2 next taken)⟩

/-- An invariant that guarded steps preserve holds along every guarded run. -/
theorem along_of_guarded (inv : State → Prop) {guard : State → Action → Prop}
    (keep : ∀ state action next, inv state → guard state action →
      step state action = some next → inv next)
    {state : State} {actions : List Action} (now : inv state)
    (guarded : Guarded step guard state actions) : Along step inv state actions := by
  -- Each step brings its own guard, so the invariant never has to supply it.
  induction actions generalizing state with
  | nil => exact now
  | cons action rest ih =>
    refine ⟨now, fun next taken => ?_⟩
    obtain ⟨meets, later⟩ := guarded next taken
    exact ih (keep state action next now meets taken) later

/-- A guard that is met wherever a step leads to a state with the predicate is met by the run. -/
theorem guarded_of_along {holds : State → Prop} {guard : State → Action → Prop}
    (needed : ∀ state action next, step state action = some next → holds next →
      guard state action)
    {state : State} {actions : List Action} (along : Along step holds state actions) :
    Guarded step guard state actions := by
  -- The state behind each step is the first one of the rest of the run.
  induction actions generalizing state with
  | nil => exact trivial
  | cons action rest ih =>
    intro next taken
    have later := along.2 next taken
    exact ⟨needed state action next taken later.first, ih later⟩

/--
A guard that is exact for one step is exact for whole runs.

The invariant supplies what is true of every reachable state whether or not guards are met.
-/
theorem along_iff_guarded (inv : State → Prop) {holds : State → Prop}
    {guard : State → Action → Prop}
    (keep : ∀ state action next, inv state → step state action = some next → inv next)
    (exactly : ∀ state action next, inv state → holds state →
      step state action = some next → (holds next ↔ guard state action))
    {state : State} {actions : List Action} (now : inv state) (initial : holds state) :
    Along step holds state actions ↔ Guarded step guard state actions := by
  -- Both sides are decided one step at a time, by the same next state.
  induction actions generalizing state with
  | nil => exact ⟨fun _ => trivial, fun _ => initial⟩
  | cons action rest ih =>
    constructor
    · intro along next taken
      have later := along.2 next taken
      refine ⟨(exactly state action next now initial taken).mp later.first, ?_⟩
      exact (ih (keep state action next now taken) later.first).mp later
    · intro guarded
      refine ⟨initial, fun next taken => ?_⟩
      obtain ⟨meets, later⟩ := guarded next taken
      exact (ih (keep state action next now taken)
        ((exactly state action next now initial taken).mpr meets)).mpr later

end Interleaving
