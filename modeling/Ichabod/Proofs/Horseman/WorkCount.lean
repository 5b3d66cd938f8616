import Ichabod.Proofs.Horseman.Transition

/-! The work count agrees with the outstanding dispatches as long as it is emptied one by one. -/

namespace Ichabod

open Interleaving Threads

variable {Double : Type}

/-- The dispatch that the receiver has counted, but not queued or taken back yet. -/
def ReceiverPc.counted : ReceiverPc Double → Nat
  | .queueing _ | .rejected => 1
  | _ => 0

/-- The dispatch whose after callback has begun, but not taken it out of the count yet. -/
def LoopPc.counted : LoopPc → Nat
  | .completing => 1
  | _ => 0

/-- Dispatches counted by `increment_work_count`, and neither taken back nor completed since. -/
def Threads.outstanding (s : Threads Double) : Nat :=
  s.receiver.counted + s.waiting.length + s.loopThread.counted

/-- `work_count` is the number of outstanding dispatches. -/
def WorkCountExact (s : Threads Double) : Prop :=
  s.horseman.getWorkCount = s.outstanding

instance (s : Threads Double) : Decidable (WorkCountExact s) :=
  inferInstanceAs (Decidable (s.horseman.getWorkCount = s.outstanding))

/-- A call of `decrement_work_count` is only made while exactly one dispatch is outstanding. -/
def UncountsLast (s : Threads Double) (action : ThreadAction) : Prop :=
  action = .receiver .decrement ∨ action = .loop .decrement → s.outstanding = 1

/-- An exact count is zero only if every accepted job has completed. -/
theorem WorkCountExact.drained {s : Threads Double} (accurate : WorkCountExact s)
    (zero : s.horseman.getWorkCount = 0) : s.waiting = [] ∧ s.loopThread ≠ .completing := by
  -- Waiting jobs and the one being completed are part of the outstanding dispatches.
  have nothing : s.outstanding = 0 := by
    simp only [WorkCountExact, zero] at accurate
    omega
  simp only [outstanding] at nothing
  refine ⟨List.eq_nil_of_length_eq_zero (by omega), ?_⟩
  intro completing
  simp [completing, LoopPc.counted] at nothing

variable [Zero Double] {poolSize : Nat} {atof : Bytes → Double}

/-- Taking a dispatch out of the count leaves zero, whatever was counted before. -/
theorem decrement_step {s t : Threads Double} {action : ThreadAction}
    (uncounts : action = .receiver .decrement ∨ action = .loop .decrement)
    (taken : s.step poolSize atof action = some t) :
    t.horseman.getWorkCount = 0 ∧ t.outstanding + 1 = s.outstanding := by
  -- The thread that takes the dispatch out stops accounting for it in the same step.
  obtain ⟨_, transition⟩ := step_transition taken
  rcases uncounts with rfl | rfl
  · cases transition with
    | uncountRejected stands =>
      refine ⟨rfl, ?_⟩
      simp only [outstanding, waiting, stands, ReceiverPc.counted]
      omega
  · cases transition with
    | uncountCompleted stands =>
      refine ⟨rfl, ?_⟩
      simp only [outstanding, waiting, stands, LoopPc.counted]

/-- Every other step changes the count by exactly what it changes in the outstanding dispatches. -/
theorem balanced_step {s t : Threads Double} {action : ThreadAction}
    (other : ¬ (action = .receiver .decrement ∨ action = .loop .decrement))
    (taken : s.step poolSize atof action = some t) :
    t.horseman.getWorkCount + s.outstanding = s.horseman.getWorkCount + t.outstanding := by
  -- Accepted jobs only move between the queue, the workers and the finished jobs.
  obtain ⟨_, transition⟩ := step_transition taken
  cases transition with
  | uncountRejected | uncountCompleted => simp at other
  | connect ret stands =>
    by_cases failed : ret ≠ 0 <;> simp [failed, outstanding, waiting, stands, ReceiverPc.counted]
  | parseSome msg asyncMsg stands parsed =>
    cases eos : asyncMsg.isEos <;> simp [outstanding, waiting, stands, ReceiverPc.counted]
  | increment asyncMsg stands =>
    simp only [Horseman.incrementWorkCount, Horseman.getWorkCount, outstanding, waiting, stands,
      ReceiverPc.counted]
    omega
  | accept asyncMsg stands there =>
    simp only [outstanding, waiting, stands, ReceiverPc.counted, List.length_append,
      List.length_singleton]
    omega
  | take work rest queued idle =>
    simp only [outstanding, waiting, queued, List.length_append, List.length_cons,
      List.length_nil]
    omega
  | perform slot work held | report slot work held =>
    -- A worker passes its job on, and the job still waits.
    obtain ⟨inside, _⟩ := List.getElem?_eq_some_iff.mp held
    simp only [outstanding, waiting, List.length_append, List.length_eraseIdx_of_lt inside,
      List.length_singleton]
    omega
  | complete work rest stands done =>
    simp only [outstanding, waiting, stands, done, LoopPc.counted, List.length_append,
      List.length_cons]
    omega
  | quit stands | await stands | receiveNone _ _ stands | receiveSome _ _ _ stands
  | parseNone _ stands | interrupt _ stands | reject _ _ stands =>
    simp [outstanding, waiting, stands, ReceiverPc.counted, Horseman.getWorkCount]
  | goOn _ stands | goOut _ stands | enter stands | leave stands | wake _ stands =>
    simp [outstanding, waiting, stands, LoopPc.counted]
  | parseFault | queueCrash | enterCrash | stopCall | stopInterrupt | stopClear | drainWait
  | drainEnd | closeBusy | close | null | joinZmq | joinLoop => rfl

/-- A step keeps the count exact precisely if it does not take out one dispatch of several. -/
theorem workCount_exact_step (s : Threads Double) (action : ThreadAction) (t : Threads Double)
    (accurate : WorkCountExact s) (taken : s.step poolSize atof action = some t) :
    WorkCountExact t ↔ UncountsLast s action := by
  -- Only the two calls of `decrement_work_count` are guarded.
  by_cases uncounts : action = .receiver .decrement ∨ action = .loop .decrement
  · obtain ⟨zero, fewer⟩ := decrement_step uncounts taken
    simp only [WorkCountExact, UncountsLast, zero]
    constructor
    · intro now _
      omega
    · intro last
      have single := last uncounts
      omega
  · have balance := balanced_step uncounts taken
    simp only [WorkCountExact, UncountsLast] at accurate ⊢
    constructor
    · intro _ wrong
      exact absurd wrong uncounts
    · intro _
      omega

/--
The count is exact in every state of a run precisely if each decrement of the run finds exactly one
dispatch outstanding.

In such a run, a count of zero means that every accepted job has completed.
-/
theorem workCount_exact_iff_uncounts_last (poolSize : Nat) (atof : Bytes → Double)
    (actions : List ThreadAction) :
    (Along (step poolSize atof) WorkCountExact start actions ↔
        Guarded (step poolSize atof) UncountsLast start actions) ∧
      (Guarded (step poolSize atof) UncountsLast start actions →
        Along (step poolSize atof)
          (fun s => s.horseman.getWorkCount = 0 → s.waiting = [] ∧ s.loopThread ≠ .completing)
          start actions) := by
  -- One step decides exactness, and the runs follow step by step.
  have runs : Along (step poolSize atof) WorkCountExact start actions ↔
      Guarded (step poolSize atof) UncountsLast start actions :=
    along_iff_guarded (fun _ => True) (fun _ _ _ _ _ => trivial)
      (fun s action t _ accurate taken => workCount_exact_step s action t accurate taken)
      trivial rfl
  exact ⟨runs, fun guarded => (runs.mpr guarded).mono fun _ accurate => accurate.drained⟩

/-- Two frames are dispatched before the first of them completes. -/
def overlappingDispatches : List ThreadAction :=
  let dispatch : List ThreadAction :=
    [.receiver .test,
      .receiver (.receive (.message ⟨CString.ascii "frame", [CString.ascii "AAAA", []]⟩)),
      .receiver .parse, .receiver .increment, .receiver (.queueWork 0)]
  [.receiver (.connect 0)] ++ dispatch ++ dispatch ++
    [.worker .take, .worker (.perform 0), .worker (.report 0), .loop .test, .loop .enter,
      .loop .complete, .loop .decrement]

/-- Completing the first of two dispatches leaves a count of zero with a job still queued. -/
theorem workCount_zero_with_job_outstanding :
    ∃ final : Threads Nat, run (step 4 fun _ => 0) start overlappingDispatches = some final ∧
      final.horseman.getWorkCount = 0 ∧ final.outstanding = 1 ∧ final.waiting ≠ [] ∧
      ¬ WorkCountExact final := by
  -- The second job is still in the queue when the first one stores zero.
  exact run_ends (by decide)

end Ichabod
