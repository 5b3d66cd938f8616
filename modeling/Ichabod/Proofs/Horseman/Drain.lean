import Ichabod.Proofs.Horseman.Shutdown
import Ichabod.Proofs.Horseman.WorkCount

/-! The loop thread leaves no accepted job behind, as long as it is dismissed in time. -/

namespace Ichabod

open Interleaving Threads

variable {Double : Type}

/-- Whether the loop thread is in `uv_run`, or has already decided to call it. -/
def LoopPc.serving : LoopPc → Bool
  | .entering | .running | .completing => true
  | .testing _ | .sleeping _ | .exited => false

/-- `horseman_stop` waits for a completion, in its drain loop or in its `UV_EBUSY` loop. -/
def StopWaits (s : Threads Double) : Prop :=
  (∃ drainCount, s.stopper = .draining drainCount ∧ 0 < s.horseman.getWorkCount) ∨
    (s.stopper = .closing ∧ s.waiting ≠ [])

/-- Once the loop thread is gone, there is nothing left for it to deliver. -/
structure Served (s : Threads Double) : Prop where
  /-- No accepted job waits for its after callback. -/
  delivered : s.loopThread = .exited → s.waiting = []
  /-- `horseman_stop` waits for nobody but a receiver that has counted a dispatch. -/
  awaited : s.loopThread = .exited → s.receiver.counted = 0 → ¬ StopWaits s

/-- The loop thread goes out only after `is_running` was cleared, since `uv_run` returns zero. -/
structure LoopProgress (s : Threads Double) : Prop where
  zero : ∀ ret, s.loopThread = .testing ret ∨ s.loopThread = .sleeping ret → ret = 0
  dismissed : s.loopThread = .exited → s.horseman.isRunning = false

/-- The loop thread starts out wanted, with a result of zero in hand. -/
theorem loopProgress_start : LoopProgress (start : Threads Double) := by
  constructor <;> simp [start]

/-- Nothing is counted at the start. -/
theorem workCount_le_start :
    (start : Threads Double).horseman.getWorkCount ≤ (start : Threads Double).outstanding :=
  Int.le_refl 0

variable [Zero Double] {poolSize : Nat} {atof : Bytes → Double}

/-- `is_running` is cleared only while the receiver is quiet and every waiting job is served. -/
def ClearsServed (atof : Bytes → Double) (s : Threads Double) (action : ThreadAction) : Prop :=
  action = .stop → s.stopper = .clearing →
    s.receiver.mayQueue atof = false ∧ (s.waiting = [] ∨ s.loopThread.serving = true)

/-- Every step keeps the loop thread in line with the flag that dismisses it. -/
theorem loopProgress_step (s : Threads Double) (action : ThreadAction) (t : Threads Double)
    (progress : LoopProgress s) (taken : s.step poolSize atof action = some t) :
    LoopProgress t := by
  -- Only the loop thread moves, and only `horseman_stop` stores to the flag.
  obtain ⟨_, transition⟩ := step_transition taken
  obtain ⟨zero, dismissed⟩ := progress
  cases transition with
  | goOn ret stands flag => constructor <;> simp
  | goOut ret stands flag =>
    refine ⟨by simp, fun _ => ?_⟩
    rcases flag with cleared | nonzero
    · exact cleared
    · exact absurd (zero ret (.inl stands)) nonzero
  | enter stands there => constructor <;> simp
  | complete work rest stands done => constructor <;> simp
  | uncountCompleted stands => constructor <;> simp
  | leave stands nothing => constructor <;> simp
  | wake ret stands =>
    have same := zero ret (.inr stands)
    constructor <;> simp [same]
  | stopClear stands => exact ⟨zero, fun _ => rfl⟩
  | _ => exact ⟨zero, dismissed⟩

/-- The count never exceeds the outstanding dispatches, since decrements only lose dispatches. -/
theorem workCount_le_step (s : Threads Double) (action : ThreadAction) (t : Threads Double)
    (bounded : s.horseman.getWorkCount ≤ s.outstanding)
    (taken : s.step poolSize atof action = some t) :
    t.horseman.getWorkCount ≤ t.outstanding := by
  -- A decrement stores zero, which is at most anything, and the other steps are balanced.
  by_cases uncounts : action = .receiver .decrement ∨ action = .loop .decrement
  · obtain ⟨zero, _⟩ := decrement_step uncounts taken
    omega
  · have balance := balanced_step uncounts taken
    omega

/-- Behind a cleared flag and a quiet receiver, waiting jobs stay served. -/
theorem served_step {s t : Threads Double} {action : ThreadAction}
    (cleared : s.horseman.isRunning = false) (quiet : s.receiver.mayQueue atof = false)
    (served : s.waiting = [] ∨ s.loopThread.serving = true)
    (taken : s.step poolSize atof action = some t) :
    t.waiting = [] ∨ t.loopThread.serving = true := by
  -- Jobs only move on, and the loop thread leaves `uv_run` only when none is waiting.
  obtain ⟨_, transition⟩ := step_transition taken
  cases transition with
  | accept asyncMsg stands there => simp [stands, ReceiverPc.mayQueue] at quiet
  | take work rest queued idle =>
    rcases served with nothing | serving
    · simp [waiting, queued] at nothing
    · exact .inr serving
  | perform slot work held | report slot work held =>
    rcases served with nothing | serving
    · obtain ⟨_, noExecuting, noReporting, _⟩ := waiting_eq_nil_iff.mp nothing
      simp [noExecuting, noReporting] at held
    · exact .inr serving
  | goOn ret stands flag => simp [cleared] at flag
  | goOut ret stands flag =>
    rcases served with nothing | serving
    · exact .inl nothing
    · simp [stands, LoopPc.serving] at serving
  | enter stands there => exact .inr rfl
  | complete work rest stands done => exact .inr rfl
  | uncountCompleted stands => exact .inr rfl
  | leave stands nothing => exact .inl nothing
  | wake ret stands =>
    rcases served with nothing | serving
    · exact .inl nothing
    · simp [stands, LoopPc.serving] at serving
  | _ => exact served

/-- What holds in every state of a run that dismisses the loop thread in time. -/
structure DismissedInTime (atof : Bytes → Double) (s : Threads Double) : Prop where
  stopProgress : StopProgress s
  loopProgress : LoopProgress s
  bounded : s.horseman.getWorkCount ≤ s.outstanding
  cleared : s.horseman.isRunning = false → s.horseman.isInterrupted = true ∧
    s.receiver.mayQueue atof = false ∧ (s.waiting = [] ∨ s.loopThread.serving = true)

/-- A horseman that has just been started has dismissed nobody. -/
theorem dismissedInTime_start : DismissedInTime atof (start : Threads Double) :=
  ⟨stopProgress_start, loopProgress_start, workCount_le_start, fun cleared => nomatch cleared⟩

/-- No thread sets `is_running` again once it has been cleared. -/
theorem cleared_step {s t : Threads Double} {action : ThreadAction}
    (cleared : s.horseman.isRunning = false) (taken : s.step poolSize atof action = some t) :
    t.horseman.isRunning = false := by
  -- Only `horseman_start` sets the flag, and it has returned before any of these steps.
  obtain ⟨_, transition⟩ := step_transition taken
  cases transition with
  | stopClear stands => rfl
  | _ => exact cleared

/-- Only `horseman_stop` clears `is_running`, in the step that the guard is about. -/
theorem isRunning_step {s t : Threads Double} {action : ThreadAction}
    (taken : s.step poolSize atof action = some t) :
    t.horseman.isRunning = s.horseman.isRunning ∨
      (action = .stop ∧ s.stopper = .clearing ∧ t.receiver = s.receiver ∧ t.waiting = s.waiting ∧
        t.loopThread = s.loopThread ∧ t.horseman.isInterrupted = s.horseman.isInterrupted) := by
  -- One transition stores to the flag, and it leaves everything else that is read here.
  obtain ⟨_, transition⟩ := step_transition taken
  cases transition with
  | stopClear stands => exact .inr ⟨rfl, stands, rfl, rfl, rfl, rfl⟩
  | _ => exact .inl rfl

/-- Every step that dismisses the loop thread in time, or not at all, keeps it served. -/
theorem dismissedInTime_step (s : Threads Double) (action : ThreadAction) (t : Threads Double)
    (now : DismissedInTime atof s) (guard : ClearsServed atof s action)
    (taken : s.step poolSize atof action = some t) : DismissedInTime atof t := by
  -- The guard is needed for the one step that clears the flag.
  refine ⟨stopProgress_step s action t now.stopProgress taken,
    loopProgress_step s action t now.loopProgress taken,
    workCount_le_step s action t now.bounded taken, fun cleared => ?_⟩
  rcases isRunning_step taken with same | ⟨rfl, stands, receiver, jobs, thread, flag⟩
  · -- The flag was cleared before, so the receiver and the jobs were already settled.
    rw [same] at cleared
    obtain ⟨told, quiet, served⟩ := now.cleared cleared
    obtain ⟨stillTold, stillQuiet⟩ := quiet_step told quiet taken
    exact ⟨stillTold, stillQuiet, served_step cleared quiet served taken⟩
  · obtain ⟨quiet, served⟩ := guard rfl stands
    have told := now.stopProgress.interrupted (by simp [stands, StopPc.interrupted])
    rw [receiver, jobs, thread, flag]
    exact ⟨told, quiet, served⟩

/-- A loop thread dismissed in time leaves nothing behind that anybody could wait for. -/
theorem DismissedInTime.served {s : Threads Double} (now : DismissedInTime atof s) : Served s := by
  have delivered : s.loopThread = .exited → s.waiting = [] := by
    intro gone
    obtain ⟨_, _, served⟩ := now.cleared (now.loopProgress.dismissed gone)
    simpa [gone, LoopPc.serving] using served
  refine ⟨delivered, fun gone uncounted waits => ?_⟩
  -- With no job waiting and none counted by the receiver, nothing is outstanding.
  have nothing := delivered gone
  have bounded := now.bounded
  simp only [outstanding, uncounted, nothing, gone, LoopPc.counted, List.length_nil] at bounded
  rcases waits with ⟨drainCount, _, counted⟩ | ⟨_, busy⟩
  · omega
  · exact busy nothing

end Ichabod
