import Ichabod.Proofs.Horseman.Close
import Ichabod.Proofs.Horseman.Drain

/-! The loop thread only runs a closed loop if the loop is closed just before it is entered. -/

namespace Ichabod

open Interleaving Threads

variable {Double : Type}

/-- `uv_run` has never been called on a loop that was closed or NULL. -/
def NoClosedRun (s : Threads Double) : Prop :=
  s.crash ≠ some .ranClosedLoop

instance (s : Threads Double) : Decidable (NoClosedRun s) :=
  inferInstanceAs (Decidable (_ ≠ _))

/-- Whether `horseman_stop` has cleared `is_running`, or found it cleared. -/
def StopPc.cleared : StopPc → Bool
  | .draining _ | .closing | .nulling | .joiningZmq | .joiningLoop | .returned => true
  | .idle | .interrupting | .clearing => false

/-- The loop thread is not wanted any more once the loop may be closed. -/
structure Unwanted (s : Threads Double) : Prop where
  /-- The flag is cleared before the drain. -/
  cleared : s.stopper.cleared = true → s.horseman.isRunning = false
  /-- Whoever finds the loop closed was not wanted any more before. -/
  flagged : s.horseman.loop ≠ .opened → s.horseman.isRunning = false

/-- The loop starts out open. -/
theorem unwanted_start : Unwanted (start : Threads Double) := by
  constructor <;> simp [start, Horseman.started, StopPc.cleared]

/-- `uv_loop_close` only succeeds while the loop thread is not about to call `uv_run`. -/
def ClosesUnentered (s : Threads Double) (action : ThreadAction) : Prop :=
  action = .stop → s.stopper = .closing → s.waiting = [] → s.loopThread ≠ .entering

/-- The loop thread is not about to enter a closed loop, and has not entered one yet. -/
structure UnenteredBehindClose (s : Threads Double) : Prop where
  progress : StopProgress s
  unwanted : Unwanted s
  outside : s.horseman.loop ≠ .opened → s.loopThread ≠ .entering
  noRun : NoClosedRun s

/-- A horseman that has just been started has closed nothing. -/
theorem unenteredBehindClose_start : UnenteredBehindClose (start : Threads Double) :=
  ⟨stopProgress_start, unwanted_start, fun gone => absurd rfl gone, by simp [NoClosedRun, start]⟩

variable [Zero Double] {poolSize : Nat} {atof : Bytes → Double}

/-- Every step keeps the flag in line with the progress of `horseman_stop`. -/
theorem unwanted_step (s : Threads Double) (action : ThreadAction) (t : Threads Double)
    (now : Unwanted s) (taken : s.step poolSize atof action = some t) : Unwanted t := by
  -- Only `horseman_stop` stores to the flag and the loop, and it never sets the flag.
  obtain ⟨_, transition⟩ := step_transition taken
  obtain ⟨cleared, flagged⟩ := now
  cases transition with
  | stopCall stands =>
    refine ⟨?_, flagged⟩
    cases running : s.horseman.isRunning with
    | true => simp [StopPc.cleared]
    | false => exact fun _ => rfl
  | stopInterrupt stands => exact ⟨fun early => (by simp [StopPc.cleared] at early), flagged⟩
  | stopClear stands => exact ⟨fun _ => rfl, fun _ => rfl⟩
  | drainEnd drainCount stands drained =>
    exact ⟨fun _ => cleared (by rw [stands]; rfl), flagged⟩
  | close stands nothing =>
    have off := cleared (by rw [stands]; rfl)
    exact ⟨fun _ => off, fun _ => off⟩
  | null stands =>
    have off := cleared (by rw [stands]; rfl)
    exact ⟨fun _ => off, fun _ => off⟩
  | joinZmq stands ended => exact ⟨fun _ => cleared (by rw [stands]; rfl), flagged⟩
  | joinLoop stands ended => exact ⟨fun _ => cleared (by rw [stands]; rfl), flagged⟩
  | _ => exact ⟨cleared, flagged⟩

/-- Every step that closes an unentered loop, or none, keeps the loop thread out of it. -/
theorem unenteredBehindClose_step (s : Threads Double) (action : ThreadAction)
    (t : Threads Double) (behind : UnenteredBehindClose s) (guard : ClosesUnentered s action)
    (taken : s.step poolSize atof action = some t) : UnenteredBehindClose t := by
  have progress := stopProgress_step s action t behind.progress taken
  have unwanted := unwanted_step s action t behind.unwanted taken
  obtain ⟨alive, transition⟩ := step_transition taken
  have outside := behind.outside
  have noRun : NoClosedRun s := behind.noRun
  cases transition with
  | goOn ret stands flag =>
    -- The loop test lets the thread in only while it is wanted.
    refine ⟨progress, unwanted, fun gone => ?_, noRun⟩
    have off := behind.unwanted.flagged gone
    simp [off] at flag
  | enterCrash stands gone => exact absurd stands (outside gone)
  | goOut ret stands flag => exact ⟨progress, unwanted, fun _ => by simp, noRun⟩
  | enter stands there => exact ⟨progress, unwanted, fun _ => by simp, noRun⟩
  | complete work rest stands done => exact ⟨progress, unwanted, fun _ => by simp, noRun⟩
  | uncountCompleted stands => exact ⟨progress, unwanted, fun _ => by simp, noRun⟩
  | leave stands nothing => exact ⟨progress, unwanted, fun _ => by simp, noRun⟩
  | wake ret stands => exact ⟨progress, unwanted, fun _ => by simp, noRun⟩
  | close stands nothing => exact ⟨progress, unwanted, fun _ => guard rfl stands nothing, noRun⟩
  | null stands =>
    have gone : s.horseman.loop ≠ .opened := by simp [behind.progress.shut stands]
    exact ⟨progress, unwanted, fun _ => outside gone, noRun⟩
  | parseFault msg fault stands parsed =>
    exact ⟨progress, unwanted, outside, by simp [NoClosedRun]⟩
  | queueCrash ret asyncMsg stands gone =>
    exact ⟨progress, unwanted, outside, by simp [NoClosedRun]⟩
  | _ => exact ⟨progress, unwanted, outside, noRun⟩

/--
In a run that closes the loop only while the loop thread is not about to call `uv_run`, the call is
never made on a closed loop.

The condition is exact: whenever `uv_loop_close` is about to succeed, such a call is ruled out for
every continuation precisely if the loop thread does not stand in front of it at that moment.
-/
theorem no_closed_run_iff_unentered_close (poolSize : Nat) (atof : Bytes → Double) :
    (∀ actions, Guarded (step poolSize atof) ClosesUnentered start actions →
        Along (step poolSize atof) NoClosedRun (start : Threads Double) actions) ∧
      ∀ s : Threads Double, Reachable (step poolSize atof) start s → AtClose s →
        ((∀ actions t, run (step poolSize atof) s (.stop :: actions) = some t → NoClosedRun t) ↔
          s.loopThread ≠ .entering) := by
  constructor
  · intro actions guarded
    apply (along_of_guarded _ unenteredBehindClose_step unenteredBehindClose_start guarded).mono
    intro s kept
    exact kept.noRun
  · intro s reached closing
    constructor
    · -- A thread in front of the call makes it in the next step.
      intro safe entering
      have late : s.afterClose.step poolSize atof (.loop .enter) =
          some { s.afterClose with crash := some .ranClosedLoop } := by
        rw [step_loop (by exact closing.1)]
        simp [loopStep, afterClose, entering]
      have ran := run_cons_iff.mpr ⟨_, step_close closing, run_single late⟩
      exact safe [.loop .enter] _ ran rfl
    · intro outside actions t ran
      obtain ⟨next, taken, ran⟩ := run_cons_iff.mp ran
      obtain rfl := Option.some.inj ((step_close closing).symm.trans taken)
      have progress := reachable_invariant _ stopProgress_step stopProgress_start reached
      have unwanted := reachable_invariant _ unwanted_step unwanted_start reached
      have behind : UnenteredBehindClose s.afterClose :=
        ⟨stopProgress_step s .stop _ progress taken, unwanted_step s .stop _ unwanted taken,
          fun _ => outside, by simp [NoClosedRun, afterClose, closing.1]⟩
      have gone : s.afterClose.horseman.loop ≠ .opened := by simp [afterClose]
      -- The loop stays closed, so the guard is met at every further attempt to close it.
      have kept : UnenteredBehindClose t ∧ t.horseman.loop ≠ .opened := by
        refine run_invariant (fun state => UnenteredBehindClose state ∧
          state.horseman.loop ≠ .opened) ?_ ⟨behind, gone⟩ ran
        intro state action next now taken
        refine ⟨unenteredBehindClose_step state action next now.1 ?_ taken,
          loop_gone_step now.2 taken⟩
        intro _ _ _
        exact now.1.outside now.2
      exact kept.1.noRun

/-- `horseman_stop` closes the loop while its thread stands between the loop test and `uv_run`. -/
theorem closed_loop_run :
    ∃ final : Threads Nat, run (step 4 fun _ => 0) start
        [.loop .test, .stop, .stop, .stop, .stop, .stop, .loop .enter] = some final ∧
      final.accepted = [] ∧ ¬ NoClosedRun final := by
  -- No message was ever received, so there was nothing to drain.
  exact run_ends (by decide)

end Ichabod
