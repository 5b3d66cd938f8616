import Ichabod.Proofs.Horseman.Shutdown

/-! No job is queued on a closed loop, as long as the loop is closed behind a quiet receiver. -/

namespace Ichabod

open Interleaving Threads

variable {Double : Type}

/-- `uv_queue_work` has never been called on a loop that was closed or NULL. -/
def NoLateQueue (s : Threads Double) : Prop :=
  s.crash ≠ some .queuedOnClosedLoop

instance (s : Threads Double) : Decidable (NoLateQueue s) :=
  inferInstanceAs (Decidable (_ ≠ _))

/-- `uv_loop_close` is about to succeed. -/
def AtClose (s : Threads Double) : Prop :=
  s.crash = none ∧ s.stopper = .closing ∧ s.waiting = []

variable [Zero Double] {poolSize : Nat} {atof : Bytes → Double}

/-- `uv_loop_close` only succeeds while the receiver cannot come to `uv_queue_work` any more. -/
def ClosesQuietly (atof : Bytes → Double) (s : Threads Double) (action : ThreadAction) : Prop :=
  action = .stop → s.stopper = .closing → s.waiting = [] → s.receiver.mayQueue atof = false

/-- The receiver is quiet behind a closed loop, and nothing has gone wrong yet. -/
structure QuietBehindClose (atof : Bytes → Double) (s : Threads Double) : Prop where
  progress : StopProgress s
  quiet : s.horseman.loop ≠ .opened → s.receiver.mayQueue atof = false
  noLate : NoLateQueue s

/-- A step that does not close the loop keeps the receiver quiet behind a closed one. -/
theorem quiet_of_loop_kept {s t : Threads Double} {action : ThreadAction}
    (behind : QuietBehindClose atof s) (taken : s.step poolSize atof action = some t)
    (kept : t.horseman.loop ≠ .opened → s.horseman.loop ≠ .opened) :
    t.horseman.loop ≠ .opened → t.receiver.mayQueue atof = false := by
  -- The flag that was set before keeps the receiver from starting over.
  intro gone
  have before := kept gone
  exact (quiet_step (behind.progress.flagged before) (behind.quiet before) taken).2

/-- Every step that closes the loop quietly, or not at all, keeps the receiver quiet. -/
theorem quietBehindClose_step (s : Threads Double) (action : ThreadAction) (t : Threads Double)
    (behind : QuietBehindClose atof s) (guard : ClosesQuietly atof s action)
    (taken : s.step poolSize atof action = some t) : QuietBehindClose atof t := by
  -- The loop changes in two steps, and only a receiver that is not quiet can crash on it.
  have progress := stopProgress_step s action t behind.progress taken
  have kept := quiet_of_loop_kept behind taken
  obtain ⟨alive, transition⟩ := step_transition taken
  have noLate : NoLateQueue s := behind.noLate
  cases transition with
  | queueCrash ret asyncMsg stands gone =>
    have quiet := behind.quiet gone
    simp [stands, ReceiverPc.mayQueue] at quiet
  | parseFault msg fault stands parsed => exact ⟨progress, kept id, by simp [NoLateQueue]⟩
  | enterCrash stands gone => exact ⟨progress, kept id, by simp [NoLateQueue]⟩
  | close stands nothing => exact ⟨progress, fun _ => guard rfl stands nothing, noLate⟩
  | null stands =>
    -- The pointer is dropped after the loop it pointed to was closed.
    have gone : s.horseman.loop ≠ .opened := by simp [behind.progress.shut stands]
    exact ⟨progress, fun _ => behind.quiet gone, noLate⟩
  | _ => exact ⟨progress, kept id, noLate⟩

/-- The state in which `uv_loop_close` leaves the process. -/
def Threads.afterClose (s : Threads Double) : Threads Double :=
  { s with
    horseman := { s.horseman with loop := .closed }
    stopper := .nulling }

/-- `uv_loop_close` succeeds where nothing is outstanding. -/
theorem step_close {s : Threads Double} (closing : AtClose s) :
    s.step poolSize atof .stop = some s.afterClose := by
  -- With nothing outstanding, the call has no reason to answer UV_EBUSY.
  obtain ⟨alive, stands, nothing⟩ := closing
  simp [step_stop alive, stopStep, stands, nothing, afterClose]

/-- Behind a closed loop, a receiver that may still queue can crash the process. -/
theorem late_queue_possible {s : Threads Double} (alive : s.crash = none)
    (gone : s.horseman.loop ≠ .opened) (may : s.receiver.mayQueue atof = true) :
    ∃ actions t, run (step poolSize atof) s actions = some t ∧ ¬ NoLateQueue t := by
  -- The receiver comes to the call with the loop as it was left.
  have reaches : ReachesQueueWork poolSize atof s := reaches_of_mayQueue alive may
  obtain ⟨actions, asyncMsg, told, count, ran⟩ := reaches
  have late : (s.atQueueWork asyncMsg told count).step poolSize atof (.receiver (.queueWork 0)) =
      some { s.atQueueWork asyncMsg told count with crash := some .queuedOnClosedLoop } := by
    rw [step_receiver (by exact alive)]
    simp [receiverStep, atQueueWork, gone]
  have ended := run_append_iff.mpr ⟨_, ran, run_single late⟩
  exact ⟨_, _, ended, by simp [NoLateQueue]⟩

/-- Behind a closed loop, a quiet receiver can never crash the process by queueing a job. -/
theorem no_late_queue_of_quiet {s t : Threads Double} {actions : List ThreadAction}
    (behind : QuietBehindClose atof s) (gone : s.horseman.loop ≠ .opened)
    (ran : run (step poolSize atof) s actions = some t) : NoLateQueue t := by
  -- The loop stays closed, so the receiver is quiet at every further attempt to close it.
  have kept : QuietBehindClose atof t ∧ t.horseman.loop ≠ .opened := by
    refine run_invariant (fun state => QuietBehindClose atof state ∧ state.horseman.loop ≠ .opened)
      ?_ ⟨behind, gone⟩ ran
    intro state action next now taken
    refine ⟨quietBehindClose_step state action next now.1 ?_ taken, loop_gone_step now.2 taken⟩
    intro _ _ _
    exact now.1.quiet now.2
  exact kept.1.noLate

/--
In a run that closes the loop only behind a quiet receiver, no job is ever queued on a closed loop.

The condition is exact: whenever `uv_loop_close` is about to succeed, a late call of `uv_queue_work`
is ruled out for every continuation precisely if the receiver is quiet at that moment.
-/
theorem no_late_queue_iff_quiet_close (poolSize : Nat) (atof : Bytes → Double) :
    (∀ actions, Guarded (step poolSize atof) (ClosesQuietly atof) start actions →
        Along (step poolSize atof) NoLateQueue (start : Threads Double) actions) ∧
      ∀ s : Threads Double, Reachable (step poolSize atof) start s → AtClose s →
        ((∀ actions t, run (step poolSize atof) s (.stop :: actions) = some t → NoLateQueue t) ↔
          s.receiver.mayQueue atof = false) := by
  refine ⟨fun actions guarded => ?_, fun s reached closing => ⟨fun safe => ?_, fun quiet => ?_⟩⟩
  · -- The first state has an open loop, and guarded steps keep the receiver quiet behind it.
    have behind : QuietBehindClose atof (start : Threads Double) :=
      ⟨stopProgress_start, fun gone => absurd rfl gone, by simp [NoLateQueue, start]⟩
    exact (along_of_guarded _ quietBehindClose_step behind guarded).mono fun _ kept => kept.noLate
  · by_contra may
    have gone : s.afterClose.horseman.loop ≠ .opened := by simp [afterClose]
    have possible : ∃ actions t, run (step poolSize atof) s.afterClose actions = some t ∧
        ¬ NoLateQueue t := late_queue_possible closing.1 gone (by simpa [afterClose] using may)
    obtain ⟨actions, t, ran, late⟩ := possible
    exact late (safe actions t (run_cons_iff.mpr ⟨_, step_close closing, ran⟩))
  · intro actions t ran
    obtain ⟨next, taken, ran⟩ := run_cons_iff.mp ran
    obtain rfl := Option.some.inj ((step_close closing).symm.trans taken)
    -- Nothing has gone wrong up to here, because the process is still alive.
    have progress : StopProgress s :=
      reachable_invariant _ stopProgress_step stopProgress_start reached
    have behind : QuietBehindClose atof s.afterClose :=
      ⟨stopProgress_step s .stop _ progress taken, fun _ => quiet,
        by simp [NoLateQueue, afterClose, closing.1]⟩
    exact no_late_queue_of_quiet behind (by simp [afterClose]) ran

/-- `horseman_stop` runs through while the receiver waits for a message. -/
def stopDuringReceive : List ThreadAction :=
  [.receiver (.connect 0), .receiver .test] ++
    [.stop, .stop, .stop, .stop, .stop, .stop] ++
    [.receiver (.receive (.message
        ⟨CString.ascii "frame", [CString.ascii "AAAA", CString.ascii "1"]⟩)),
      .receiver .parse, .receiver .increment, .receiver (.queueWork 0)]

/-- A message received after the loop was closed is queued on a NULL loop. -/
theorem job_queued_on_null_loop :
    ∃ final : Threads Nat, run (step 4 fun _ => 0) start stopDuringReceive = some final ∧
      final.stopper = .joiningZmq ∧ final.horseman.loop = .null ∧ ¬ NoLateQueue final := by
  -- Nothing was counted while the loop was drained, so the drain ended at once.
  exact run_ends (by decide)

end Ichabod
