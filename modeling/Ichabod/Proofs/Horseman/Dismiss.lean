import Ichabod.Proofs.Horseman.Drain

/-! A loop thread that is dismissed too early can leave the drain of `horseman_stop` waiting. -/

namespace Ichabod

open Interleaving Threads

variable {Double : Type}

/-- `horseman_stop` is about to clear `is_running`. -/
def AtClear (s : Threads Double) : Prop :=
  s.crash = none ∧ s.stopper = .clearing

/-- The loop thread is dismissed, its loop is still there, and the receiver stands as given. -/
structure WindingDown (receiver : ReceiverPc Double) (s : Threads Double) : Prop where
  alive : s.crash = none
  there : s.horseman.loop = .opened
  cleared : s.horseman.isRunning = false
  stands : s.receiver = receiver

/-- How many steps the loop thread and the pool still have to take at most. -/
def Threads.effort (s : Threads Double) : Nat :=
  5 * s.pending.length + 4 * s.executing.length + 3 * s.reporting.length +
    2 * s.finished.length + match s.loopThread with
    | .exited => 0
    | .testing _ => 1
    | .sleeping _ => 2
    | .running => 3
    | .completing | .entering => 4

variable [Zero Double] {poolSize : Nat} {atof : Bytes → Double}

section WindDown

variable {s : Threads Double} {receiver : ReceiverPc Double}

/-- One step of the loop thread or of the pool brings a dismissed loop thread closer to its end. -/
def Closer (poolSize : Nat) (atof : Bytes → Double) (receiver : ReceiverPc Double)
    (s : Threads Double) : Prop :=
  ∃ action t, s.step poolSize atof action = some t ∧ WindingDown receiver t ∧ t.effort < s.effort

/-- Inside `uv_run`, either a job moves on or the loop thread does. -/
theorem closer_running (workers : 0 < poolSize) (winding : WindingDown receiver s)
    (inside : s.loopThread = .running) : Closer poolSize atof receiver s := by
  -- The oldest finished job comes first, then the jobs in hand, then the queue.
  obtain ⟨alive, there, cleared, stands⟩ := winding
  cases done : s.finished with
  | cons work rest =>
    refine ⟨.loop .complete, { s with loopThread := .completing, finished := rest }, ?_,
      ⟨alive, there, cleared, stands⟩, ?_⟩
    · rw [step_loop alive]
      simp [loopStep, inside, done]
    · simp only [effort, inside, done, List.length_cons]
      omega
  | nil =>
    cases behind : s.reporting with
    | cons work rest =>
      refine ⟨.worker (.report 0), { s with
        reporting := rest, reported := s.reported ++ [work], finished := [work] }, ?_,
        ⟨alive, there, cleared, stands⟩, ?_⟩
      · rw [step_worker alive]
        simp [workerStep, behind, done]
      · simp only [effort, inside, done, behind, List.length_cons, List.length_nil]
        omega
    | nil =>
      cases held : s.executing with
      | cons work rest =>
        refine ⟨.worker (.perform 0), { s with
          executing := rest, performed := s.performed ++ [work], reporting := [work] }, ?_,
          ⟨alive, there, cleared, stands⟩, ?_⟩
        · rw [step_worker alive]
          simp [workerStep, held, behind]
        · simp only [effort, inside, behind, held, List.length_cons, List.length_nil]
          omega
      | nil =>
        cases queued : s.pending with
        | cons work rest =>
          refine ⟨.worker .take, { s with pending := rest, executing := [work] }, ?_,
            ⟨alive, there, cleared, stands⟩, ?_⟩
          · rw [step_worker alive]
            simp [workerStep, queued, held, behind, workers]
          · simp only [effort, inside, held, queued, List.length_cons, List.length_nil]
            omega
        | nil =>
          have nothing : s.waiting = [] :=
            waiting_eq_nil_iff.mpr ⟨queued, held, behind, done⟩
          refine ⟨.loop .leave, { s with loopThread := .sleeping 0 }, ?_,
            ⟨alive, there, cleared, stands⟩, ?_⟩
          · rw [step_loop alive]
            simp [loopStep, inside, nothing]
          · simp only [effort, inside]
            omega

/-- A dismissed loop thread that has not come to its end can always come closer to it. -/
theorem closer_of_inside (workers : 0 < poolSize) (winding : WindingDown receiver s)
    (inside : s.loopThread ≠ .exited) : Closer poolSize atof receiver s := by
  -- Every place outside the run itself has a single way on.
  have settled := winding
  obtain ⟨alive, there, cleared, stands⟩ := winding
  cases place : s.loopThread with
  | testing ret =>
    refine ⟨.loop .test, { s with loopThread := .exited }, ?_, ⟨alive, there, cleared, stands⟩, ?_⟩
    · rw [step_loop alive]
      simp [loopStep, place, cleared]
    · simp only [effort, place]
      omega
  | entering =>
    refine ⟨.loop .enter, { s with loopThread := .running }, ?_,
      ⟨alive, there, cleared, stands⟩, ?_⟩
    · rw [step_loop alive]
      simp [loopStep, place, there]
    · simp only [effort, place]
      omega
  | running => exact closer_running workers settled place
  | completing =>
    refine ⟨.loop .decrement, { s with
      horseman := s.horseman.decrementWorkCount
      loopThread := .running }, ?_, ⟨alive, there, cleared, stands⟩, ?_⟩
    · rw [step_loop alive]
      simp [loopStep, place]
    · simp only [effort, place]
      omega
  | sleeping ret =>
    refine ⟨.loop .wake, { s with loopThread := .testing ret }, ?_,
      ⟨alive, there, cleared, stands⟩, ?_⟩
    · rw [step_loop alive]
      simp [loopStep, place]
    · simp only [effort, place]
      omega
  | exited => exact absurd place inside

/-- A dismissed loop thread can come to its end while the receiver stands still. -/
theorem loop_comes_out (workers : 0 < poolSize) (winding : WindingDown receiver s) :
    ∃ actions t, run (step poolSize atof) s actions = some t ∧ WindingDown receiver t ∧
      t.loopThread = .exited := by
  -- Every step makes the remaining effort smaller.
  induction bound : s.effort using Nat.strong_induction_on generalizing s with
  | _ remaining ih =>
    by_cases outside : s.loopThread = .exited
    · exact ⟨[], s, rfl, winding, outside⟩
    · have closer : Closer poolSize atof receiver s := closer_of_inside workers winding outside
      obtain ⟨action, next, taken, stillWinding, less⟩ := closer
      obtain ⟨actions, t, ran, settled, out⟩ := ih next.effort (bound ▸ less) stillWinding rfl
      exact ⟨action :: actions, t, run_cons_iff.mpr ⟨next, taken, ran⟩, settled, out⟩

/-- Outside `uv_run`, a dismissed loop thread can come to its end without touching any job. -/
theorem loop_abandons (alive : s.crash = none) (cleared : s.horseman.isRunning = false)
    (unserved : s.loopThread.serving = false) :
    ∃ actions, run (step poolSize atof) s actions = some { s with loopThread := .exited } := by
  -- The test finds the flag cleared, with or without waking up first.
  cases place : s.loopThread with
  | testing ret =>
    refine ⟨[.loop .test], ?_⟩
    simp [run, step_loop alive, loopStep, place, cleared]
  | sleeping ret =>
    have taken : s.step poolSize atof (.loop .wake) =
        some { s with loopThread := .testing ret } := by
      rw [step_loop alive]
      simp [loopStep, place]
    refine ⟨[.loop .wake, .loop .test], run_cons_iff.mpr ⟨_, taken, ?_⟩⟩
    have awake : ({ s with loopThread := .testing ret } : Threads Double).crash = none := alive
    simp [run, step_loop awake, loopStep, cleared]
  | exited =>
    refine ⟨[], ?_⟩
    rw [run, ← place]
  | entering | running | completing => simp [place, LoopPc.serving] at unserved

/-- Behind a loop thread that is gone, a receiver that may still queue leaves a job behind. -/
theorem job_left_behind (alive : s.crash = none) (there : s.horseman.loop = .opened)
    (gone : s.loopThread = .exited) (may : s.receiver.mayQueue atof = true) :
    ∃ actions t, run (step poolSize atof) s actions = some t ∧ ¬ Served t := by
  -- The record is accepted, since the loop is open although nobody runs it.
  have reaches : ReachesQueueWork poolSize atof s := reaches_of_mayQueue alive may
  obtain ⟨actions, asyncMsg, told, count, ran⟩ := reaches
  let before : Threads Double := s.atQueueWork asyncMsg told count
  have taken : before.step poolSize atof (.receiver (.queueWork 0)) = some { before with
      receiver := .testing
      accepted := s.accepted ++ [asyncMsg]
      pending := s.pending ++ [⟨s.accepted.length, asyncMsg⟩] } := by
    rw [step_receiver (by exact alive)]
    simp [before, receiverStep, atQueueWork, there]
  refine ⟨_, _, run_append_iff.mpr ⟨_, ran, run_single taken⟩, fun served => ?_⟩
  have delivered := served.delivered gone
  simp [waiting] at delivered

end WindDown

/-- The state in which `horseman_stop` goes over to its drain loop. -/
def Threads.afterClear (s : Threads Double) : Threads Double :=
  { s with
    horseman := { s.horseman with isRunning := false }
    stopper := .draining 0 }

/-- The flag is cleared in one step. -/
theorem step_clear {s : Threads Double} (clearing : AtClear s) :
    s.step poolSize atof .stop = some s.afterClear := by
  -- The store is unconditional.
  obtain ⟨alive, stands⟩ := clearing
  simp [step_stop alive, stopStep, stands, afterClear]

/-- A loop thread that is dismissed too early can leave an accepted job behind. -/
theorem unserved_possible {s : Threads Double} (workers : 0 < poolSize) (progress : StopProgress s)
    (clearing : AtClear s)
    (early : ¬ (s.receiver.mayQueue atof = false ∧
      (s.waiting = [] ∨ s.loopThread.serving = true))) :
    ∃ actions t, run (step poolSize atof) s.afterClear actions = some t ∧ ¬ Served t := by
  -- Either the loop thread goes out first and a job arrives, or a job is there when it goes out.
  have there := progress.opened (by simp [clearing.2, StopPc.beforeClose])
  cases may : s.receiver.mayQueue atof with
  | true =>
    have winding : WindingDown s.receiver s.afterClear := ⟨clearing.1, there, rfl, rfl⟩
    have out : ∃ actions t, run (step poolSize atof) s.afterClear actions = some t ∧
        WindingDown s.receiver t ∧ t.loopThread = .exited := loop_comes_out workers winding
    obtain ⟨first, middle, ran, settled, gone⟩ := out
    have left : ∃ actions t, run (step poolSize atof) middle actions = some t ∧ ¬ Served t :=
      job_left_behind settled.alive settled.there gone (by rw [settled.stands, may])
    obtain ⟨second, t, later, unserved⟩ := left
    exact ⟨first ++ second, t, run_append_iff.mpr ⟨middle, ran, later⟩, unserved⟩
  | false =>
    simp only [may, true_and, not_or] at early
    obtain ⟨busy, idle⟩ := early
    have abandons : ∃ actions, run (step poolSize atof) s.afterClear actions =
        some { s.afterClear with loopThread := .exited } :=
      loop_abandons clearing.1 rfl (by simpa [afterClear] using idle)
    obtain ⟨actions, ran⟩ := abandons
    exact ⟨actions, _, ran, fun served => busy (served.delivered rfl)⟩

/-- Once the flag has been cleared in time, every later state is served. -/
theorem served_of_dismissed {s t : Threads Double} {actions : List ThreadAction}
    (now : DismissedInTime atof s) (cleared : s.horseman.isRunning = false)
    (ran : run (step poolSize atof) s actions = some t) : Served t := by
  -- The flag stays cleared, and so the receiver and the jobs stay settled.
  have kept : DismissedInTime atof t ∧ t.horseman.isRunning = false := by
    refine run_invariant
      (fun state => DismissedInTime atof state ∧ state.horseman.isRunning = false) ?_
      ⟨now, cleared⟩ ran
    intro state action next settled taken
    obtain ⟨_, quiet, served⟩ := settled.1.cleared settled.2
    refine ⟨dismissedInTime_step state action next settled.1 (fun _ _ => ⟨quiet, served⟩) taken, ?_⟩
    exact cleared_step settled.2 taken
  exact kept.1.served

/--
In a run that dismisses the loop thread in time, no accepted job is left without its completion, and
`horseman_stop` never waits for one that no thread can deliver.

The condition is exact: whenever `is_running` is about to be cleared, this is ensured for every
continuation precisely if the receiver is quiet and the waiting jobs are served at that moment.
-/
theorem loop_serves_iff_dismissed_in_time (poolSize : Nat) (atof : Bytes → Double) :
    (∀ actions, Guarded (step poolSize atof) (ClearsServed atof) start actions →
        Along (step poolSize atof) Served (start : Threads Double) actions) ∧
      (0 < poolSize → ∀ s : Threads Double, Reachable (step poolSize atof) start s → AtClear s →
        ((∀ actions t, run (step poolSize atof) s (.stop :: actions) = some t → Served t) ↔
          s.receiver.mayQueue atof = false ∧
            (s.waiting = [] ∨ s.loopThread.serving = true))) := by
  refine ⟨fun actions guarded => ?_, fun workers s reached clearing =>
    ⟨fun safe => ?_, fun settled => ?_⟩⟩
  · have initial : DismissedInTime atof (start : Threads Double) := dismissedInTime_start
    exact (along_of_guarded _ dismissedInTime_step initial guarded).mono fun _ now => now.served
  · by_contra early
    have progress : StopProgress s :=
      reachable_invariant _ stopProgress_step stopProgress_start reached
    have possible : ∃ actions t, run (step poolSize atof) s.afterClear actions = some t ∧
        ¬ Served t := unserved_possible workers progress clearing early
    obtain ⟨actions, t, ran, unserved⟩ := possible
    exact unserved (safe actions t (run_cons_iff.mpr ⟨_, step_clear clearing, ran⟩))
  · intro actions t ran
    obtain ⟨next, taken, ran⟩ := run_cons_iff.mp ran
    obtain rfl := Option.some.inj ((step_clear clearing).symm.trans taken)
    -- What every reachable state satisfies carries over the step that clears the flag.
    have progress : StopProgress s :=
      reachable_invariant _ stopProgress_step stopProgress_start reached
    have looping : LoopProgress s :=
      reachable_invariant _ loopProgress_step loopProgress_start reached
    have bounded : s.horseman.getWorkCount ≤ s.outstanding :=
      reachable_invariant (fun state => state.horseman.getWorkCount ≤ state.outstanding)
        workCount_le_step workCount_le_start reached
    have told := progress.interrupted (by simp [clearing.2, StopPc.interrupted])
    have now : DismissedInTime atof s.afterClear :=
      ⟨stopProgress_step s .stop _ progress taken, loopProgress_step s .stop _ looping taken,
        bounded, fun _ => ⟨told, settled⟩⟩
    exact served_of_dismissed now rfl ran

/-- `horseman_stop` is in its drain loop, and both threads it counts on are gone. -/
structure Abandoned (s : Threads Double) : Prop where
  gone : s.loopThread = .exited
  deaf : s.receiver = .exited
  waits : ∃ drainCount, drainCount < 1000 ∧ s.stopper = .draining drainCount
  counted : 0 < s.horseman.getWorkCount

/-- Nothing that can still happen ends the drain loop. -/
theorem abandoned_step (s : Threads Double) (action : ThreadAction) (t : Threads Double)
    (now : Abandoned s) (taken : s.step poolSize atof action = some t) : Abandoned t := by
  -- Only the pool moves, and the count is not its to change.
  obtain ⟨_, transition⟩ := step_transition taken
  obtain ⟨gone, deaf, ⟨drainCount, below, waits⟩, counted⟩ := now
  cases transition with
  | take work rest queued idle | perform slot work held | report slot work held =>
    exact ⟨gone, deaf, ⟨drainCount, below, waits⟩, counted⟩
  | drainWait drains stands more => exact ⟨gone, deaf, ⟨drainCount, below, waits⟩, counted⟩
  | drainEnd drains stands drained =>
    obtain rfl : drainCount = drains := by simpa [waits] using stands
    exact absurd ⟨counted, below⟩ drained
  | _ => simp_all

/-- `horseman_stop` is called while the loop thread sleeps and a frame has just been queued. -/
def stopDuringSleep : List ThreadAction :=
  [.receiver (.connect 0), .loop .test, .loop .enter, .loop .leave,
    .receiver .test,
    .receiver (.receive (.message
      ⟨CString.ascii "frame", [CString.ascii "AAAA", CString.ascii "1"]⟩)),
    .receiver .parse, .receiver .increment, .receiver (.queueWork 0),
    .stop, .stop, .stop,
    .receiver .test, .loop .wake, .loop .test, .worker .take, .worker (.perform 0),
    .worker (.report 0)]

/-- The loop thread has gone out with a job waiting, and `horseman_stop` drains for ever. -/
theorem drain_waits_for_ever :
    ∃ final : Threads Nat, run (step 4 fun _ => 0) start stopDuringSleep = some final ∧
      ¬ Served final ∧
      ∀ actions t, run (step 4 fun _ => 0) final actions = some t → StopWaits t := by
  -- The job was queued after the last `uv_run`, and `is_running` was cleared before the next one.
  have ended : ∃ final : Threads Nat,
      run (step 4 fun _ => 0) start stopDuringSleep = some final ∧
        final.loopThread = .exited ∧ final.receiver = .exited ∧ final.stopper = .draining 0 ∧
        0 < final.horseman.getWorkCount ∧ final.waiting ≠ [] := run_ends (by decide)
  obtain ⟨final, ran, gone, deaf, waits, counted, busy⟩ := ended
  refine ⟨final, ran, fun served => busy (served.delivered gone), fun actions t later => ?_⟩
  have abandoned : Abandoned final := ⟨gone, deaf, ⟨0, by omega, waits⟩, counted⟩
  obtain ⟨_, _, ⟨drainCount, _, stands⟩, stillCounted⟩ :=
    run_invariant Abandoned abandoned_step abandoned later
  exact .inl ⟨drainCount, stands, stillCounted⟩

end Ichabod
