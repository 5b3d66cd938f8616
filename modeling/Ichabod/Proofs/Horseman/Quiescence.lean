import Ichabod.Proofs.Horseman.Drain
import Ichabod.Proofs.Horseman.Refinement

/-! What can no longer happen behind an end of stream, and behind `horseman_stop`. -/

namespace Ichabod

open Interleaving Threads

variable {Double : Type}

/-- How far the threads have come at each place that `horseman_stop` has reached. -/
structure StopEnds (s : Threads Double) : Prop where
  /-- The function never returns early, because a started horseman is running. -/
  wanted : s.stopper = .idle → s.horseman.isRunning = true
  /-- Nothing is outstanding on a closed loop. -/
  shut : s.stopper.beforeClose = false → s.waiting = [] ∧ s.horseman.loop ≠ .opened
  /-- The pointer to the loop is dropped before any thread is joined. -/
  dropped : s.stopper = .joiningZmq ∨ s.stopper = .joiningLoop ∨ s.stopper = .returned →
    s.horseman.loop = .null
  /-- The receiver thread is joined first. -/
  received : s.stopper = .joiningLoop ∨ s.stopper = .returned → s.receiver = .exited
  /-- The loop thread is joined second. -/
  looped : s.stopper = .returned → s.loopThread = .exited

/-- An accepted end of stream is the last job, and the receiver can queue nothing behind it. -/
structure EosLast [Zero Double] (atof : Bytes → Double) (s : Threads Double) : Prop where
  /-- The flag is set before an end of stream is counted. -/
  told : ∀ asyncMsg, s.receiver = .counting asyncMsg ∨ s.receiver = .queueing asyncMsg →
    asyncMsg.isEos = true → s.horseman.isInterrupted = true
  /-- The receiver is on its way out. -/
  quiet : (∃ record ∈ s.accepted, record.isEos = true) →
    s.horseman.isInterrupted = true ∧ s.receiver.mayQueue atof = false
  /-- Nothing was accepted behind it. -/
  last : ∀ earlier record later, s.accepted = earlier ++ record :: later → record.isEos = true →
    later = []

/-- Nothing has ended in a horseman that was just started. -/
theorem stopEnds_start : StopEnds (start : Threads Double) := by
  constructor <;> simp [start, StopPc.beforeClose, Horseman.started]

variable [Zero Double] {poolSize : Nat} {atof : Bytes → Double}

section Steps

variable {s t : Threads Double} {action : ThreadAction}

/-- A receiver thread that has returned stays where it is. -/
theorem receiver_gone_step (gone : s.receiver = .exited)
    (taken : s.step poolSize atof action = some t) : t.receiver = .exited := by
  -- Each of its steps starts from somewhere else.
  obtain ⟨_, transition⟩ := step_transition taken
  cases transition with
  | connect ret stands => simp [gone] at stands
  | quit stands flag => rfl
  | await stands flag => simp [gone] at stands
  | receiveNone arrival later stands received => simp [gone] at stands
  | receiveSome arrival msg later stands received => simp [gone] at stands
  | parseNone msg stands parsed => simp [gone] at stands
  | parseSome msg asyncMsg stands parsed => simp [gone] at stands
  | interrupt asyncMsg stands => simp [gone] at stands
  | increment asyncMsg stands => simp [gone] at stands
  | reject ret asyncMsg stands there refused => simp [gone] at stands
  | accept asyncMsg stands there => simp [gone] at stands
  | uncountRejected stands => simp [gone] at stands
  | _ => exact gone

/-- A loop thread that has returned stays where it is. -/
theorem loopThread_gone_step (gone : s.loopThread = .exited)
    (taken : s.step poolSize atof action = some t) : t.loopThread = .exited := by
  -- Each of its steps starts from somewhere else.
  obtain ⟨_, transition⟩ := step_transition taken
  cases transition with
  | goOn ret stands flag => simp [gone] at stands
  | goOut ret stands flag => rfl
  | enter stands there => simp [gone] at stands
  | complete work rest stands done => simp [gone] at stands
  | uncountCompleted stands => simp [gone] at stands
  | leave stands nothing => simp [gone] at stands
  | wake ret stands => simp [gone] at stands
  | _ => exact gone

/-- Behind a closed loop, nothing becomes outstanding any more. -/
theorem waiting_nil_step (nothing : s.waiting = []) (gone : s.horseman.loop ≠ .opened)
    (taken : s.step poolSize atof action = some t) : t.waiting = [] := by
  -- A job is only accepted on an open loop, and there is none to move on.
  obtain ⟨_, transition⟩ := step_transition taken
  obtain ⟨noPending, noExecuting, noReporting, noFinished⟩ := waiting_eq_nil_iff.mp nothing
  cases transition with
  | accept asyncMsg stands there => exact absurd there gone
  | take work rest queued idle => simp [noPending] at queued
  | perform slot work held => simp [noExecuting] at held
  | report slot work held => simp [noReporting] at held
  | complete work rest stands done => simp [noFinished] at done
  | _ => exact nothing

/-- Only `horseman_stop` moves on in itself, and only it stores to the flag and the loop. -/
theorem otherThread_step (other : action ≠ .stop) (taken : s.step poolSize atof action = some t) :
    t.stopper = s.stopper ∧ t.horseman.loop = s.horseman.loop ∧
      t.horseman.isRunning = s.horseman.isRunning := by
  -- The transitions of the function itself are the only ones that touch the three.
  obtain ⟨_, transition⟩ := step_transition taken
  cases transition with
  | stopCall | stopInterrupt | stopClear | drainWait | drainEnd | closeBusy | close | null
  | joinZmq | joinLoop => exact absurd rfl other
  | _ => exact ⟨rfl, rfl, rfl⟩

/-- Once both threads are joined and nothing is outstanding, no thread can take a step. -/
theorem no_step_of_joined (stopped : s.stopper = .returned) (received : s.receiver = .exited)
    (looped : s.loopThread = .exited) (nothing : s.waiting = []) :
    s.step poolSize atof action = none := by
  -- A step would be one of the transitions, and each of them needs something that is gone.
  cases taken : s.step poolSize atof action with
  | none => rfl
  | some t =>
    obtain ⟨_, transition⟩ := step_transition taken
    obtain ⟨noPending, noExecuting, noReporting, noFinished⟩ := waiting_eq_nil_iff.mp nothing
    cases transition with
    | take work rest queued idle => simp [noPending] at queued
    | perform slot work held => simp [noExecuting] at held
    | report slot work held => simp [noReporting] at held
    | goOn ret stands flag => simp [looped] at stands
    | goOut ret stands flag => simp [looped] at stands
    | enterCrash stands gone => simp [looped] at stands
    | enter stands there => simp [looped] at stands
    | complete work rest stands done => simp [looped] at stands
    | uncountCompleted stands => simp [looped] at stands
    | leave stands nothing => simp [looped] at stands
    | wake ret stands => simp [looped] at stands
    | connect _ stands | quit stands | await stands | receiveNone _ _ stands
    | receiveSome _ _ _ stands | parseFault _ _ stands | parseNone _ stands
    | parseSome _ _ stands | interrupt _ stands | increment _ stands | queueCrash _ _ stands
    | reject _ _ stands | accept _ stands | uncountRejected stands => simp [received] at stands
    | stopCall stands | stopInterrupt stands | stopClear stands | drainWait _ stands
    | drainEnd _ stands | closeBusy stands | close stands | null stands | joinZmq stands
    | joinLoop stands => simp [stopped] at stands

end Steps

/-- Every step keeps the threads as far as `horseman_stop` relies on it. -/
theorem stopEnds_step (s : Threads Double) (action : ThreadAction) (t : Threads Double)
    (ends : StopEnds s) (taken : s.step poolSize atof action = some t) : StopEnds t := by
  by_cases stops : action = .stop
  · -- Each step of the function itself leads to the next place, where more is relied on.
    obtain ⟨wanted, shut, dropped, received, looped⟩ := ends
    obtain ⟨_, transition⟩ := step_transition taken
    cases transition with
    | stopCall stands =>
      have running := wanted stands
      constructor <;> simp [running, StopPc.beforeClose]
    | stopInterrupt stands => constructor <;> simp [StopPc.beforeClose]
    | stopClear stands => constructor <;> simp [StopPc.beforeClose]
    | drainWait drainCount stands counted => exact ⟨wanted, shut, dropped, received, looped⟩
    | drainEnd drainCount stands drained => constructor <;> simp [StopPc.beforeClose]
    | closeBusy stands busy => exact ⟨wanted, shut, dropped, received, looped⟩
    | close stands nothing =>
      have gone : LoopHandle.closed ≠ .opened := by decide
      refine ⟨?_, fun _ => ⟨nothing, gone⟩, ?_, ?_, ?_⟩ <;> simp
    | null stands =>
      have nothing := (shut (by rw [stands]; rfl)).1
      have gone : LoopHandle.null ≠ .opened := by decide
      refine ⟨?_, fun _ => ⟨nothing, gone⟩, ?_, ?_, ?_⟩ <;> simp
    | joinZmq stands ended =>
      have settled := shut (by rw [stands]; rfl)
      have null := dropped (.inl stands)
      refine ⟨?_, fun _ => settled, ?_, ?_, ?_⟩ <;> simp [null, ended]
    | joinLoop stands ended =>
      have settled := shut (by rw [stands]; rfl)
      have null := dropped (.inr (.inl stands))
      have gone := received (.inl stands)
      refine ⟨?_, fun _ => settled, ?_, ?_, ?_⟩ <;> simp [null, gone, ended]
    | _ => simp at stops
  · -- The other threads stay out of the way of what has been reached.
    obtain ⟨place, loop, running⟩ := otherThread_step stops taken
    constructor
    · rw [place, running]
      exact ends.wanted
    · rw [place, loop]
      intro closed
      obtain ⟨nothing, gone⟩ := ends.shut closed
      exact ⟨waiting_nil_step nothing gone taken, gone⟩
    · rw [place, loop]
      exact ends.dropped
    · rw [place]
      exact fun joined => receiver_gone_step (ends.received joined) taken
    · rw [place]
      exact fun returned => loopThread_gone_step (ends.looped returned) taken

/--
Once `horseman_stop` has returned, both threads are gone, the loop is dropped, every accepted job
was performed and completed, and no thread takes another step.
-/
theorem horsemanStop_leaves_nothing (poolSize : Nat) (atof : Bytes → Double)
    (actions : List ThreadAction) (final : Threads Double)
    (ran : run (step poolSize atof) start actions = some final)
    (returned : final.stopper = .returned) :
    (∀ action, final.step poolSize atof action = none) ∧
      final.receiver = .exited ∧ final.loopThread = .exited ∧ final.horseman.loop = .null ∧
      final.performed.Perm (numbered final.accepted) ∧
      final.performed.length = actions.count (.loop .complete) := by
  have ends := run_invariant StopEnds stopEnds_step stopEnds_start ran
  have received := ends.received (.inr returned)
  have looped := ends.looped returned
  obtain ⟨nothing, -⟩ := ends.shut (by rw [returned]; rfl)
  refine ⟨fun action => no_step_of_joined returned received looped nothing, received, looped,
    ends.dropped (.inr (.inr returned)), ?_⟩
  -- With no job waiting, the performed jobs are all the accepted ones, and all are completed.
  obtain ⟨noPending, noExecuting, noReporting, noFinished⟩ := waiting_eq_nil_iff.mp nothing
  obtain ⟨places, reports, completed, reported, counted⟩ :=
    jobs_accounted poolSize atof actions final ran
  rw [noPending, noExecuting, List.append_nil, List.append_nil] at places
  rw [ReportSplit, noReporting, List.append_nil] at reports
  rw [noFinished, List.append_nil] at reported
  refine ⟨places, ?_⟩
  rw [← reports.length_eq, reported, counted]

/-- One frame is received and performed, and then the horseman is stopped. -/
def frameThenStop : List ThreadAction :=
  [.receiver (.connect 0), .receiver .test,
    .receiver (.receive (.message
      ⟨CString.ascii "frame", [CString.ascii "AAAA", CString.ascii "1"]⟩)),
    .receiver .parse, .receiver .increment, .receiver (.queueWork 0), .loop .test, .loop .enter,
    .worker .take, .worker (.perform 0), .worker (.report 0), .loop .complete, .loop .decrement,
    .loop .leave] ++
    [.stop, .stop, .stop, .receiver .test, .loop .wake, .loop .test] ++
    [.stop, .stop, .stop, .stop, .stop]

/-- The stop of a horseman that has performed its only job leaves nothing behind. -/
theorem frameThenStop_leaves_nothing :
    ∃ final : Threads Nat, run (step 4 fun _ => 0) start frameThenStop = some final ∧
      final.stopper = .returned ∧
      (∀ action, final.step 4 (fun _ => 0) action = none) ∧
      final.receiver = .exited ∧ final.loopThread = .exited ∧ final.horseman.loop = .null ∧
      final.performed.Perm (numbered final.accepted) ∧
      final.performed.length = frameThenStop.count (.loop .complete) := by
  obtain ⟨final, ran, returned⟩ : ∃ final : Threads Nat,
      run (step 4 fun _ => 0) start frameThenStop = some final ∧ final.stopper = .returned :=
    run_ends (by decide)
  exact ⟨final, ran, returned,
    horsemanStop_leaves_nothing 4 (fun _ => 0) frameThenStop final ran returned⟩

section EndOfStream

/-- Nothing was accepted at the start. -/
theorem eosLast_start : EosLast atof (start : Threads Double) := by
  constructor
  · intro asyncMsg place
    simp [start] at place
  · intro accepted
    simp [start] at accepted
  · intro earlier record later split
    simp [start] at split

/-- A step either leaves the accepted records as they are, or accepts the one in hand. -/
theorem accepted_step {s t : Threads Double} {action : ThreadAction}
    (taken : s.step poolSize atof action = some t) :
    t.accepted = s.accepted ∨
      ∃ asyncMsg, s.receiver = .queueing asyncMsg ∧ t.accepted = s.accepted ++ [asyncMsg] ∧
        t.receiver = .testing ∧ t.horseman.isInterrupted = s.horseman.isInterrupted := by
  -- There is one transition that accepts.
  obtain ⟨_, transition⟩ := step_transition taken
  cases transition with
  | accept asyncMsg stands there => exact .inr ⟨asyncMsg, stands, rfl, rfl, rfl⟩
  | _ => exact .inl rfl

/-- Every step keeps the flag set for an end of stream that was counted. -/
theorem told_step {s t : Threads Double} {action : ThreadAction} (last : EosLast atof s)
    (taken : s.step poolSize atof action = some t) :
    ∀ asyncMsg, t.receiver = .counting asyncMsg ∨ t.receiver = .queueing asyncMsg →
      asyncMsg.isEos = true → t.horseman.isInterrupted = true := by
  -- An end of stream comes to be counted only from the step that sets the flag.
  obtain ⟨_, transition⟩ := step_transition taken
  intro record place eos
  cases transition with
  | connect ret stands => by_cases failed : ret ≠ 0 <;> simp [failed] at place
  | quit stands flag => simp at place
  | await stands flag => simp at place
  | receiveNone arrival later stands received => simp at place
  | receiveSome arrival msg later stands received => simp at place
  | parseNone msg stands parsed => simp at place
  | parseSome msg asyncMsg stands parsed =>
    cases ends : asyncMsg.isEos with
    | true => simp [ends] at place
    | false =>
      simp only [ends, Bool.false_eq_true, if_false, ReceiverPc.counting.injEq, reduceCtorEq,
        or_false] at place
      rw [place, eos] at ends
      cases ends
  | interrupt asyncMsg stands => rfl
  | increment asyncMsg stands =>
    obtain rfl : asyncMsg = record := by simpa using place
    exact last.told asyncMsg (.inl stands) eos
  | reject ret asyncMsg stands there refused => simp at place
  | accept asyncMsg stands there => simp at place
  | uncountRejected stands => simp at place
  | stopInterrupt stands => rfl
  | _ => exact last.told record place eos

/-- Every step keeps an accepted end of stream the last job. -/
theorem eosLast_step (s : Threads Double) (action : ThreadAction) (t : Threads Double)
    (now : EosLast atof s) (taken : s.step poolSize atof action = some t) : EosLast atof t := by
  refine ⟨told_step now taken, ?_, ?_⟩
  · intro accepted
    rcases accepted_step taken with same | ⟨asyncMsg, stands, grown, place, flag⟩
    · rw [same] at accepted
      obtain ⟨told, quiet⟩ := now.quiet accepted
      exact quiet_step told quiet taken
    · -- The record in hand is the one that ends the stream, because there was none before.
      obtain ⟨record, member, eos⟩ := accepted
      rw [grown, List.mem_append, List.mem_singleton] at member
      rcases member with old | rfl
      · obtain ⟨-, quiet⟩ := now.quiet ⟨record, old, eos⟩
        simp [stands, ReceiverPc.mayQueue] at quiet
      · rw [flag, place]
        exact ⟨now.told record (.inr stands) eos, rfl⟩
  · intro earlier record later split eos
    rcases accepted_step taken with same | ⟨asyncMsg, stands, grown, place, flag⟩
    · exact now.last earlier record later (same.symm.trans split) eos
    · rw [grown] at split
      rcases List.eq_nil_or_concat later with rfl | ⟨front, last, rfl⟩
      · rfl
      · -- Otherwise the end of stream was accepted before, and the receiver was quiet already.
        have whole : s.accepted ++ [asyncMsg] = (earlier ++ record :: front) ++ [last] := by
          simpa using split
        have before := (List.append_inj' whole rfl).1
        have member : record ∈ s.accepted := by
          rw [before]
          simp
        obtain ⟨-, quiet⟩ := now.quiet ⟨record, member, eos⟩
        simp [stands, ReceiverPc.mayQueue] at quiet

/-- A receiver that was told to stop, and cannot queue any more, takes no further message. -/
theorem no_message_of_quiet {s t : Threads Double} {actions : List ThreadAction}
    (told : s.horseman.isInterrupted = true) (quiet : s.receiver.mayQueue atof = false)
    (ran : run (step poolSize atof) s actions = some t) :
    t.accepted = s.accepted ∧ receivedMessages actions = [] := by
  -- It stays told and quiet, and a receiver at its receive would not be quiet.
  induction actions generalizing s with
  | nil =>
    obtain rfl : s = t := Option.some.inj ran
    exact ⟨rfl, rfl⟩
  | cons action rest ih =>
    obtain ⟨next, taken, ran⟩ := run_cons_iff.mp ran
    obtain ⟨stillTold, stillQuiet⟩ := quiet_step told quiet taken
    obtain ⟨accepted, messages⟩ := ih stillTold stillQuiet ran
    constructor
    · rcases accepted_step taken with same | ⟨asyncMsg, stands, -⟩
      · rw [accepted, same]
      · simp [stands, ReceiverPc.mayQueue] at quiet
    · have none : action.message? = none := by
        obtain ⟨_, transition⟩ := step_transition taken
        cases transition with
        | receiveNone arrival later stands received =>
          simp [stands, ReceiverPc.mayQueue] at quiet
        | receiveSome arrival msg later stands received =>
          simp [stands, ReceiverPc.mayQueue] at quiet
        | _ => rfl
      rw [receivedMessages, List.filterMap_cons, none]
      exact messages

/--
Once an end of stream was accepted, it is the last accepted job and the only one of its kind, and
whatever the threads do from there on, no job is accepted and no message is received behind it.
-/
theorem eos_accepted_last (poolSize : Nat) (atof : Bytes → Double)
    (actions : List ThreadAction) (middle : Threads Double)
    (ran : run (step poolSize atof) start actions = some middle)
    (ended : ∃ record ∈ middle.accepted, record.isEos = true) :
    (∃ earlier record, middle.accepted = earlier ++ [record] ∧ record.isEos = true ∧
        ∀ other ∈ earlier, other.isEos = false) ∧
      ∀ later final, run (step poolSize atof) middle later = some final →
        final.accepted = middle.accepted ∧ receivedMessages later = [] := by
  have last := run_invariant (EosLast atof) eosLast_step eosLast_start ran
  constructor
  · obtain ⟨record, member, eos⟩ := ended
    obtain ⟨earlier, later, split⟩ := List.append_of_mem member
    obtain rfl := last.last earlier record later split eos
    refine ⟨earlier, record, split, eos, ?_⟩
    intro other inside
    -- Another end of stream in front would have to be the last job itself.
    obtain ⟨front, behind, before⟩ := List.append_of_mem inside
    rw [before, List.append_assoc] at split
    by_contra ends
    have nothing := last.last front other (behind ++ [record]) split (by simpa using ends)
    simp at nothing
  · intro later final ranLater
    obtain ⟨told, quiet⟩ := last.quiet ended
    exact no_message_of_quiet told quiet ranLater

/-- Behind the end of stream of the overtaking workers, nothing more is accepted. -/
theorem overtakingWorkers_eos_last :
    ∃ middle : Threads Nat, run (step 2 fun _ => 0) start overtakingWorkers = some middle ∧
      (∃ record ∈ middle.accepted, record.isEos = true) ∧
      (∃ earlier record, middle.accepted = earlier ++ [record] ∧ record.isEos = true ∧
        ∀ other ∈ earlier, other.isEos = false) ∧
      ∀ later final, run (step 2 fun _ => 0) middle later = some final →
        final.accepted = middle.accepted ∧ receivedMessages later = [] := by
  obtain ⟨middle, ran, ended⟩ : ∃ middle : Threads Nat,
      run (step 2 fun _ => 0) start overtakingWorkers = some middle ∧
        ∃ record ∈ middle.accepted, record.isEos = true := run_ends (by decide)
  exact ⟨middle, ran, ended,
    eos_accepted_last 2 (fun _ => 0) overtakingWorkers middle ran ended⟩

end EndOfStream

end Ichabod
