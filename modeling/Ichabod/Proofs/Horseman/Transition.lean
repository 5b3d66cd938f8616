import Ichabod.Horseman.Threads
import Ichabod.Lib.Interleaving

/-! What one step of the horseman's threads can do, stated once for every invariant. -/

namespace Ichabod

variable {Double : Type} [Zero Double]

open Threads

/-- The steps of the process, with what each one requires and changes. -/
inductive Transition (poolSize : Nat) (atof : Bytes → Double) (s : Threads Double) :
    ThreadAction → Threads Double → Prop where
  /-- The socket is connected, or the receiver gives up. -/
  | connect (ret : Int) (stands : s.receiver = .connecting) :
      Transition poolSize atof s (.receiver (.connect ret))
        { s with receiver := if ret ≠ 0 then .exited else .testing }
  /-- The receiver finds the flag set. -/
  | quit (stands : s.receiver = .testing) (flag : s.horseman.isInterrupted = true) :
      Transition poolSize atof s (.receiver .test) { s with receiver := .exited }
  /-- The receiver finds the flag cleared. -/
  | await (stands : s.receiver = .testing) (flag : s.horseman.isInterrupted = false) :
      Transition poolSize atof s (.receiver .test) { s with receiver := .receiving }
  /-- The receive timeout passes. -/
  | receiveNone (arrival : Arrival) (later : List RecvOutcome) (stands : s.receiver = .receiving)
      (received : receiveMessage [none] arrival.outcomes = some (none, later)) :
      Transition poolSize atof s (.receiver (.receive arrival)) { s with receiver := .testing }
  /-- A message is received. -/
  | receiveSome (arrival : Arrival) (msg : Envelope) (later : List RecvOutcome)
      (stands : s.receiver = .receiving)
      (received : receiveMessage [none] arrival.outcomes = some (some msg, later)) :
      Transition poolSize atof s (.receiver (.receive arrival))
        { s with receiver := .parsing msg }
  /-- The message cannot be parsed. -/
  | parseFault (msg : Envelope) (fault : Fault) (stands : s.receiver = .parsing msg)
      (parsed : parseDispatch atof msg = .error fault) :
      Transition poolSize atof s (.receiver .parse) { s with crash := some (.parser fault) }
  /-- The message asks for nothing. -/
  | parseNone (msg : Envelope) (stands : s.receiver = .parsing msg)
      (parsed : parseDispatch atof msg = .ok none) :
      Transition poolSize atof s (.receiver .parse) { s with receiver := .testing }
  /-- The message asks for a job. -/
  | parseSome (msg : Envelope) (asyncMsg : MsgDispatch Double)
      (stands : s.receiver = .parsing msg)
      (parsed : parseDispatch atof msg = .ok (some asyncMsg)) :
      Transition poolSize atof s (.receiver .parse)
        { s with
          receiver := if asyncMsg.isEos then .interrupting asyncMsg else .counting asyncMsg }
  /-- An end-of-stream frame sets the flag. -/
  | interrupt (asyncMsg : MsgDispatch Double) (stands : s.receiver = .interrupting asyncMsg) :
      Transition poolSize atof s (.receiver .interrupt)
        { s with
          horseman := { s.horseman with isInterrupted := true }
          receiver := .counting asyncMsg }
  /-- The dispatch is counted. -/
  | increment (asyncMsg : MsgDispatch Double) (stands : s.receiver = .counting asyncMsg) :
      Transition poolSize atof s (.receiver .increment)
        { s with
          horseman := s.horseman.incrementWorkCount
          receiver := .queueing asyncMsg }
  /-- The job is queued on a loop that is not there. -/
  | queueCrash (ret : Int) (asyncMsg : MsgDispatch Double)
      (stands : s.receiver = .queueing asyncMsg) (gone : s.horseman.loop ≠ .opened) :
      Transition poolSize atof s (.receiver (.queueWork ret))
        { s with crash := some .queuedOnClosedLoop }
  /-- The job is rejected. -/
  | reject (ret : Int) (asyncMsg : MsgDispatch Double)
      (stands : s.receiver = .queueing asyncMsg) (there : s.horseman.loop = .opened)
      (refused : ret ≠ 0) :
      Transition poolSize atof s (.receiver (.queueWork ret)) { s with receiver := .rejected }
  /-- The job is accepted and becomes the last one in the queue. -/
  | accept (asyncMsg : MsgDispatch Double) (stands : s.receiver = .queueing asyncMsg)
      (there : s.horseman.loop = .opened) :
      Transition poolSize atof s (.receiver (.queueWork 0))
        { s with
          receiver := .testing
          accepted := s.accepted ++ [asyncMsg]
          pending := s.pending ++ [⟨s.accepted.length, asyncMsg⟩] }
  /-- A rejected dispatch is taken out of the count. -/
  | uncountRejected (stands : s.receiver = .rejected) :
      Transition poolSize atof s (.receiver .decrement)
        { s with
          horseman := s.horseman.decrementWorkCount
          receiver := .testing }
  /-- A worker takes the job at the head of the queue. -/
  | take (work : Work Double) (rest : List (Work Double)) (queued : s.pending = work :: rest)
      (idle : s.executing.length + s.reporting.length < poolSize) :
      Transition poolSize atof s (.worker .take)
        { s with pending := rest, executing := s.executing ++ [work] }
  /-- A job has its effect. -/
  | perform (slot : Nat) (work : Work Double) (held : s.executing[slot]? = some work) :
      Transition poolSize atof s (.worker (.perform slot))
        { s with
          executing := s.executing.eraseIdx slot
          performed := s.performed ++ [work]
          reporting := s.reporting ++ [work] }
  /-- A job is reported to the loop. -/
  | report (slot : Nat) (work : Work Double) (held : s.reporting[slot]? = some work) :
      Transition poolSize atof s (.worker (.report slot))
        { s with
          reporting := s.reporting.eraseIdx slot
          reported := s.reported ++ [work]
          finished := s.finished ++ [work] }
  /-- The loop thread is still wanted. -/
  | goOn (ret : Int) (stands : s.loopThread = .testing ret)
      (flag : s.horseman.isRunning = true) :
      Transition poolSize atof s (.loop .test) { s with loopThread := .entering }
  /-- The loop thread leaves its loop. -/
  | goOut (ret : Int) (stands : s.loopThread = .testing ret)
      (flag : s.horseman.isRunning = false ∨ ret ≠ 0) :
      Transition poolSize atof s (.loop .test) { s with loopThread := .exited }
  /-- The loop is run although it is not there. -/
  | enterCrash (stands : s.loopThread = .entering) (gone : s.horseman.loop ≠ .opened) :
      Transition poolSize atof s (.loop .enter) { s with crash := some .ranClosedLoop }
  /-- The loop is run. -/
  | enter (stands : s.loopThread = .entering) (there : s.horseman.loop = .opened) :
      Transition poolSize atof s (.loop .enter) { s with loopThread := .running }
  /-- The after callback of a finished job begins. -/
  | complete (work : Work Double) (rest : List (Work Double)) (stands : s.loopThread = .running)
      (done : s.finished = work :: rest) :
      Transition poolSize atof s (.loop .complete)
        { s with loopThread := .completing, finished := rest }
  /-- A completed dispatch is taken out of the count. -/
  | uncountCompleted (stands : s.loopThread = .completing) :
      Transition poolSize atof s (.loop .decrement)
        { s with
          horseman := s.horseman.decrementWorkCount
          loopThread := .running }
  /-- The loop has nothing left to wait for. -/
  | leave (stands : s.loopThread = .running) (nothing : s.waiting = []) :
      Transition poolSize atof s (.loop .leave) { s with loopThread := .sleeping 0 }
  /-- The loop thread has slept. -/
  | wake (ret : Int) (stands : s.loopThread = .sleeping ret) :
      Transition poolSize atof s (.loop .wake) { s with loopThread := .testing ret }
  /-- `horseman_stop` is called, and goes on or returns at once. -/
  | stopCall (stands : s.stopper = .idle) :
      Transition poolSize atof s .stop
        { s with stopper := if s.horseman.isRunning then .interrupting else .returned }
  /-- `horseman_stop` sets `is_interrupted`. -/
  | stopInterrupt (stands : s.stopper = .interrupting) :
      Transition poolSize atof s .stop
        { s with
          horseman := { s.horseman with isInterrupted := true }
          stopper := .clearing }
  /-- `horseman_stop` clears `is_running`. -/
  | stopClear (stands : s.stopper = .clearing) :
      Transition poolSize atof s .stop
        { s with
          horseman := { s.horseman with isRunning := false }
          stopper := .draining 0 }
  /-- The drain loop sleeps. -/
  | drainWait (drainCount : Nat) (stands : s.stopper = .draining drainCount)
      (counted : 0 < s.horseman.getWorkCount ∧ drainCount < 1000) :
      Transition poolSize atof s .stop s
  /-- The drain loop ends. -/
  | drainEnd (drainCount : Nat) (stands : s.stopper = .draining drainCount)
      (drained : ¬ (0 < s.horseman.getWorkCount ∧ drainCount < 1000)) :
      Transition poolSize atof s .stop { s with stopper := .closing }
  /-- The loop cannot be closed yet. -/
  | closeBusy (stands : s.stopper = .closing) (busy : s.waiting ≠ []) :
      Transition poolSize atof s .stop s
  /-- The loop is closed. -/
  | close (stands : s.stopper = .closing) (nothing : s.waiting = []) :
      Transition poolSize atof s .stop
        { s with
          horseman := { s.horseman with loop := .closed }
          stopper := .nulling }
  /-- The pointer to the loop is dropped. -/
  | null (stands : s.stopper = .nulling) :
      Transition poolSize atof s .stop
        { s with
          horseman := { s.horseman with loop := .null }
          stopper := .joiningZmq }
  /-- The receiver thread is joined. -/
  | joinZmq (stands : s.stopper = .joiningZmq) (ended : s.receiver = .exited) :
      Transition poolSize atof s .stop { s with stopper := .joiningLoop }
  /-- The loop thread is joined. -/
  | joinLoop (stands : s.stopper = .joiningLoop) (ended : s.loopThread = .exited) :
      Transition poolSize atof s .stop { s with stopper := .returned }

variable {poolSize : Nat} {atof : Bytes → Double} {s t : Threads Double}

omit [Zero Double] in
/-- No job waits exactly if there is none in any of its places up to its after callback. -/
theorem waiting_eq_nil_iff :
    s.waiting = [] ↔
      s.pending = [] ∧ s.executing = [] ∧ s.reporting = [] ∧ s.finished = [] := by
  simp only [waiting, List.append_eq_nil_iff, and_assoc]

/-- Every enabled receiver step is one of the transitions. -/
theorem receiverStep_transition {action : ReceiverAction}
    (taken : s.receiverStep atof action = some t) :
    Transition poolSize atof s (.receiver action) t := by
  -- The cases follow the code: first the access, then where the thread stands, then its tests.
  cases action with
  | connect ret =>
    simp only [receiverStep] at taken
    split at taken <;> cases taken
    exact .connect ret ‹_›
  | test =>
    simp only [receiverStep] at taken
    split at taken <;> cases taken
    cases flag : s.horseman.isInterrupted with
    | true => exact .quit ‹_› flag
    | false => exact .await ‹_› flag
  | receive arrival =>
    simp only [receiverStep] at taken
    split at taken
    · split at taken <;> cases taken
      · exact .receiveNone arrival _ ‹_› ‹_›
      · exact .receiveSome arrival _ _ ‹_› ‹_›
    · cases taken
  | parse =>
    simp only [receiverStep] at taken
    split at taken
    · split at taken <;> cases taken
      · exact .parseFault _ _ ‹_› ‹_›
      · exact .parseNone _ ‹_› ‹_›
      · exact .parseSome _ _ ‹_› ‹_›
    · cases taken
  | interrupt =>
    simp only [receiverStep] at taken
    split at taken <;> cases taken
    exact .interrupt _ ‹_›
  | increment =>
    simp only [receiverStep] at taken
    split at taken <;> cases taken
    exact .increment _ ‹_›
  | queueWork ret =>
    simp only [receiverStep] at taken
    split at taken
    · split at taken
      · cases taken
        exact .queueCrash ret _ ‹_› ‹_›
      · rename_i there
        have there : s.horseman.loop = .opened := by simpa using there
        split at taken <;> cases taken
        · exact .reject ret _ ‹_› there ‹_›
        · rename_i zero
          have zero : ret = 0 := by simpa using zero
          exact zero ▸ .accept _ ‹_› there
    · cases taken
  | decrement =>
    simp only [receiverStep] at taken
    split at taken <;> cases taken
    exact .uncountRejected ‹_›

/-- Every enabled worker step is one of the transitions. -/
theorem workerStep_transition {action : WorkerAction}
    (taken : s.workerStep poolSize action = some t) :
    Transition poolSize atof s (.worker action) t := by
  -- A worker needs a job to take, one to run, or one to report.
  cases action with
  | take =>
    simp only [workerStep] at taken
    split at taken
    · cases taken
    · split at taken <;> cases taken
      exact .take _ _ ‹_› ‹_›
  | perform slot =>
    simp only [workerStep] at taken
    split at taken <;> cases taken
    exact .perform slot _ ‹_›
  | report slot =>
    simp only [workerStep] at taken
    split at taken <;> cases taken
    exact .report slot _ ‹_›

/-- Every enabled step of the loop thread is one of the transitions. -/
theorem loopStep_transition {action : LoopAction} (taken : s.loopStep action = some t) :
    Transition poolSize atof s (.loop action) t := by
  cases action with
  | test =>
    simp only [loopStep] at taken
    split at taken
    · rename_i ret stands
      cases taken
      by_cases wanted : s.horseman.isRunning = true ∧ 0 = ret
      · rw [if_pos wanted]
        exact .goOn ret stands wanted.1
      · rw [if_neg wanted]
        refine .goOut ret stands ?_
        -- The loop test fails on the flag or on the result of `uv_run`.
        cases flag : s.horseman.isRunning with
        | false => exact .inl rfl
        | true => exact .inr fun zero => wanted ⟨flag, zero.symm⟩
    · cases taken
  | enter =>
    simp only [loopStep] at taken
    split at taken
    · split at taken <;> cases taken
      · exact .enterCrash ‹_› ‹_›
      · rename_i there
        exact .enter ‹_› (by simpa using there)
    · cases taken
  | complete =>
    simp only [loopStep] at taken
    split at taken <;> cases taken
    exact .complete _ _ ‹_› ‹_›
  | decrement =>
    simp only [loopStep] at taken
    split at taken <;> cases taken
    exact .uncountCompleted ‹_›
  | leave =>
    simp only [loopStep] at taken
    split at taken
    · split at taken <;> cases taken
      exact .leave ‹_› ‹_›
    · cases taken
  | wake =>
    simp only [loopStep] at taken
    split at taken <;> cases taken
    exact .wake _ ‹_›

/-- Every enabled step of `horseman_stop` is one of the transitions. -/
theorem stopStep_transition (taken : s.stopStep = some t) :
    Transition poolSize atof s .stop t := by
  -- The function runs from top to bottom, and waits in two loops and two joins.
  unfold stopStep at taken
  split at taken
  · cases taken
    exact .stopCall ‹_›
  · cases taken
    exact .stopInterrupt ‹_›
  · cases taken
    exact .stopClear ‹_›
  · split at taken <;> cases taken
    · exact .drainWait _ ‹_› ‹_›
    · exact .drainEnd _ ‹_› ‹_›
  · split at taken <;> cases taken
    · exact .closeBusy ‹_› ‹_›
    · rename_i nothing
      exact .close ‹_› (by simpa using nothing)
  · cases taken
    exact .null ‹_›
  · split at taken <;> cases taken
    exact .joinZmq ‹_› ‹_›
  · split at taken <;> cases taken
    exact .joinLoop ‹_› ‹_›
  · cases taken

/-- Every step is one of the transitions, taken by a process that has not crashed. -/
theorem step_transition {action : ThreadAction} (taken : s.step poolSize atof action = some t) :
    s.crash = none ∧ Transition poolSize atof s action t := by
  -- Each thread has its own inversion lemma, and a crashed process takes no step.
  unfold step at taken
  split at taken
  · cases taken
  · refine ⟨‹_›, ?_⟩
    cases action with
    | receiver action => exact receiverStep_transition taken
    | worker action => exact workerStep_transition taken
    | loop action => exact loopStep_transition taken
    | stop => exact stopStep_transition taken

end Ichabod
