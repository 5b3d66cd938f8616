import Ichabod.Horseman.Receiver

/-! The threads of a started horseman, interleaved one access to shared state at a time. -/

namespace Ichabod

/-- Where the receiver thread stands. -/
inductive ReceiverPc (Double : Type) where
  /-- At `zmq_connect`. -/
  | connecting
  /-- At the test of `is_interrupted`. -/
  | testing
  /-- In `receive_message`. -/
  | receiving
  /-- Holding a message that has not been parsed yet. -/
  | parsing (msg : Envelope)
  /-- At the store to `is_interrupted` for an end-of-stream frame. -/
  | interrupting (asyncMsg : MsgDispatch Double)
  /-- At `increment_work_count`. -/
  | counting (asyncMsg : MsgDispatch Double)
  /-- At `uv_queue_work`. -/
  | queueing (asyncMsg : MsgDispatch Double)
  /-- At `decrement_work_count`, because the job was rejected. -/
  | rejected
  | exited
deriving DecidableEq

/-- Where the thread of `horseman_loop_main` stands. -/
inductive LoopPc where
  /-- At the loop test, with the last result of `uv_run`. -/
  | testing (ret : Int)
  /-- At the call of `uv_run`. -/
  | entering
  /-- In `uv_run`, between two callbacks. -/
  | running
  /-- In `after_issue_callback`, at `decrement_work_count`. -/
  | completing
  /-- In `usleep`. -/
  | sleeping (ret : Int)
  | exited
deriving DecidableEq

/-- Where the caller of `horseman_stop` stands. -/
inductive StopPc where
  /-- The function has not been called yet. -/
  | idle
  | interrupting
  | clearing
  | draining (drainCount : Nat)
  | closing
  | nulling
  | joiningZmq
  | joiningLoop
  | returned
deriving DecidableEq

/-- What ends the process in the middle of a step. -/
inductive Crash where
  /-- A parser faulted on the message it was given. -/
  | parser (fault : Fault)
  /-- `uv_queue_work` was called on a loop that is closed or NULL. -/
  | queuedOnClosedLoop
  /-- `uv_run` was called on a loop that is closed or NULL. -/
  | ranClosedLoop
deriving DecidableEq

/-- An accepted job, numbered by its place in the order of acceptance. -/
structure Work (Double : Type) where
  number : Nat
  record : MsgDispatch Double
deriving DecidableEq

/-- Everything that the threads of one started horseman can change. -/
structure Threads (Double : Type) where
  horseman : Horseman
  receiver : ReceiverPc Double
  loopThread : LoopPc
  stopper : StopPc
  /-- The records that `uv_queue_work` accepted, in order. -/
  accepted : List (MsgDispatch Double)
  /-- Accepted jobs that no pool worker has taken yet. -/
  pending : List (Work Double)
  /-- Jobs taken by a worker that have not had their effect yet, one for each busy worker. -/
  executing : List (Work Double)
  /-- Jobs that have had their effect and are not reported yet, one for each busy worker. -/
  reporting : List (Work Double)
  /-- Reported jobs whose after callback has not begun yet, in the order of the reports. -/
  finished : List (Work Double)
  /-- Every job that has had its effect, in the order of the effects. -/
  performed : List (Work Double)
  /-- Every job that was reported to the loop, in the order of the reports. -/
  reported : List (Work Double)
  crash : Option Crash
deriving DecidableEq

/-- A step of the receiver thread, with what its environment answers. -/
inductive ReceiverAction where
  | connect (ret : Int)
  | test
  | receive (arrival : Arrival)
  | parse
  | interrupt
  | increment
  | queueWork (ret : Int)
  | decrement
deriving DecidableEq

/-- A step of a pool worker. -/
inductive WorkerAction where
  /-- An idle worker takes the job at the head of the queue. -/
  | take
  /-- The worker of the given job in execution runs `issue_callback`. -/
  | perform (slot : Nat)
  /-- The worker of the given job behind its effect reports it to the loop, under a lock. -/
  | report (slot : Nat)
deriving DecidableEq

/-- A step of the loop thread. -/
inductive LoopAction where
  | test
  | enter
  /-- `uv_run` takes up the oldest finished job and calls `after_issue_callback`. -/
  | complete
  | decrement
  /-- `uv_run` returns, since no job is outstanding. -/
  | leave
  | wake
deriving DecidableEq

/-- A step of any thread. -/
inductive ThreadAction where
  | receiver (action : ReceiverAction)
  | worker (action : WorkerAction)
  | loop (action : LoopAction)
  /-- The next step of `horseman_stop`. -/
  | stop
deriving DecidableEq

variable {Double : Type}

namespace Threads

/-- The state in which `horseman_start` leaves its two threads. -/
def start : Threads Double where
  horseman := .started
  receiver := .connecting
  loopThread := .testing 0
  stopper := .idle
  accepted := []
  pending := []
  executing := []
  reporting := []
  finished := []
  performed := []
  reported := []
  crash := none

/-- Accepted jobs that still wait for their after callback. -/
def waiting (s : Threads Double) : List (Work Double) :=
  s.pending ++ s.executing ++ s.reporting ++ s.finished

/-- One access of the receiver thread. -/
def receiverStep [Zero Double] (atof : Bytes → Double) (s : Threads Double) :
    ReceiverAction → Option (Threads Double)
  | .connect ret =>
    match s.receiver with
    | .connecting => some { s with receiver := if ret ≠ 0 then .exited else .testing }
    | _ => none
  | .test =>
    match s.receiver with
    | .testing =>
      some { s with receiver := if s.horseman.isInterrupted then .exited else .receiving }
    | _ => none
  | .receive arrival =>
    match s.receiver with
    | .receiving =>
      match receiveMessage [none] arrival.outcomes with
      | some (none, _) => some { s with receiver := .testing }
      | some (some msg, _) => some { s with receiver := .parsing msg }
      | none => none
    | _ => none
  | .parse =>
    match s.receiver with
    | .parsing msg =>
      match parseDispatch atof msg with
      | .error fault => some { s with crash := some (.parser fault) }
      | .ok none => some { s with receiver := .testing }
      | .ok (some asyncMsg) =>
        some { s with
          receiver := if asyncMsg.isEos then .interrupting asyncMsg else .counting asyncMsg }
    | _ => none
  | .interrupt =>
    match s.receiver with
    | .interrupting asyncMsg =>
      some { s with
        horseman := { s.horseman with isInterrupted := true }
        receiver := .counting asyncMsg }
    | _ => none
  | .increment =>
    match s.receiver with
    | .counting asyncMsg =>
      some { s with
        horseman := s.horseman.incrementWorkCount
        receiver := .queueing asyncMsg }
    | _ => none
  | .queueWork ret =>
    match s.receiver with
    | .queueing asyncMsg =>
      if s.horseman.loop ≠ .opened then some { s with crash := some .queuedOnClosedLoop }
      else if ret ≠ 0 then some { s with receiver := .rejected }
      else
        some { s with
          receiver := .testing
          accepted := s.accepted ++ [asyncMsg]
          pending := s.pending ++ [⟨s.accepted.length, asyncMsg⟩] }
    | _ => none
  | .decrement =>
    match s.receiver with
    | .rejected =>
      some { s with
        horseman := s.horseman.decrementWorkCount
        receiver := .testing }
    | _ => none

/-- One step of a worker in a pool of the given size. -/
def workerStep (poolSize : Nat) (s : Threads Double) : WorkerAction → Option (Threads Double)
  | .take =>
    match s.pending with
    | [] => none
    | work :: rest =>
      if s.executing.length + s.reporting.length < poolSize then
        some { s with pending := rest, executing := s.executing ++ [work] }
      else none
  | .perform slot =>
    match s.executing[slot]? with
    | none => none
    | some work =>
      some { s with
        executing := s.executing.eraseIdx slot
        performed := s.performed ++ [work]
        reporting := s.reporting ++ [work] }
  | .report slot =>
    match s.reporting[slot]? with
    | none => none
    | some work =>
      some { s with
        reporting := s.reporting.eraseIdx slot
        reported := s.reported ++ [work]
        finished := s.finished ++ [work] }

/-- One access of the loop thread. -/
def loopStep (s : Threads Double) : LoopAction → Option (Threads Double)
  | .test =>
    match s.loopThread with
    | .testing ret =>
      some { s with
        loopThread := if s.horseman.isRunning ∧ 0 = ret then .entering else .exited }
    | _ => none
  | .enter =>
    match s.loopThread with
    | .entering =>
      if s.horseman.loop ≠ .opened then some { s with crash := some .ranClosedLoop }
      else some { s with loopThread := .running }
    | _ => none
  | .complete =>
    match s.loopThread, s.finished with
    | .running, _ :: rest => some { s with loopThread := .completing, finished := rest }
    | _, _ => none
  | .decrement =>
    match s.loopThread with
    | .completing =>
      some { s with
        horseman := s.horseman.decrementWorkCount
        loopThread := .running }
    | _ => none
  | .leave =>
    match s.loopThread with
    | .running => if s.waiting = [] then some { s with loopThread := .sleeping 0 } else none
    | _ => none
  | .wake =>
    match s.loopThread with
    | .sleeping ret => some { s with loopThread := .testing ret }
    | _ => none

/-- One access of `horseman_stop`. -/
def stopStep (s : Threads Double) : Option (Threads Double) :=
  match s.stopper with
  | .idle =>
    some { s with stopper := if s.horseman.isRunning then .interrupting else .returned }
  | .interrupting =>
    some { s with
      horseman := { s.horseman with isInterrupted := true }
      stopper := .clearing }
  | .clearing =>
    some { s with
      horseman := { s.horseman with isRunning := false }
      stopper := .draining 0 }
  | .draining drainCount =>
    -- The body of the drain loop only sleeps, so its bound is never used up.
    if 0 < s.horseman.getWorkCount ∧ drainCount < 1000 then some s
    else some { s with stopper := .closing }
  | .closing =>
    -- `uv_loop_close` answers UV_EBUSY as long as a job is outstanding.
    if s.waiting ≠ [] then some s
    else
      some { s with
        horseman := { s.horseman with loop := .closed }
        stopper := .nulling }
  | .nulling =>
    some { s with
      horseman := { s.horseman with loop := .null }
      stopper := .joiningZmq }
  | .joiningZmq =>
    match s.receiver with
    | .exited => some { s with stopper := .joiningLoop }
    | _ => none
  | .joiningLoop =>
    match s.loopThread with
    | .exited => some { s with stopper := .returned }
    | _ => none
  | .returned => none

/-- One step of the process, which takes none after a crash. -/
def step [Zero Double] (poolSize : Nat) (atof : Bytes → Double) (s : Threads Double)
    (action : ThreadAction) : Option (Threads Double) :=
  match s.crash with
  | some _ => none
  | none =>
    match action with
    | .receiver action => s.receiverStep atof action
    | .worker action => s.workerStep poolSize action
    | .loop action => s.loopStep action
    | .stop => s.stopStep

end Threads

/--
The drain loop of `horseman_stop`, for what successive calls of `get_work_count` return.

The result is the number of calls of `usleep`, and `none` is a loop that needs more fuel.
-/
def drainLoop (workCounts : Nat → Int) (drainCount : Nat) : Nat → Nat → Option Nat
  | 0, _ => none
  | fuel + 1, slept =>
    -- The body only sleeps, and leaves `drain_count` as it is.
    if 0 < workCounts slept ∧ drainCount < 1000 then
      drainLoop workCounts drainCount fuel (slept + 1)
    else some slept

end Ichabod
