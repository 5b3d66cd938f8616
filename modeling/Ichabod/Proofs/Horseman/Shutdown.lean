import Ichabod.Proofs.Horseman.Transition

/-! What holds in every state of a shutdown, and how far the receiver can still go in it. -/

namespace Ichabod

open Interleaving Threads

variable {Double : Type}

/-- Whether the receiver can come to `uv_queue_work` before it tests `is_interrupted` again. -/
def ReceiverPc.mayQueue [Zero Double] (atof : Bytes → Double) : ReceiverPc Double → Bool
  | .receiving | .interrupting _ | .counting _ | .queueing _ => true
  | .parsing msg =>
    -- A message that asks for nothing leads straight back to the test.
    match parseDispatch atof msg with
    | .ok (some _) => true
    | _ => false
  | .connecting | .testing | .rejected | .exited => false

/-- Whether `horseman_stop` has set `is_interrupted`. -/
def StopPc.interrupted : StopPc → Bool
  | .clearing | .draining _ | .closing | .nulling | .joiningZmq | .joiningLoop => true
  | .idle | .interrupting | .returned => false

/-- Whether `horseman_stop` has not come to close the loop yet. -/
def StopPc.beforeClose : StopPc → Bool
  | .idle | .interrupting | .clearing | .draining _ | .closing => true
  | .nulling | .joiningZmq | .joiningLoop | .returned => false

/-- The flags and the loop follow the progress of `horseman_stop`. -/
structure StopProgress (s : Threads Double) : Prop where
  /-- The receiver has been told to stop. -/
  interrupted : s.stopper.interrupted = true → s.horseman.isInterrupted = true
  /-- The loop is only closed by the last steps. -/
  opened : s.stopper.beforeClose = true → s.horseman.loop = .opened
  /-- The pointer is dropped once the loop is closed. -/
  shut : s.stopper = .nulling → s.horseman.loop = .closed
  /-- Whoever finds the loop closed was told to stop before. -/
  flagged : s.horseman.loop ≠ .opened → s.horseman.isInterrupted = true

/-- The flags start out in line with a function that has not been called. -/
theorem stopProgress_start : StopProgress (start : Threads Double) := by
  constructor <;> simp [start, Horseman.started, StopPc.interrupted]

variable [Zero Double] {poolSize : Nat} {atof : Bytes → Double}

/-- Every step keeps the flags and the loop in line with the progress of `horseman_stop`. -/
theorem stopProgress_step (s : Threads Double) (action : ThreadAction) (t : Threads Double)
    (progress : StopProgress s) (taken : s.step poolSize atof action = some t) :
    StopProgress t := by
  -- No other thread clears `is_interrupted` or touches the loop.
  obtain ⟨_, transition⟩ := step_transition taken
  obtain ⟨interrupted, opened, shut, flagged⟩ := progress
  cases transition with
  | interrupt asyncMsg stands => exact ⟨fun _ => rfl, opened, shut, fun _ => rfl⟩
  | stopCall stands =>
    -- The function either goes on to set the flag, or returns without having touched anything.
    have there := opened (by simp [stands, StopPc.beforeClose])
    cases running : s.horseman.isRunning <;>
      constructor <;> simp [there, StopPc.interrupted]
  | stopInterrupt stands =>
    have there := opened (by simp [stands, StopPc.beforeClose])
    constructor <;> simp [there]
  | stopClear stands =>
    have there := opened (by simp [stands, StopPc.beforeClose])
    have told := interrupted (by simp [stands, StopPc.interrupted])
    constructor <;> simp [there, told]
  | drainEnd drainCount stands drained =>
    have there := opened (by simp [stands, StopPc.beforeClose])
    have told := interrupted (by simp [stands, StopPc.interrupted])
    constructor <;> simp [there, told]
  | close stands nothing =>
    have told := interrupted (by simp [stands, StopPc.interrupted])
    constructor <;> simp [told, StopPc.beforeClose]
  | null stands =>
    have told := interrupted (by simp [stands, StopPc.interrupted])
    constructor <;> simp [told, StopPc.beforeClose]
  | joinZmq stands ended =>
    have told := interrupted (by simp [stands, StopPc.interrupted])
    constructor <;> simp [told, StopPc.beforeClose]
  | joinLoop stands ended =>
    constructor
    · simp [StopPc.interrupted]
    · simp [StopPc.beforeClose]
    · simp
    · exact flagged
  | _ => exact ⟨interrupted, opened, shut, flagged⟩

/-- A loop that is closed, or dropped, is never opened again. -/
theorem loop_gone_step {s t : Threads Double} {action : ThreadAction}
    (gone : s.horseman.loop ≠ .opened) (taken : s.step poolSize atof action = some t) :
    t.horseman.loop ≠ .opened := by
  -- Only two steps store to the field, and neither stores an open loop.
  obtain ⟨_, transition⟩ := step_transition taken
  cases transition with
  | close stands nothing => simp
  | null stands => simp
  | _ => exact gone

/-- A receiver that was told to stop, and cannot queue any more, stays that way. -/
theorem quiet_step {s t : Threads Double} {action : ThreadAction}
    (told : s.horseman.isInterrupted = true) (quiet : s.receiver.mayQueue atof = false)
    (taken : s.step poolSize atof action = some t) :
    t.horseman.isInterrupted = true ∧ t.receiver.mayQueue atof = false := by
  -- From the test of the flag, the only way is out of the loop.
  obtain ⟨_, transition⟩ := step_transition taken
  cases transition with
  | connect ret stands =>
    refine ⟨told, ?_⟩
    by_cases failed : ret ≠ 0 <;> simp [failed, ReceiverPc.mayQueue]
  | quit stands flag => exact ⟨told, rfl⟩
  | await stands flag => simp [told] at flag
  | receiveNone arrival later stands received => exact ⟨told, rfl⟩
  | receiveSome arrival msg later stands received => simp [stands, ReceiverPc.mayQueue] at quiet
  | parseNone msg stands parsed => exact ⟨told, rfl⟩
  | parseSome msg asyncMsg stands parsed =>
    simp [stands, ReceiverPc.mayQueue, parsed] at quiet
  | interrupt asyncMsg stands => simp [stands, ReceiverPc.mayQueue] at quiet
  | increment asyncMsg stands => simp [stands, ReceiverPc.mayQueue] at quiet
  | reject ret asyncMsg stands there refused => simp [stands, ReceiverPc.mayQueue] at quiet
  | accept asyncMsg stands there => simp [stands, ReceiverPc.mayQueue] at quiet
  | uncountRejected stands => exact ⟨told, rfl⟩
  | stopInterrupt stands => exact ⟨rfl, quiet⟩
  | _ => exact ⟨told, quiet⟩

section Progress

variable {s : Threads Double}

/-- A process that has not crashed takes the receiver steps of its threads. -/
theorem step_receiver (alive : s.crash = none) (action : ReceiverAction) :
    s.step poolSize atof (.receiver action) = s.receiverStep atof action := by
  simp [Threads.step, alive]

/-- A process that has not crashed takes the worker steps of its pool. -/
theorem step_worker (alive : s.crash = none) (action : WorkerAction) :
    s.step poolSize atof (.worker action) = s.workerStep poolSize action := by
  simp [Threads.step, alive]

/-- A process that has not crashed takes the steps of its loop thread. -/
theorem step_loop (alive : s.crash = none) (action : LoopAction) :
    s.step poolSize atof (.loop action) = s.loopStep action := by
  simp [Threads.step, alive]

/-- A process that has not crashed takes the steps of `horseman_stop`. -/
theorem step_stop (alive : s.crash = none) : s.step poolSize atof .stop = s.stopStep := by
  simp [Threads.step, alive]

/-- The state after the receiver, running alone, has come to `uv_queue_work` with a record. -/
def Threads.atQueueWork (s : Threads Double) (asyncMsg : MsgDispatch Double) (told : Bool)
    (count : Int) : Threads Double :=
  { s with
    horseman := { s.horseman with isInterrupted := told, workCount := count }
    receiver := .queueing asyncMsg }

/-- Running alone, the receiver comes to `uv_queue_work` with some record. -/
def ReachesQueueWork (poolSize : Nat) (atof : Bytes → Double) (s : Threads Double) : Prop :=
  ∃ actions asyncMsg told count,
    run (step poolSize atof) s actions = some (s.atQueueWork asyncMsg told count)

/-- The record comes to `uv_queue_work` if it does so after one more step of the receiver. -/
theorem ReachesQueueWork.step_back {action : ReceiverAction} {stand : ReceiverPc Double}
    {told : Bool} {count : Int} (alive : s.crash = none)
    (taken : s.receiverStep atof action = some { s with
      horseman := { s.horseman with isInterrupted := told, workCount := count }
      receiver := stand })
    (later : ReachesQueueWork poolSize atof { s with
      horseman := { s.horseman with isInterrupted := told, workCount := count }
      receiver := stand }) :
    ReachesQueueWork poolSize atof s := by
  -- What the step changed is overwritten on arrival.
  obtain ⟨actions, asyncMsg, arrivedTold, arrivedCount, ran⟩ := later
  refine ⟨.receiver action :: actions, asyncMsg, arrivedTold, arrivedCount, ?_⟩
  exact run_cons_iff.mpr ⟨_, (step_receiver alive action).trans taken, ran⟩

/-- A record that is about to be counted comes to `uv_queue_work`. -/
theorem reaches_counting (alive : s.crash = none) {asyncMsg : MsgDispatch Double}
    (stands : s.receiver = .counting asyncMsg) : ReachesQueueWork poolSize atof s := by
  -- One increment lies between the record and the call.
  refine ⟨[.receiver .increment], asyncMsg, s.horseman.isInterrupted, s.horseman.workCount + 1, ?_⟩
  simp [run, step_receiver alive, receiverStep, stands, atQueueWork, Horseman.incrementWorkCount]

/-- A record that is about to set the flag comes to `uv_queue_work`. -/
theorem reaches_interrupting (alive : s.crash = none) {asyncMsg : MsgDispatch Double}
    (stands : s.receiver = .interrupting asyncMsg) : ReachesQueueWork poolSize atof s := by
  -- The store to the flag comes first, and changes nothing that matters here.
  have taken : s.receiverStep atof .interrupt = some { s with
      horseman := { s.horseman with isInterrupted := true }
      receiver := .counting asyncMsg } := by
    simp [receiverStep, stands]
  exact .step_back alive taken (reaches_counting alive rfl)

/-- A message that asks for a job comes to `uv_queue_work`. -/
theorem reaches_parsing (alive : s.crash = none) {msg : Envelope} {asyncMsg : MsgDispatch Double}
    (stands : s.receiver = .parsing msg) (parsed : parseDispatch atof msg = .ok (some asyncMsg)) :
    ReachesQueueWork poolSize atof s := by
  have taken : s.receiverStep atof .parse = some { s with
      receiver := if asyncMsg.isEos then .interrupting asyncMsg else .counting asyncMsg } := by
    simp [receiverStep, stands, parsed]
  refine .step_back alive taken ?_
  -- An end-of-stream record sets the flag on its way.
  cases asyncMsg.isEos with
  | true => exact reaches_interrupting alive rfl
  | false => exact reaches_counting alive rfl

/-- A waiting receiver may still receive a message that asks for a job. -/
theorem reaches_receiving (alive : s.crash = none) (stands : s.receiver = .receiving) :
    ReachesQueueWork poolSize atof s := by
  -- The shortest message that asks for a job is the end of the stream.
  let msg : Envelope := [some (.literal "frame"), some (.literal "EOS")]
  have taken : s.receiverStep atof
      (.receive (.message ⟨CString.ascii "frame", [CString.ascii "EOS"]⟩)) =
        some { s with receiver := .parsing msg } := by
    simp only [receiverStep, stands]
    rfl
  have parsed : parseDispatch atof msg = .ok (some (.frame ⟨none, 0, true, rfl⟩)) := rfl
  exact .step_back alive taken (reaches_parsing alive rfl parsed)

/-- Whatever the receiver holds while it may queue, it can come to `uv_queue_work`. -/
theorem reaches_of_mayQueue (alive : s.crash = none) (may : s.receiver.mayQueue atof = true) :
    ReachesQueueWork poolSize atof s := by
  -- The cases are the places between the test of the flag and the call.
  cases stands : s.receiver with
  | receiving => exact reaches_receiving alive stands
  | parsing msg =>
    cases parsed : parseDispatch atof msg with
    | error fault => simp [stands, ReceiverPc.mayQueue, parsed] at may
    | ok record =>
      cases record with
      | none => simp [stands, ReceiverPc.mayQueue, parsed] at may
      | some asyncMsg => exact reaches_parsing alive stands parsed
  | interrupting asyncMsg => exact reaches_interrupting alive stands
  | counting asyncMsg => exact reaches_counting alive stands
  | queueing asyncMsg =>
    refine ⟨[], asyncMsg, s.horseman.isInterrupted, s.horseman.workCount, ?_⟩
    simp [run, atQueueWork, ← stands]
  | connecting | testing | rejected | exited => simp [stands, ReceiverPc.mayQueue] at may

end Progress

end Ichabod
