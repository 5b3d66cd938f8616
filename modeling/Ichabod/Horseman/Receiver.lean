import Mathlib.Algebra.GroupWithZero.Nat
import Ichabod.Horseman.Message
import Ichabod.Uv.Handles

/-! The receiver thread on its own: receiving, parsing and dispatching until it is interrupted. -/

namespace Ichabod

/-- The fields of `struct horseman_s` that its threads share. -/
structure Horseman where
  isInterrupted : Bool
  isRunning : Bool
  /-- An `int64_t` that counts live heap records, of which there are always fewer than 2^63. -/
  workCount : Int
  loop : LoopHandle
deriving DecidableEq

namespace Horseman

/-- `increment_work_count`. -/
def incrementWorkCount (pthis : Horseman) : Horseman :=
  { pthis with workCount := pthis.workCount + 1 }

/-- `decrement_work_count`, which stores zero. -/
def decrementWorkCount (pthis : Horseman) : Horseman :=
  { pthis with workCount := 0 }

/-- `get_work_count`. -/
def getWorkCount (pthis : Horseman) : Int :=
  pthis.workCount

/-- The state `horseman_start` leaves to the threads it creates. -/
def started : Horseman :=
  { isInterrupted := false, isRunning := true, workCount := 0, loop := .opened }

end Horseman

/-- Hangs a new string on the chain, in the root if that is still empty. -/
def Envelope.put : Envelope → CString → Envelope
  | [], szMsg => [some szMsg]
  | [none], szMsg => [some szMsg]
  | [some last], szMsg => [some last, some szMsg]
  | node :: next :: rest, szMsg => node :: Envelope.put (next :: rest) szMsg

/--
The loop of `receive_message`, from a given chain and the receive results to come.

The result is the chain, or `none` if the loop ended with `EAGAIN`, and the results left over.
There is no result while the call is still waiting.
-/
def receiveMessage : Envelope → List RecvOutcome → Option (Option Envelope × List RecvOutcome)
  | _, [] => none
  | _, .again :: rest => some (none, rest)
  | env, outcome :: rest =>
    let env := Envelope.put env (.ofBytes outcome.data)
    if outcome.more then receiveMessage env rest else some (some env, rest)

variable {Double : Type}

/-- The receiver thread's view: the shared fields, and the jobs it gave to `uv_queue_work`. -/
structure Receiver (Double : Type) where
  horseman : Horseman
  handed : List (MsgDispatch Double)

/--
`parse_envelope`, for the return value `ret` that `uv_queue_work` would give.

A fault comes with the state in which the process ends.
-/
def parseEnvelope [Zero Double] (atof : Bytes → Double) (ret : Int) (state : Receiver Double)
    (msg : Envelope) : Except (Fault × Receiver Double) (Receiver Double) :=
  match parseDispatch atof msg with
  | .error fault => .error (fault, state)
  | .ok none => .ok state
  | .ok (some asyncMsg) =>
    -- An end-of-stream frame is still posted, but the main loop will not be entered again.
    let pthis := if asyncMsg.isEos then { state.horseman with isInterrupted := true }
      else state.horseman
    let pthis := pthis.incrementWorkCount
    let pthis := if ret ≠ 0 then pthis.decrementWorkCount else pthis
    .ok { horseman := pthis, handed := state.handed ++ [asyncMsg] }

/-- `process_next_message`, which has no result while it waits for a receive to return. -/
def processNextMessage [Zero Double] (atof : Bytes → Double) (ret : Int) (state : Receiver Double)
    (outcomes : List RecvOutcome) :
    Option (Except (Fault × Receiver Double) (Receiver Double) × List RecvOutcome) :=
  match receiveMessage [none] outcomes with
  | none => none
  | some (none, rest) => some (.ok state, rest)
  | some (some msg, rest) => some (parseEnvelope atof ret state msg, rest)

/-- A finished receive has consumed at least one result. -/
theorem receiveMessage_shorter {env : Envelope} {outcomes rest : List RecvOutcome}
    {msg : Option Envelope} (received : receiveMessage env outcomes = some (msg, rest)) :
    rest.length < outcomes.length := by
  -- Every turn of the loop takes one result off the list.
  fun_induction receiveMessage env outcomes with
  | case1 => simp at received
  | case2 env rest =>
    simp only [Option.some.injEq, Prod.mk.injEq] at received
    simp [received.2]
  | case3 env outcome rest _ env' more ih =>
    have shorter := ih received
    simp only [List.length_cons]
    omega
  | case4 env outcome rest =>
    simp only [Option.some.injEq, Prod.mk.injEq] at received
    simp [received.2]

/-- A finished turn of the main loop has consumed at least one result. -/
theorem processNextMessage_shorter [Zero Double] {atof : Bytes → Double} {ret : Int}
    {state : Receiver Double} {outcomes rest : List RecvOutcome}
    {result : Except (Fault × Receiver Double) (Receiver Double)}
    (processed : processNextMessage atof ret state outcomes = some (result, rest)) :
    rest.length < outcomes.length := by
  -- Parsing consumes nothing, so it is the receive that counts.
  unfold processNextMessage at processed
  split at processed
  · simp at processed
  · rename_i received
    simp only [Option.some.injEq, Prod.mk.injEq] at processed
    exact receiveMessage_shorter (processed.2 ▸ received)
  · rename_i received
    simp only [Option.some.injEq, Prod.mk.injEq] at processed
    exact receiveMessage_shorter (processed.2 ▸ received)

/-- How far the receiver thread has come once the observed receive results are used up. -/
inductive ReceiverEnd where
  /-- The thread waits in `zmq_msg_recv`. -/
  | waiting
  /-- The thread left its loop and closed the socket. -/
  | closed
  /-- The thread returned because the socket could not be connected. -/
  | disconnected
  /-- The process ended in a fault. -/
  | aborted (fault : Fault)
deriving DecidableEq

/-- The `while` loop of `horseman_zmq_main`, where `rets` are the results of `uv_queue_work`. -/
def zmqLoop [Zero Double] (atof : Bytes → Double) (rets : Nat → Int) (state : Receiver Double)
    (outcomes : List RecvOutcome) : ReceiverEnd × Receiver Double :=
  if state.horseman.isInterrupted then (.closed, state)
  else
    match _ : processNextMessage atof (rets state.handed.length) state outcomes with
    | none => (.waiting, state)
    | some (.error (fault, reached), _) => (.aborted fault, reached)
    | some (.ok next, rest) => zmqLoop atof rets next rest
termination_by outcomes.length
decreasing_by exact processNextMessage_shorter ‹_›

/-- `horseman_zmq_main`, for the return value of its `zmq_connect`. -/
def horsemanZmqMain [Zero Double] (atof : Bytes → Double) (connected : Int) (rets : Nat → Int)
    (pthis : Horseman) (outcomes : List RecvOutcome) : ReceiverEnd × Receiver Double :=
  if connected ≠ 0 then (.disconnected, ⟨pthis, []⟩)
  else zmqLoop atof rets ⟨pthis, []⟩ outcomes

end Ichabod
