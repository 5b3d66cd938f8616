import Ichabod.Horseman.Message

/-! The messaging thread of a webrtc control: one record, filled and cleared message by message. -/

namespace Ichabod

/-- `struct ctrl_msg_s`, where an absent string is a NULL pointer. -/
structure CtrlMsg where
  type : Option CString
  data : Option CString
  data2 : Option CString
deriving DecidableEq

namespace CtrlMsg

/-- The record with all its bytes zero. -/
def empty : CtrlMsg :=
  ⟨none, none, none⟩

/-- Puts a received part into the first free slot, or frees it if there is none. -/
def put (msg : CtrlMsg) (szMsg : CString) : CtrlMsg :=
  if msg.type.isNone then { msg with type := some szMsg }
  else if msg.data.isNone then { msg with data := some szMsg }
  else if msg.data2.isNone then { msg with data2 := some szMsg }
  else msg

end CtrlMsg

/-- `clear_msg`. -/
def clearMsg (msg : CtrlMsg) : CtrlMsg :=
  let msg := if msg.type.isSome then { msg with type := none } else msg
  let msg := if msg.data.isSome then { msg with data := none } else msg
  if msg.data2.isSome then { msg with data2 := none } else msg

/-- A call of one of the functions that `webrtc_control_config` registers. -/
inductive ControlCallback where
  | createOffer
  | remoteAnswer (remoteAnswer : Option CString)
  | remoteCandidate (mLineIndex : Int8) (candidate : Option CString)
deriving DecidableEq

/--
`handle_msg`, where `registered` tells whether a registered function returns.

The result is the call it makes, if it makes one.
-/
def handleMsg (registered : ControlCallback → Except Fault Unit) (msg : CtrlMsg) :
    Except Fault (Option ControlCallback) :=
  match msg.type with
  | none => .error .nullRead
  | some type =>
    if (CString.literal "create_offer").same type then
      (registered .createOffer).map fun _ => some .createOffer
    else if (CString.literal "set_remote_description").same type then
      (registered (.remoteAnswer msg.data)).map fun _ => some (.remoteAnswer msg.data)
    else if (CString.literal "add_ice_candidate").same type then
      match msg.data with
      | none => .error .nullRead
      | some data =>
        let callback := .remoteCandidate data.atoi.toInt8 msg.data2
        (registered callback).map fun _ => some callback
    else .ok none

/--
`recv_msg`, from the record it is given and the receive results to come.

The result is `*got_msg`, the record and the results left over, if the call returns at all.
-/
def recvMsg : CtrlMsg → List RecvOutcome → Option (Bool × CtrlMsg × List RecvOutcome)
  | _, [] => none
  | msg, .again :: rest => some (false, msg, rest)
  | msg, outcome :: rest =>
    let msg := msg.put (.ofBytes outcome.data)
    if outcome.more then recvMsg msg rest else some (true, msg, rest)

/-- A finished receive has consumed at least one result. -/
theorem recvMsg_shorter {msg next : CtrlMsg} {outcomes rest : List RecvOutcome} {gotMsg : Bool}
    (received : recvMsg msg outcomes = some (gotMsg, next, rest)) :
    rest.length < outcomes.length := by
  -- Every turn of the loop takes one result off the list.
  fun_induction recvMsg msg outcomes with
  | case1 => simp at received
  | case2 msg rest =>
    simp only [Option.some.injEq, Prod.mk.injEq] at received
    simp [received.2.2]
  | case3 msg outcome rest _ filled more ih =>
    have shorter := ih received
    simp only [List.length_cons]
    omega
  | case4 msg outcome rest =>
    simp only [Option.some.injEq, Prod.mk.injEq] at received
    simp [received.2.2]

/-- What the messaging thread has done so far. -/
structure ControlMain where
  /-- The record of `zmq_main`. -/
  msg : CtrlMsg
  /-- The record at each start of `recv_msg`. -/
  started : List CtrlMsg
  /-- The record at each call of `handle_msg`, with the callback invoked by it. -/
  handled : List (CtrlMsg × Option ControlCallback)
deriving DecidableEq

/-- How far the messaging thread has come once the observed receive results are used up. -/
inductive ControlEnd where
  /-- The thread waits in `zmq_msg_recv`. -/
  | waiting
  /-- The thread left its loop and closed the socket. -/
  | closed
  /-- The thread returned because the pull socket could not be bound. -/
  | unbound
  /-- The process ended in a fault. -/
  | aborted (fault : Fault)
deriving DecidableEq

/--
The `while` loop of webrtc control's `zmq_main`.

The flag `is_interrupted` belongs to another thread, so each test finds it as `isInterrupted` says.
-/
def controlLoop (registered : ControlCallback → Except Fault Unit) (isInterrupted : Nat → Bool)
    (turn : Nat) (state : ControlMain) (outcomes : List RecvOutcome) : ControlEnd × ControlMain :=
  if isInterrupted turn then (.closed, state)
  else
    let state := { state with started := state.started ++ [state.msg] }
    match _ : recvMsg state.msg outcomes with
    | none => (.waiting, state)
    | some (false, msg, rest) =>
      controlLoop registered isInterrupted (turn + 1) { state with msg := msg } rest
    | some (true, msg, rest) =>
      match handleMsg registered msg with
      | .error fault => (.aborted fault, { state with msg := msg })
      | .ok callback =>
        controlLoop registered isInterrupted (turn + 1)
          { state with
            msg := clearMsg msg
            handled := state.handled ++ [(msg, callback)] } rest
termination_by outcomes.length
decreasing_by all_goals exact recvMsg_shorter ‹_›

/-- `zmq_main`, for the return value of its `zmq_bind`. -/
def controlZmqMain (registered : ControlCallback → Except Fault Unit) (bound : Int)
    (isInterrupted : Nat → Bool) (outcomes : List RecvOutcome) : ControlEnd × ControlMain :=
  if bound ≠ 0 then (.unbound, ⟨.empty, [], []⟩)
  -- A push socket that cannot be connected does not keep the loop from running.
  else controlLoop registered isInterrupted 0 ⟨.empty, [], []⟩ outcomes

end Ichabod
