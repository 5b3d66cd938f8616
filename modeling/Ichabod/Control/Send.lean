import Ichabod.Zmq.Send

/-! The callers that share the push socket of one webrtc control, interleaved send by send. -/

namespace Ichabod

/-- A function that sends on `push_socket`. -/
inductive ControlCall where
  /-- `webrtc_control_send_offer`. -/
  | sendOffer (offer : CString)
  /-- `webrtc_control_send_ice_candidate`. -/
  | sendIceCandidate (mLineIndex : Int8) (candidate : CString)
  /-- The send of `zmq_main`, before it enters its loop. -/
  | online
deriving DecidableEq

/-- The text that `sprintf` writes to `sz_mline`. -/
def szMline (mLineIndex : Int8) : CString :=
  -- The text of an index below -99 is written past the end of the four bytes.
  .literal (toString mLineIndex.toInt)

namespace ControlCall

/-- The calls of `zmq_send`, none of which is skipped when an earlier one fails. -/
def sends : ControlCall → List ZmqSend
  | .sendOffer offer => [.ofString (.literal "offer") true, .ofString offer false]
  | .sendIceCandidate mLineIndex candidate =>
    [.ofString (.literal "icecandidate") true, .ofString (szMline mLineIndex) true,
      .ofString candidate false]
  | .online => [.ofString (.literal "online") false]

/-- What the function returns, given the value that the last `zmq_send` left in `ret`. -/
def result : ControlCall → Int → Option Int
  -- No string is as long as the `size_t` that -1 is converted to.
  | .sendOffer offer, ret => some (if (offer.strlen : Int) ≠ ret then 1 else 0)
  | .sendIceCandidate _ candidate, ret => some (if (candidate.strlen : Int) ≠ ret then 1 else 0)
  -- The result of this send is overwritten unread.
  | .online, _ => none

end ControlCall

/-- A call that has been made, with its local state. -/
structure Caller where
  call : ControlCall
  /-- How many of its sends it has made. -/
  position : Nat
  /-- The result of the last of them. -/
  ret : Int
deriving DecidableEq

/-- What the call returned, if it has made all its sends. -/
def Caller.returned (caller : Caller) : Option Int :=
  if caller.position < caller.call.sends.length then none else caller.call.result caller.ret

/-- One part on the socket, labelled with the call it belongs to and its place in it. -/
structure SentPart where
  caller : Nat
  index : Nat
  data : Bytes
deriving DecidableEq

/-- The message that the call with the given number is meant to send. -/
def ControlCall.message (call : ControlCall) (caller : Nat) : List SentPart :=
  call.sends.mapIdx fun index send => ⟨caller, index, send.data⟩

/-- All calls made so far, and the socket they share. -/
structure ControlSends where
  callers : List Caller
  socket : PushSocket SentPart
deriving DecidableEq

/-- A step of any caller. -/
inductive SendAction where
  /-- Some thread makes a new call. -/
  | enter (call : ControlCall)
  /-- The numbered call makes its next send, which the socket accepts or not. -/
  | send (caller : Nat) (accepted : Bool)
deriving DecidableEq

namespace ControlSends

/-- The state before any call. -/
def idle : ControlSends :=
  ⟨[], .fresh⟩

/-- One step, where each send is atomic. -/
def step (s : ControlSends) : SendAction → Option ControlSends
  | .enter call => some { s with callers := s.callers ++ [⟨call, 0, 0⟩] }
  | .send number accepted =>
    match s.callers[number]? with
    | none => none
    | some caller =>
      match caller.call.sends[caller.position]? with
      -- The call has returned.
      | none => none
      | some send =>
        some {
          callers := s.callers.set number
            { caller with position := caller.position + 1, ret := send.ret accepted }
          socket :=
            if accepted then s.socket.take ⟨number, caller.position, send.data⟩ send.more
            else s.socket }

end ControlSends

end Ichabod
