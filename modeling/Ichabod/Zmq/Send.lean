import Ichabod.Lib.CString
import Ichabod.Zmq.Receive

/-! How a ZeroMQ push socket puts multipart messages together. -/

namespace Ichabod

/-- One call of `zmq_send`. -/
structure ZmqSend where
  data : Bytes
  /-- Whether `ZMQ_SNDMORE` is set. -/
  more : Bool
deriving DecidableEq

namespace ZmqSend

/-- Sends a string without its terminator. -/
def ofString (string : CString) (more : Bool) : ZmqSend :=
  ⟨string.bytes.take string.strlen, more⟩

/-- What `zmq_send` returns, given whether the socket takes the part. -/
def ret (send : ZmqSend) (accepted : Bool) : Int :=
  -- A length beyond `INT_MAX` is cut down to it.
  if accepted then min send.data.length 2147483647 else -1

/-- The string is sent up to its terminator. -/
@[simp] theorem ofString_data (string : CString) (more : Bool) :
    (ofString string more).data = string.text :=
  string.take_strlen

/-- An accepted part never reports an error. -/
theorem ret_accepted (send : ZmqSend) : 0 ≤ send.ret true := by
  -- Lengths are not negative, and the limit is not either.
  simp only [ret, if_true]
  omega

end ZmqSend

/-- A push socket, with everything its peer will receive. -/
structure PushSocket (Part : Type) where
  /-- The parts of the message that is still being put together. -/
  outgoing : List Part
  delivered : List (List Part)
deriving DecidableEq

namespace PushSocket

variable {Part : Type}

/-- A socket that nothing was sent on. -/
def fresh : PushSocket Part :=
  ⟨[], []⟩

/-- Takes one part, which completes the outgoing message unless more is announced. -/
def take (socket : PushSocket Part) (part : Part) (more : Bool) : PushSocket Part :=
  if more then { socket with outgoing := socket.outgoing ++ [part] }
  else ⟨[], socket.delivered ++ [socket.outgoing ++ [part]]⟩

/-- The next message on the socket cannot become one of the given ones. -/
structure Spoiled (wanted : List Part → Prop) (before : Nat) (socket : PushSocket Part) : Prop where
  /-- What has been put together so far does not begin any of them. -/
  outgoing : socket.delivered.length = before →
    ∀ message, wanted message → ¬ socket.outgoing <+: message
  /-- Once another message has been completed, it is none of them. -/
  delivered : before < socket.delivered.length →
    ∃ message ∈ socket.delivered, ¬ wanted message
  /-- Completed messages stay. -/
  kept : before ≤ socket.delivered.length

/-- A part that is appended to no beginning of a wanted message spoils the socket. -/
theorem spoiled_take {wanted : List Part → Prop} {socket : PushSocket Part} {part : Part}
    {more : Bool} (astray : ∀ message, wanted message → ¬ socket.outgoing ++ [part] <+: message) :
    Spoiled wanted socket.delivered.length (socket.take part more) := by
  cases more with
  | true =>
    refine ⟨fun _ => astray, fun later => ?_, Nat.le_refl _⟩
    exact absurd later (Nat.lt_irrefl _)
  | false =>
    -- The message is complete, and it would be a beginning of itself.
    refine ⟨fun same => ?_, fun _ => ?_, ?_⟩
    · simp [take] at same
    · refine ⟨socket.outgoing ++ [part], by simp [take], fun good => ?_⟩
      exact astray _ good (List.prefix_refl _)
    · simp [take]

/-- No further part mends a spoiled socket. -/
theorem Spoiled.take {wanted : List Part → Prop} {before : Nat} {socket : PushSocket Part}
    (spoiled : Spoiled wanted before socket) (part : Part) (more : Bool) :
    Spoiled wanted before (socket.take part more) := by
  -- Either the damage is already delivered, or it is still in the outgoing message.
  have kept := spoiled.kept
  rcases Nat.lt_or_ge before socket.delivered.length with later | now
  · -- The broken message has been delivered, and stays delivered.
    obtain ⟨message, member, broken⟩ := spoiled.delivered later
    cases more with
    | true =>
      refine ⟨fun same => ?_, fun _ => ⟨message, member, broken⟩, kept⟩
      exact absurd (show socket.delivered.length = before from same) (by omega)
    | false =>
      have more : (socket.take part false).delivered = socket.delivered ++
        [socket.outgoing ++ [part]] := rfl
      refine ⟨fun same => ?_, fun _ => ⟨message, ?_, broken⟩, ?_⟩
      · simp only [more, List.length_append, List.length_singleton] at same
        omega
      · rw [more]
        exact List.mem_append_left _ member
      · simp only [more, List.length_append, List.length_singleton]
        omega
  · -- The outgoing message only grows, so it still begins nothing that is wanted.
    have same : socket.delivered.length = before := by omega
    subst same
    refine spoiled_take fun message good begins => ?_
    exact spoiled.outgoing rfl message good ((List.prefix_append _ _).trans begins)

end PushSocket

end Ichabod
