import Mathlib.Data.List.Basic

/-! What a ZeroMQ pull socket reports to its reader, part by part and arrival by arrival. -/

namespace Ichabod

/-- Raw bytes of one message part. -/
abbrev Bytes := List UInt8

/-- The result of one `zmq_msg_recv`, with what the message accessors report after it. -/
inductive RecvOutcome where
  /-- One part was received, and its more-flag says whether its message continues. -/
  | part (data : Bytes) (more : Bool)
  /-- The receive timeout passed, so the call failed with `EAGAIN`. -/
  | again
  /-- The call failed with any other error. -/
  | error
deriving DecidableEq

namespace RecvOutcome

/-- `zmq_msg_data`, up to `zmq_msg_size`. -/
def data : RecvOutcome → Bytes
  | .part data _ => data
  -- A failed receive leaves the freshly initialised message empty.
  | .again | .error => []

/-- `zmq_msg_more`, which is still readable after `zmq_msg_close`. -/
def more : RecvOutcome → Bool
  | .part _ more => more
  | .again | .error => false

end RecvOutcome

/-- A multipart message of at least one part. -/
structure Message where
  first : Bytes
  rest : List Bytes
deriving DecidableEq

namespace Message

/-- All parts in order. -/
def parts (message : Message) : List Bytes :=
  message.first :: message.rest

/-- The receive results of the parts behind and including the given one. -/
def outcomesFrom : Bytes → List Bytes → List RecvOutcome
  -- Only the last part is reported without the more-flag.
  | last, [] => [.part last false]
  | data, next :: rest => .part data true :: outcomesFrom next rest

/-- The receive results of one message, whose parts are delivered without a gap. -/
def outcomes (message : Message) : List RecvOutcome :=
  outcomesFrom message.first message.rest

end Message

/-- What happens at the socket between two messages. -/
inductive Arrival where
  /-- A whole message is received. -/
  | message (whole : Message)
  /-- The receive timeout passes without a message. -/
  | timeout
  /-- A receive fails with an error other than `EAGAIN`. -/
  | failure
deriving DecidableEq

namespace Arrival

/-- The receive results that the arrival causes. -/
def outcomes : Arrival → List RecvOutcome
  | .message whole => whole.outcomes
  | .timeout => [.again]
  | .failure => [.error]

/-- The message received, if one was. -/
def message? : Arrival → Option Message
  | .message whole => some whole
  | .timeout | .failure => none

end Arrival

end Ichabod
