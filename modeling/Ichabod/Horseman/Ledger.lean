import Ichabod.Horseman.Receiver
import Ichabod.Lib.Ledger

/-! The heap blocks that handling a message creates, and who releases them. -/

namespace Ichabod

open Ledger

/-- A block that is allocated for one message. -/
inductive Block where
  /-- The `struct envelope_s` of the part at that place. -/
  | node (place : Nat)
  /-- The string that `receive_message` made of that part. -/
  | text (place : Nat)
  /-- The `struct msg_dispatch_s`. -/
  | dispatch
  /-- The `struct horseman_frame_s` or `struct horseman_output_s`. -/
  | record
deriving DecidableEq

/-- `envelope_free`, on the chain whose first node belongs to the part at that place. -/
def envelopeFree : Nat → Envelope → List (Entry Block)
  | _, [] => []
  | place, szData :: next =>
    .use (.node place) :: (if szData.isSome then [.release (.text place)] else []) ++
      .release (.node place) :: envelopeFree (place + 1) next

/-- Hangs a new string on the chain. -/
def putEntries (env : Envelope) : List (Entry Block) :=
  -- Only the root can be without a string, and it is filled before the chain grows.
  if env = [none] then [.create (.text 0), .use (.node 0)]
  else
    [.create (.text env.length), .use (.node (env.length - 1)), .create (.node env.length),
      .use (.node env.length)]

/-- The loop of `receive_message`, from a given chain and the receive results to come. -/
def receiveEntries : Envelope → List RecvOutcome → List (Entry Block)
  | _, [] => []
  | env, .again :: _ => envelopeFree 0 env
  | env, outcome :: rest =>
    let next := Envelope.put env (.ofBytes outcome.data)
    putEntries env ++ if outcome.more then receiveEntries next rest else []

variable {Double : Type}

/-- The string that the record points to, which the parser took from the chain. -/
def MsgDispatch.string : MsgDispatch Double → Option Block
  | .frame data => data.szData.map fun _ => .text 1
  | .output _ => some (.text 2)

/-- `envelope_parse_frame`, for the frame that it returns. -/
def parseFrameEntries (data : HorsemanFrame Double) (env : Envelope) : List (Entry Block) :=
  [.create .record, .use (.node 1), .use (.text 1)] ++
    if data.eos then envelopeFree 1 env
    else
      -- The image stays behind when the rest of the chain is given back.
      [.use (.node 2), .use (.text 2)] ++ envelopeFree 1 (env.set 0 none)

/-- `envelope_parse_output`. -/
def parseOutputEntries (env : Envelope) : List (Entry Block) :=
  [.create .record, .use (.node 1), .use (.text 1), .use (.node 2)] ++
    -- The node of the type name loses its string as well as the node of the location.
    envelopeFree 1 ((env.set 0 none).set 1 none)

/-- `parse_envelope` up to the test of `async_msg`, for the record that it makes. -/
def parseEntries (asyncMsg : Option (MsgDispatch Double)) (env : Envelope) :
    List (Entry Block) :=
  [.create .dispatch, .use (.node 0), .use (.text 0)] ++
    match asyncMsg with
    | none => [.release .dispatch]
    | some (.frame data) => parseFrameEntries data env.tail ++ [.use .record, .use .dispatch]
    | some (.output _) => parseOutputEntries env.tail ++ [.use .dispatch]

/-- Gives back a record and the string that it points to, if there is one. -/
def recordFree (string : Option Block) : List (Entry Block) :=
  .use .record :: (string.map Entry.release).toList ++ [.release .record]

/-- `video_frame_free`. -/
def videoFrameFree (frame : HorsemanFrame Double) : List (Entry Block) :=
  recordFree (frame.szData.map fun _ => .text 1)

/-- `output_free`. -/
def outputFree : List (Entry Block) :=
  recordFree (some (.text 2))

/-- `after_callback_f`, for the data of the dispatch. -/
def MsgDispatch.afterCallback : MsgDispatch Double → List (Entry Block)
  | .frame data => videoFrameFree data
  | .output _ => outputFree

/-- What a callback reads of its job, for as long as it runs. -/
def MsgDispatch.callback (asyncMsg : MsgDispatch Double) : List (Entry Block) :=
  [.use .dispatch, .use .record] ++ (asyncMsg.string.map Entry.use).toList

/-- Where the receiver thread stands in one call of `process_next_message`. -/
inductive HandlingPc where
  /-- The receive has timed out, and the call has returned. -/
  | timedOut
  /-- At the call of `parse_envelope`. -/
  | parsing
  /-- At the call of `uv_queue_work`. -/
  | queueing
  /-- Behind a call of `uv_queue_work` that failed. -/
  | rejected
  /-- At the last call of `envelope_free`. -/
  | freeing
  | returned
deriving DecidableEq

/-- How far the job of a message has come. -/
inductive JobPc where
  /-- There is no job, or it has not been accepted. -/
  | absent
  | queued
  /-- A worker is in `issue_callback`. -/
  | issuing
  /-- The after callback is due. -/
  | issued
  /-- The after callback, or the rejection path in its place, is done. -/
  | ended
deriving DecidableEq

/-- One call of `process_next_message`, with the job that came of it. -/
structure Handling (Double : Type) where
  /-- The chain as it was received. -/
  envelope : Envelope
  receiver : HandlingPc
  asyncMsg : Option (MsgDispatch Double)
  job : JobPc
deriving DecidableEq

/-- A step in handling a message that has been received. -/
inductive HandlingAction where
  | parse
  | queueWork (ret : Int)
  | reject
  | free
  /-- A worker calls `issue_callback`. -/
  | issue
  /-- The callback returns. -/
  | issued
  /-- The loop thread calls `after_issue_callback`. -/
  | after
deriving DecidableEq

namespace Handling

/-- The call, once `receive_message` has returned. -/
def begun : Option Envelope → Handling Double
  | none => ⟨[none], .timedOut, none, .absent⟩
  | some msg => ⟨msg, .parsing, none, .absent⟩

/-- The chain that is still there after `parse_envelope`. -/
def remaining (handling : Handling Double) : Envelope :=
  -- The parsers set `msg->next` to NULL.
  if handling.asyncMsg.isSome then handling.envelope.take 1 else handling.envelope

/-- One step with its entries, where a failed assertion leads to no further state. -/
def step [Zero Double] (atof : Bytes → Double) (handling : Handling Double) :
    HandlingAction → Option (Handling Double × List (Entry Block))
  | .parse =>
    match handling.receiver, parseDispatch atof handling.envelope with
    | .parsing, .ok asyncMsg =>
      some ({ handling with
          receiver := if asyncMsg.isSome then .queueing else .freeing
          asyncMsg := asyncMsg },
        parseEntries asyncMsg handling.envelope)
    | _, _ => none
  | .queueWork ret =>
    match handling.receiver with
    | .queueing =>
      if ret ≠ 0 then some ({ handling with receiver := .rejected }, [.use .dispatch])
      else some ({ handling with receiver := .freeing, job := .queued }, [.use .dispatch])
    | _ => none
  | .reject =>
    match handling.receiver, handling.asyncMsg with
    | .rejected, some asyncMsg =>
      some ({ handling with receiver := .freeing, job := .ended },
        .use .dispatch :: asyncMsg.afterCallback)
    | _, _ => none
  | .free =>
    match handling.receiver with
    | .freeing =>
      some ({ handling with receiver := .returned }, envelopeFree 0 handling.remaining)
    | _ => none
  | .issue =>
    match handling.job, handling.asyncMsg with
    | .queued, some asyncMsg => some ({ handling with job := .issuing }, asyncMsg.callback)
    | _, _ => none
  | .issued =>
    match handling.job, handling.asyncMsg with
    | .issuing, some asyncMsg => some ({ handling with job := .issued }, asyncMsg.callback)
    | _, _ => none
  | .after =>
    match handling.job, handling.asyncMsg with
    | .issued, some asyncMsg =>
      some ({ handling with job := .ended },
        -- The work count is reached through the dispatch record.
        .use .dispatch :: asyncMsg.afterCallback ++ [.use .dispatch])
    | _, _ => none

end Handling

/-- All calls of `process_next_message` so far, with the ledger of their blocks. -/
structure Handlings (Double : Type) where
  calls : List (Handling Double)
  log : List (Nat × Entry Block)
deriving DecidableEq

/-- A step of the threads that handle messages. -/
inductive HandlingsAction where
  /-- The receiver thread calls `process_next_message`. -/
  | receive (arrival : Arrival)
  /-- A step in the handling of the message with that number. -/
  | act (number : Nat) (action : HandlingAction)
deriving DecidableEq

namespace Handlings

/-- The state before the first call. -/
def start : Handlings Double :=
  ⟨[], []⟩

/-- The receiver thread is between two calls. -/
def receiverIdle (s : Handlings Double) : Prop :=
  ∀ handling ∈ s.calls, handling.receiver = .timedOut ∨ handling.receiver = .returned

instance (s : Handlings Double) : Decidable s.receiverIdle :=
  inferInstanceAs (Decidable (∀ handling ∈ s.calls, _))

/-- One step of the receiver thread, a pool worker or the loop thread. -/
def step [Zero Double] (atof : Bytes → Double) (s : Handlings Double) :
    HandlingsAction → Option (Handlings Double)
  | .receive arrival =>
    if s.receiverIdle then
      match receiveMessage [none] arrival.outcomes with
      | none => none
      | some (msg, _) =>
        some
          { calls := s.calls ++ [.begun msg]
            log := s.log ++ entriesOf s.calls.length
              (.create (.node 0) :: receiveEntries [none] arrival.outcomes) }
    else none
  | .act number action =>
    match s.calls[number]? with
    | none => none
    | some handling =>
      match handling.step atof action with
      | none => none
      | some (next, entries) =>
        some
          { calls := s.calls.set number next
            log := s.log ++ entriesOf number entries }

end Handlings

end Ichabod
