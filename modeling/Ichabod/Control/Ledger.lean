import Ichabod.Control.Receive
import Ichabod.Lib.Ledger

/-! The strings that the messaging thread of a webrtc control allocates, and where it frees them. -/

namespace Ichabod

open Ledger

/-- The strings that the slots of a record point to, by the order of their allocation. -/
structure CtrlStrings where
  type : Option Nat
  data : Option Nat
  data2 : Option Nat
deriving DecidableEq

namespace CtrlStrings

/-- The record with all its bytes zero. -/
def empty : CtrlStrings :=
  ⟨none, none, none⟩

/-- All strings that the record points to. -/
def held (msg : CtrlStrings) : List Nat :=
  msg.type.toList ++ msg.data.toList ++ msg.data2.toList

/-- Puts a new string into the first free slot, or frees it if there is none. -/
def put (msg : CtrlStrings) (szMsg : Nat) : CtrlStrings × List (Entry Nat) :=
  if msg.type.isNone then ({ msg with type := some szMsg }, [])
  else if msg.data.isNone then ({ msg with data := some szMsg }, [])
  else if msg.data2.isNone then ({ msg with data2 := some szMsg }, [])
  else (msg, [.release szMsg])

end CtrlStrings

/-- What `recv_msg` does with its strings, where `made` of them have been allocated before. -/
def recvMsgEntries (made : Nat) (msg : CtrlStrings) :
    List RecvOutcome → List (Entry Nat) × CtrlStrings × Nat
  | [] => ([], msg, made)
  | .again :: _ => ([], msg, made)
  | outcome :: rest =>
    let put := msg.put made
    -- The part is copied before it is put into its slot.
    let entries := [.create made, .use made] ++ put.2
    if outcome.more then
      let later := recvMsgEntries (made + 1) put.1 rest
      (entries ++ later.1, later.2)
    else (entries, put.1, made + 1)

/-- What `handle_msg` reads, for the callback that it invokes. -/
def handleMsgEntries (msg : CtrlStrings) (callback : Option ControlCallback) : List (Entry Nat) :=
  -- The message is printed first, and its type is compared.
  (msg.held ++ msg.type.toList ++
    match callback with
    | some (.remoteAnswer _) => msg.data.toList
    | some (.remoteCandidate _ _) => msg.data.toList ++ msg.data2.toList
    | some .createOffer | none => []).map .use

/-- What `clear_msg` frees. -/
def clearMsgEntries (msg : CtrlStrings) : List (Entry Nat) :=
  (msg.type.map Entry.release).toList ++ (msg.data.map Entry.release).toList ++
    (msg.data2.map Entry.release).toList

/-- The `while` loop of `zmq_main`, with the strings that are left in the record at its end. -/
def controlLoopEntries (registered : ControlCallback → Except Fault Unit)
    (isInterrupted : Nat → Bool) (turn : Nat) (msg : CtrlMsg) (strings : CtrlStrings)
    (made : Nat) (outcomes : List RecvOutcome) : List (Entry Nat) × CtrlStrings :=
  if isInterrupted turn then ([], strings)
  else
    let (received, strings, made) := recvMsgEntries made strings outcomes
    match _ : recvMsg msg outcomes with
    | none => (received, strings)
    | some (false, msg, rest) =>
      let (later, strings) :=
        controlLoopEntries registered isInterrupted (turn + 1) msg strings made rest
      (received ++ later, strings)
    | some (true, msg, rest) =>
      match handleMsg registered msg with
      -- The process ends while the message is handled.
      | .error _ => (received ++ handleMsgEntries strings none, strings)
      | .ok callback =>
        let (later, left) := controlLoopEntries registered isInterrupted (turn + 1)
          (clearMsg msg) .empty made rest
        (received ++ handleMsgEntries strings callback ++ clearMsgEntries strings ++ later, left)
termination_by outcomes.length
decreasing_by all_goals exact recvMsg_shorter ‹_›

/-- The strings of one run of `zmq_main`, for the return value of its `zmq_bind`. -/
def controlMainEntries (registered : ControlCallback → Except Fault Unit) (bound : Int)
    (isInterrupted : Nat → Bool) (outcomes : List RecvOutcome) : List (Entry Nat) :=
  if bound ≠ 0 then []
  else (controlLoopEntries registered isInterrupted 0 .empty .empty 0 outcomes).1

end Ichabod
