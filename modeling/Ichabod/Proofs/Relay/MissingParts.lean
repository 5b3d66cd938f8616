import Ichabod.Proofs.Control.Receive
import Ichabod.Relay.WebrtcRelay

/-! Which control messages make the relay read, or pass on, a part that is not there. -/

namespace Ichabod

/-- The number of parts that a message of its type needs. -/
def Message.controlParts (message : Message) : Nat :=
  if CString.untilNul message.first = CString.ascii "set_remote_description" then 2
  else if CString.untilNul message.first = CString.ascii "add_ice_candidate" then 3
  else 1

/-- A control message has all the parts that its type needs. -/
def Message.HasControlParts (message : Message) : Prop :=
  message.controlParts ≤ message.parts.length

instance (message : Message) : Decidable message.HasControlParts :=
  inferInstanceAs (Decidable (_ ≤ _))

/-- A call that is given every string it takes. -/
def ControlCallback.Given : ControlCallback → Prop
  | .createOffer => True
  | .remoteAnswer answer => answer.isSome = true
  | .remoteCandidate _ candidate => candidate.isSome = true

/--
The handling of a message reads no missing part and passes none on.

A message that lacks a part invokes no callback.
-/
structure HandledSafely (message : Message) (result : Except Fault (Option ControlCallback)) :
    Prop where
  noNullRead : result ≠ .error .nullRead
  given : ∀ callback, result = .ok (some callback) → callback.Given
  dropped : ¬ message.HasControlParts → result = .ok none

/-- What comes of a candidate, once its type has been recognised. -/
def handleCandidate (registered : ControlCallback → Except Fault Unit) (msg : CtrlMsg) :
    Except Fault (Option ControlCallback) :=
  match msg.data with
  | none => .error .nullRead
  | some data =>
    (registered (.remoteCandidate data.atoi.toInt8 msg.data2)).map fun _ =>
      some (.remoteCandidate data.atoi.toInt8 msg.data2)

/-- A candidate with an index has it read, and is passed to the registered function. -/
theorem handleCandidate_present {registered : ControlCallback → Except Fault Unit} {msg : CtrlMsg}
    {data : CString} (present : msg.data = some data) :
    handleCandidate registered msg =
      (registered (.remoteCandidate data.atoi.toInt8 msg.data2)).map fun _ =>
        some (.remoteCandidate data.atoi.toInt8 msg.data2) := by
  rw [handleCandidate, present]

/-- Handling a received message, with all comparisons made on the text of its first part. -/
theorem handleMsg_record (registered : ControlCallback → Except Fault Unit) (message : Message) :
    handleMsg registered message.record =
      if CString.untilNul message.first = CString.ascii "create_offer" then
        (registered .createOffer).map fun _ => some .createOffer
      else if CString.untilNul message.first = CString.ascii "set_remote_description" then
        (registered (.remoteAnswer message.record.data)).map fun _ =>
          some (.remoteAnswer message.record.data)
      else if CString.untilNul message.first = CString.ascii "add_ice_candidate" then
        handleCandidate registered message.record
      else .ok none := by
  have offer := CString.literal_same_ofBytes "create_offer" message.first (by decide)
  have answer := CString.literal_same_ofBytes "set_remote_description" message.first (by decide)
  have candidate := CString.literal_same_ofBytes "add_ice_candidate" message.first (by decide)
  simp only [handleMsg, Message.record, offer, answer, candidate]
  rfl

section Relay

variable {sdp : SdpResults} {message : Message}

/-- No registered function reads a string that is not there, if it is given all of them. -/
theorem webrtcRelayRegistered_given {callback : ControlCallback} (given : callback.Given) :
    webrtcRelayRegistered sdp callback ≠ .error .nullRead := by
  -- Only `on_remote_answer` reads its string, and it may still fail its assertions.
  cases callback with
  | createOffer => simp [webrtcRelayRegistered, webrtcRelayCallback, Except.map]
  | remoteCandidate mLineIndex candidate =>
    simp [webrtcRelayRegistered, webrtcRelayCallback, Except.map]
  | remoteAnswer answer =>
    obtain ⟨text, rfl⟩ := Option.isSome_iff_exists.mp given
    simp only [webrtcRelayRegistered, webrtcRelayCallback, onRemoteAnswer]
    split
    · simp [Except.map]
    · split
      · simp [Except.map]
      · split <;> simp [Except.map]

/-- Invoking a callback with all its strings is safe for a message with all its parts. -/
theorem handledSafely_given {callback : ControlCallback} (given : callback.Given)
    (complete : message.HasControlParts) :
    HandledSafely message
      ((webrtcRelayRegistered sdp callback).map fun _ => some callback) := by
  have reads : webrtcRelayRegistered sdp callback ≠ _ := webrtcRelayRegistered_given given
  cases returned : webrtcRelayRegistered sdp callback with
  | error fault =>
    rw [returned] at reads
    refine ⟨fun same => reads ?_, fun _ same => ?_, fun lacks => absurd complete lacks⟩
    · rw [Except.error.inj same]
    · cases same
  | ok _ =>
    refine ⟨by simp [Except.map], fun other same => ?_, fun lacks => absurd complete lacks⟩
    simp only [Except.map, Except.ok.injEq, Option.some.injEq] at same
    exact same ▸ given

/-- A message of no known type is handled safely. -/
theorem handledSafely_none : HandledSafely message (.ok none) :=
  ⟨by simp, by simp, fun _ => rfl⟩

/-- With all its parts, a message is handled safely. -/
theorem handleMsg_safe (complete : message.HasControlParts) :
    HandledSafely message (handleMsg (webrtcRelayRegistered sdp) message.record) := by
  -- The number of parts leaves no slot empty that the branch of the type looks at.
  obtain ⟨type, args⟩ := message
  have enough := complete
  simp only [Message.HasControlParts, Message.controlParts, Message.parts, List.length_cons]
    at enough
  rw [handleMsg_record]
  split
  · have given : ControlCallback.createOffer.Given := trivial
    exact handledSafely_given given complete
  · split
    · rename_i answer
      rw [if_pos answer] at enough
      match args with
      | [] => simp at enough
      | data :: rest => exact handledSafely_given rfl complete
    · rename_i noAnswer
      rw [if_neg noAnswer] at enough
      split
      · rename_i candidate
        rw [if_pos candidate] at enough
        match args with
        | [] => simp at enough
        | [_] => simp at enough
        | data :: data2 :: rest =>
          -- Both strings are there, so the index is read and the candidate is passed on.
          have given : (ControlCallback.remoteCandidate
              (CString.ofBytes data).atoi.toInt8 (some (.ofBytes data2))).Given := rfl
          rw [handleCandidate_present rfl]
          exact handledSafely_given given complete
      · exact handledSafely_none

/-- Without one of them, it is not. -/
theorem handleMsg_unsafe (lacks : ¬ message.HasControlParts) :
    ¬ HandledSafely message (handleMsg (webrtcRelayRegistered sdp) message.record) := by
  -- Whatever the branch of the type does, it does not drop the message.
  intro safe
  have dropped := safe.dropped lacks
  rw [handleMsg_record] at dropped
  have invoked : ∀ callback : ControlCallback,
      (webrtcRelayRegistered sdp callback).map (fun _ => some callback) ≠ .ok none := by
    intro callback
    cases webrtcRelayRegistered sdp callback <;> simp [Except.map]
  split at dropped
  · exact invoked _ dropped
  · split at dropped
    · exact invoked _ dropped
    · rename_i noAnswer
      split at dropped
      · rw [handleCandidate] at dropped
        split at dropped
        · cases dropped
        · exact invoked _ dropped
      · -- Every message has the one part that an unknown type needs.
        rename_i noCandidate
        refine lacks ?_
        simp [Message.HasControlParts, Message.controlParts, noAnswer, noCandidate, Message.parts]

/-- A run that ended in no missing read, and in which every callback was given its strings. -/
def RunSafe (result : ControlEnd × ControlMain) : Prop :=
  result.1 ≠ .aborted .nullRead ∧
    ∀ call ∈ result.2.handled, ∀ callback, call.2 = some callback → callback.Given

/-- From any turn with an empty record, complete messages are handled safely. -/
theorem controlLoop_safe (isInterrupted : Nat → Bool) (arrivals : List Arrival) (turn : Nat)
    (state : ControlMain)
    (complete : ∀ message, .message message ∈ arrivals → message.HasControlParts)
    (clear : state.msg = .empty)
    (given : ∀ call ∈ state.handled, ∀ callback, call.2 = some callback → callback.Given) :
    RunSafe (controlLoop (webrtcRelayRegistered sdp) isInterrupted turn state
      (arrivals.flatMap Arrival.outcomes)) := by
  -- Each arrival is one turn, which goes on from an empty record or ends in an assertion.
  induction arrivals generalizing turn state with
  | nil =>
    by_cases interrupted : isInterrupted turn = true
    · rw [controlLoop_interrupted interrupted]
      exact ⟨by simp, given⟩
    · rw [List.flatMap_nil, controlLoop_waiting (by simpa using interrupted)]
      exact ⟨by simp, given⟩
  | cons arrival later ih =>
    have completeLater : ∀ message, .message message ∈ later → message.HasControlParts :=
      fun message member => complete message (List.mem_cons_of_mem _ member)
    by_cases interrupted : isInterrupted turn = true
    · rw [controlLoop_interrupted interrupted]
      exact ⟨by simp, given⟩
    · have running : isInterrupted turn = false := by simpa using interrupted
      rw [List.flatMap_cons]
      cases arrival with
      | timeout =>
        rw [controlLoop_quiet running (recvMsg_timeout state.msg _)]
        exact ih _ _ completeLater clear given
      | failure =>
        have received : recvMsg state.msg (Arrival.outcomes .failure ++ later.flatMap _) = _ :=
          clear ▸ recvMsg_failure (later.flatMap Arrival.outcomes)
        rw [controlLoop_handled running received (handleMsg_failed _)]
        refine ih _ _ completeLater rfl fun call member callback same => ?_
        rcases List.mem_append.mp member with earlier | last
        · exact given call earlier callback same
        · rw [List.mem_singleton.mp last] at same
          cases same
      | message message =>
        have safe : HandledSafely message (handleMsg (webrtcRelayRegistered sdp) _) :=
          handleMsg_safe (complete message List.mem_cons_self)
        have received : recvMsg state.msg (message.outcomes ++ later.flatMap Arrival.outcomes) =
            some (true, message.record, later.flatMap Arrival.outcomes) :=
          clear ▸ recvMsg_message message _
        cases handled : handleMsg (webrtcRelayRegistered sdp) message.record with
        | error fault =>
          rw [Arrival.outcomes, controlLoop_fault running received handled]
          refine ⟨fun same => safe.noNullRead ?_, given⟩
          rw [handled, ControlEnd.aborted.inj same]
        | ok callback =>
          rw [Arrival.outcomes, controlLoop_handled running received handled]
          refine ih _ _ completeLater rfl fun call member invoked same => ?_
          rcases List.mem_append.mp member with earlier | last
          · exact given call earlier invoked same
          · rw [List.mem_singleton.mp last] at same
            exact safe.given invoked (handled.trans (congrArg Except.ok same))

/--
A received message is handled safely exactly if it has all the parts that its type needs.

In a run whose messages all have them, no missing part is ever read or passed on.
-/
theorem handled_safely_iff_parts (sdp : SdpResults) :
    (∀ (message : Message) (later : List RecvOutcome), ∃ msg,
      recvMsg .empty ((Arrival.message message).outcomes ++ later) = some (true, msg, later) ∧
        (HandledSafely message (handleMsg (webrtcRelayRegistered sdp) msg) ↔
          message.HasControlParts)) ∧
    ∀ (bound : Int) (isInterrupted : Nat → Bool) (arrivals : List Arrival),
      (∀ message, .message message ∈ arrivals → message.HasControlParts) →
        RunSafe (controlZmqMain (webrtcRelayRegistered sdp) bound isInterrupted
          (arrivals.flatMap Arrival.outcomes)) := by
  refine ⟨fun message later => ⟨message.record, recvMsg_message message later, ?_⟩,
    fun bound isInterrupted arrivals complete => ?_⟩
  · -- The record of a message is what its parts were received into.
    constructor
    · intro safe
      by_contra lacks
      exact handleMsg_unsafe lacks safe
    · exact handleMsg_safe
  · unfold controlZmqMain
    split
    · exact ⟨by simp, by simp⟩
    · exact controlLoop_safe isInterrupted arrivals 0 ⟨.empty, [], []⟩ complete rfl (by simp)

end Relay

/-- An SDP library that accepts everything. -/
def lenientSdp : SdpResults :=
  ⟨0, fun _ => 0, true⟩

/-- An answer with its text. -/
def wholeAnswer : Message :=
  ⟨CString.ascii "set_remote_description", [CString.ascii "v=0"]⟩

/-- A run that receives a whole answer is safe. -/
theorem wholeAnswer_safe :
    RunSafe (controlZmqMain (webrtcRelayRegistered lenientSdp) 0 (fun _ => false)
      ([.message wholeAnswer].flatMap Arrival.outcomes)) := by
  refine (handled_safely_iff_parts lenientSdp).2 0 (fun _ => false) [.message wholeAnswer] ?_
  intro message member
  simp only [List.mem_singleton, Arrival.message.injEq] at member
  subst member
  decide

/-- Short messages of the known types make the process read, or pass on, what is not there. -/
theorem short_messages_unsafe :
    handleMsg (webrtcRelayRegistered lenientSdp)
        (Message.record ⟨CString.ascii "set_remote_description", []⟩) = .error .nullRead ∧
      handleMsg (webrtcRelayRegistered lenientSdp)
        (Message.record ⟨CString.ascii "add_ice_candidate", []⟩) = .error .nullRead ∧
      handleMsg (webrtcRelayRegistered lenientSdp)
          (Message.record ⟨CString.ascii "add_ice_candidate", [CString.ascii "0"]⟩) =
        .ok (some (.remoteCandidate 0 none)) ∧
      ¬ ∀ message : Message, HandledSafely message
        (handleMsg (webrtcRelayRegistered lenientSdp) message.record) := by
  have read : handleMsg (webrtcRelayRegistered lenientSdp)
      (Message.record ⟨CString.ascii "add_ice_candidate", []⟩) = .error .nullRead := rfl
  exact ⟨rfl, read, by decide, fun all => (all _).noNullRead read⟩

end Ichabod
