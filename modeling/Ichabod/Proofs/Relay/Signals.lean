import Ichabod.Proofs.Relay.MLineIndex

/-! What a webrtc relay signals to its webrtcbin, for any messages that arrive at its control. -/

namespace Ichabod

/-- The low eight bits of an index, extended by their sign. -/
def signalIndex (value : Int) : UInt32 :=
  .ofInt (value.bmod 256)

/-- The signal that a received message asks for, or the fault that the process ends in. -/
def Message.signal (sdp : SdpResults) (message : Message) :
    Except Fault (Option WebrtcbinSignal) :=
  if CString.untilNul message.first = CString.ascii "set_remote_description" then
    if sdp.messageNew ≠ 0 then .error .assertion
    else
      match message.rest[0]?.map CString.untilNul with
      | none => .error .nullRead
      | some answer =>
        if sdp.parseBuffer answer ≠ 0 ∨ sdp.descriptionNew = false then .error .assertion
        else .ok (some (.setRemoteDescription answer))
  else if CString.untilNul message.first = CString.ascii "add_ice_candidate" then
    match message.rest[0]? with
    | none => .error .nullRead
    | some index =>
      -- A candidate that is missing is passed on as NULL.
      .ok (some (.addIceCandidate (signalIndex (CString.ofBytes index).strtol)
        (message.rest[1]?.map CString.ofBytes)))
  else .ok none

/-- Whether an arrival is handled: a message, or the empty one that a failed receive makes. -/
def Arrival.isHandled : Arrival → Bool
  | .message _ | .failure => true
  | .timeout => false

/-- The signal that an arrival asks for, if it is a message. -/
def Arrival.signal (sdp : SdpResults) : Arrival → Except Fault (Option WebrtcbinSignal)
  | .message whole => whole.signal sdp
  | .timeout | .failure => .ok none

/-- The fault that the process ends in at an arrival, if it does. -/
def Arrival.fault? (sdp : SdpResults) (arrival : Arrival) : Option Fault :=
  match arrival.signal sdp with
  | .error fault => some fault
  | .ok _ => none

/-- The signal that a registered function emits, if it returns. -/
def ControlCallback.signal? (webrtcbin : Bool) (sdp : SdpResults) (callback : ControlCallback) :
    Option WebrtcbinSignal :=
  (webrtcRelayCallback webrtcbin sdp callback).toOption.join

/--
The signals emitted so far, by the callbacks invoked.

At each call of `handle_msg`, `created` tells whether the webrtcbin has been made by then.
-/
def ControlMain.signals (created : Nat → Bool) (sdp : SdpResults) (state : ControlMain) :
    List WebrtcbinSignal :=
  state.handled.zipIdx.filterMap fun (call, number) =>
    call.2.bind (ControlCallback.signal? (created number) sdp)

section Relay

variable {sdp : SdpResults}

/-- An index that was cut to eight bits and promoted is the one that is signalled. -/
theorem promoted_eq_signalIndex (value : Int) :
    (Int8.ofInt value).toInt32.toUInt32 = signalIndex value := by
  have promoted := toNat_promoted (Int8.ofInt value)
  have small : -128 ≤ value.bmod 256 ∧ value.bmod 256 < 128 := by
    rw [Int.bmod_def]
    omega
  rw [Int8.toInt_ofInt] at promoted
  -- Both of them wrap around at the same size.
  have wrapped : ((signalIndex value).toNat : Int) = value.bmod 256 % 4294967296 := by
    have size := (UInt32.toNat_ofNat' : (UInt32.ofNat (value.bmod 256 % 2 ^ 32).toNat).toNat = _)
    rw [signalIndex, UInt32.ofInt, size]
    omega
  rw [← UInt32.toNat_inj]
  simp only [Int8.size] at promoted
  split at promoted <;> omega

/-- A callback that is invoked before the webrtcbin is made returns as well, and emits nothing. -/
theorem webrtcRelayCallback_early (callback : ControlCallback) :
    webrtcRelayCallback false sdp callback =
      (webrtcRelayCallback true sdp callback).map fun _ => none := by
  cases callback with
  | createOffer => rfl
  | remoteCandidate mLineIndex candidate => rfl
  | remoteAnswer remoteAnswer =>
    simp only [webrtcRelayCallback, onRemoteAnswer]
    -- Whether it returns is decided in front of the signal.
    split
    · rfl
    · cases remoteAnswer with
      | none => rfl
      | some remoteAnswer =>
        simp only
        split
        · rfl
        · split <;> rfl

/-- The signal of a callback is emitted only if the webrtcbin is there. -/
theorem signal?_eq (webrtcbin : Bool) (callback : ControlCallback) :
    ControlCallback.signal? webrtcbin sdp callback =
      if webrtcbin then ControlCallback.signal? true sdp callback else none := by
  cases webrtcbin with
  | true => rfl
  | false =>
    rw [ControlCallback.signal?, webrtcRelayCallback_early]
    cases webrtcRelayCallback true sdp callback <;> rfl

/-- Invoking a callback that returns emits its signal, and any other ends in its fault. -/
theorem registered_signal (callback : ControlCallback) :
    ((webrtcRelayRegistered sdp callback).map fun _ => some callback).map
        (Option.bind · (ControlCallback.signal? true sdp)) =
      webrtcRelayCallback true sdp callback := by
  rw [webrtcRelayRegistered]
  cases result : webrtcRelayCallback true sdp callback with
  | error fault => rfl
  | ok signal => simp [Except.map, ControlCallback.signal?, result, Except.toOption]

/-- Handling a received message signals what its parts ask for. -/
theorem handleMsg_signal (sdp : SdpResults) (message : Message) :
    (handleMsg (webrtcRelayRegistered sdp) message.record).map
        (Option.bind · (ControlCallback.signal? true sdp)) = message.signal sdp := by
  rw [handleMsg_record, Message.signal]
  -- The request for an offer comes first, and emits nothing.
  split
  · rename_i offer
    rw [registered_signal, offer, if_neg (by decide), if_neg (by decide)]
    rfl
  · split
    · rw [registered_signal]
      obtain ⟨first, rest⟩ := message
      simp only [webrtcRelayCallback, onRemoteAnswer, Message.record]
      cases rest[0]? with
      | none => split <;> rfl
      | some answer =>
        simp only [Option.map_some, CString.text_ofBytes]
        split
        · rfl
        · by_cases parsed : sdp.parseBuffer (CString.untilNul answer) = 0 <;>
            by_cases made : sdp.descriptionNew = false <;> simp [parsed, made, emitOn]
    · split
      · obtain ⟨first, rest⟩ := message
        simp only [handleCandidate, Message.record]
        cases rest[0]? with
        | none => rfl
        | some index =>
          simp only [Option.map_some]
          rw [registered_signal, webrtcRelayCallback, onRemoteCandidate, CString.atoi,
            Int32.toInt8_ofInt, promoted_eq_signalIndex, emitOn, if_pos rfl]
      · rfl

variable {created isInterrupted : Nat → Bool} {turn : Nat} {state : ControlMain}

/-- One more call of `handle_msg` adds the signal of its callback, if the webrtcbin is there. -/
theorem signals_concat (callback : Option ControlCallback) (before record : CtrlMsg)
    (started : List CtrlMsg) :
    ControlMain.signals created sdp ⟨record, started, state.handled ++ [(before, callback)]⟩ =
      state.signals created sdp ++ (if created state.handled.length then
        callback.bind (ControlCallback.signal? true sdp) else none).toList := by
  -- The new call is numbered by those in front of it, and these keep their numbers.
  simp only [ControlMain.signals, List.zipIdx_append, List.filterMap_append]
  congr 1
  cases callback with
  | none => simp
  | some callback =>
    simp only [List.zipIdx_singleton, List.filterMap_cons, List.filterMap_nil, Option.bind_some,
      Nat.zero_add]
    rw [signal?_eq]
    split <;> simp_all

/-- A turn whose arrival returns emits its signal, and leaves the record empty again. -/
theorem controlLoop_emits (created : Nat → Bool) {arrival : Arrival}
    {signal : Option WebrtcbinSignal} (later : List RecvOutcome)
    (running : isInterrupted turn = false) (clear : state.msg = .empty)
    (emits : arrival.signal sdp = .ok signal) :
    ∃ next : ControlMain,
      controlLoop (webrtcRelayRegistered sdp) isInterrupted turn state
          (arrival.outcomes ++ later) =
        controlLoop (webrtcRelayRegistered sdp) isInterrupted (turn + 1) next later ∧
      next.msg = .empty ∧
      next.handled.length = state.handled.length + (if arrival.isHandled then 1 else 0) ∧
      next.signals created sdp = state.signals created sdp ++
        (if arrival.isHandled ∧ created state.handled.length then signal else none).toList := by
  cases arrival with
  | message message =>
    have handling := handleMsg_signal sdp message
    have received : recvMsg state.msg (message.outcomes ++ later) =
        some (true, message.record, later) := by
      rw [clear, recvMsg_message]
    -- The handling returns, since the message has a signal or none.
    cases returned : handleMsg (webrtcRelayRegistered sdp) message.record with
    | error fault =>
      rw [returned, show message.signal sdp = .ok signal from emits] at handling
      cases handling
    | ok callback =>
      rw [returned, show message.signal sdp = .ok signal from emits] at handling
      refine ⟨_, controlLoop_handled running received returned, rfl, List.length_append, ?_⟩
      obtain rfl := Except.ok.inj handling
      rw [signals_concat]
      simp [Arrival.isHandled]
  | timeout =>
    obtain rfl := Except.ok.inj emits
    refine ⟨_, controlLoop_quiet running (recvMsg_timeout state.msg later), clear, rfl, ?_⟩
    simp [Arrival.isHandled, ControlMain.signals]
  | failure =>
    obtain rfl := Except.ok.inj emits
    have received : recvMsg state.msg (Arrival.outcomes .failure ++ later) =
        some (true, .failed, later) := by
      rw [clear, recvMsg_failure]
    refine ⟨_, controlLoop_handled running received (handleMsg_failed _), rfl,
      List.length_append, ?_⟩
    rw [signals_concat]
    simp

/-- A turn whose arrival ends in a fault ends the run, and emits nothing. -/
theorem controlLoop_faults (created : Nat → Bool) {arrival : Arrival} {fault : Fault}
    (later : List RecvOutcome) (running : isInterrupted turn = false) (clear : state.msg = .empty)
    (faults : arrival.signal sdp = .error fault) :
    ∃ final : ControlMain,
      controlLoop (webrtcRelayRegistered sdp) isInterrupted turn state
          (arrival.outcomes ++ later) = (.aborted fault, final) ∧
      final.signals created sdp = state.signals created sdp := by
  -- Only messages can end the process.
  cases arrival with
  | message message =>
    have handling := handleMsg_signal sdp message
    have received : recvMsg state.msg (message.outcomes ++ later) =
        some (true, message.record, later) := by
      rw [clear, recvMsg_message]
    cases returned : handleMsg (webrtcRelayRegistered sdp) message.record with
    | error other =>
      rw [returned, show message.signal sdp = .error fault from faults] at handling
      obtain rfl := Except.error.inj handling
      exact ⟨_, controlLoop_fault running received returned, rfl⟩
    | ok callback =>
      rw [returned, show message.signal sdp = .error fault from faults] at handling
      cases handling
  | timeout | failure => cases faults

/-- How a run ends that sees the given arrivals, and no more of them. -/
def endOfRun (sdp : SdpResults) (isInterrupted : Nat → Bool) (turn : Nat) (seen : List Arrival) :
    ControlEnd :=
  match seen.findSome? (Arrival.fault? sdp) with
  | some fault => .aborted fault
  | none => if isInterrupted (turn + seen.length) then .closed else .waiting

/--
The signals of the arrivals in front of the first one that ends in a fault.

The first of them that is handled is handled as the given call of `handle_msg`. Nothing is emitted
for those that are handled before the webrtcbin is made.
-/
def signalsOfRun (created : Nat → Bool) (sdp : SdpResults) (number : Nat) (seen : List Arrival) :
    List WebrtcbinSignal :=
  let returning := seen.takeWhile fun arrival => (arrival.fault? sdp).isNone
  ((returning.filter Arrival.isHandled).zipIdx number).filterMap fun (arrival, number) =>
    if created number then (arrival.signal sdp).toOption.join else none

/-- From any turn with an empty record, the loop emits the signals of what it sees. -/
theorem controlLoop_signals (created : Nat → Bool) (arrivals : List Arrival) (turn : Nat)
    (state : ControlMain) (clear : state.msg = .empty) :
    let result := controlLoop (webrtcRelayRegistered sdp) isInterrupted turn state
      (arrivals.flatMap Arrival.outcomes)
    let seen := seenFrom isInterrupted turn arrivals
    result.1 = endOfRun sdp isInterrupted turn seen ∧
      result.2.signals created sdp = state.signals created sdp ++
        signalsOfRun created sdp state.handled.length seen := by
  dsimp only
  -- Each arrival is one turn, which goes on from an empty record or ends the run.
  induction arrivals generalizing turn state with
  | nil =>
    by_cases interrupted : isInterrupted turn = true
    · rw [controlLoop_interrupted interrupted]
      simp [seenFrom, endOfRun, signalsOfRun, interrupted]
    · rw [List.flatMap_nil, controlLoop_waiting (by simpa using interrupted)]
      simp [seenFrom, endOfRun, signalsOfRun, interrupted, ControlMain.signals]
  | cons arrival later ih =>
    by_cases interrupted : isInterrupted turn = true
    · rw [controlLoop_interrupted interrupted]
      simp [seenFrom, endOfRun, signalsOfRun, interrupted]
    · have running : isInterrupted turn = false := by simpa using interrupted
      rw [List.flatMap_cons, seenFrom, if_neg interrupted]
      cases reaction : arrival.signal sdp with
      | error fault =>
        obtain ⟨final, ended, kept⟩ :=
          controlLoop_faults created (later.flatMap Arrival.outcomes) running clear reaction
        rw [ended]
        simp [endOfRun, signalsOfRun, Arrival.fault?, reaction, kept]
      | ok signal =>
        obtain ⟨next, moved, nextClear, counted, emitted⟩ :=
          controlLoop_emits created (later.flatMap Arrival.outcomes) running clear reaction
        obtain ⟨ended, signals⟩ := ih (turn + 1) next nextClear
        rw [moved, ended, signals, emitted, counted]
        refine ⟨by simp [endOfRun, Arrival.fault?, reaction, Nat.add_assoc, Nat.add_comm 1], ?_⟩
        -- The arrival takes a number of its own if it is handled.
        cases handled : arrival.isHandled with
        | false => simp [signalsOfRun, Arrival.fault?, reaction, handled]
        | true =>
          cases made : created state.handled.length <;> cases signal <;>
            simp [signalsOfRun, Arrival.fault?, reaction, handled, made, Except.toOption]

end Relay

/--
The webrtc relay signals to its webrtcbin what the received messages ask for, in their order and
each of them once, up to the first message that ends the process.

That is a message for which the SDP library refuses the answer, or one that lacks the part that is
read; and if there is none, the thread goes on until it finds itself interrupted. A message that is
handled before the webrtcbin is made ends the process or returns as any other does, but what it asks
for is lost.
-/
theorem control_signals (created : Nat → Bool) (sdp : SdpResults) (bound : Int)
    (isInterrupted : Nat → Bool) (arrivals : List Arrival) :
    let result := controlZmqMain (webrtcRelayRegistered sdp) bound isInterrupted
      (arrivals.flatMap Arrival.outcomes)
    let seen := seenFrom isInterrupted 0 arrivals
    if bound ≠ 0 then result.1 = .unbound ∧ result.2.signals created sdp = []
    else
      result.1 = endOfRun sdp isInterrupted 0 seen ∧
        result.2.signals created sdp = signalsOfRun created sdp 0 seen := by
  -- A thread that cannot bind its socket receives nothing, and any other one starts empty.
  dsimp only
  rw [controlZmqMain]
  split
  · exact ⟨rfl, rfl⟩
  · exact controlLoop_signals created arrivals 0 ⟨.empty, [], []⟩ rfl

end Ichabod
