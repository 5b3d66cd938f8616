import Ichabod.Control.Receive

/-! The messaging thread handles each received message once, from an empty record. -/

namespace Ichabod

/-- The strings of a control message, each read as text. -/
structure ControlTexts where
  type : Option Bytes
  data : Option Bytes
  data2 : Option Bytes
deriving DecidableEq

/-- What a record reads as. -/
def CtrlMsg.texts (msg : CtrlMsg) : ControlTexts :=
  ⟨msg.type.map CString.text, msg.data.map CString.text, msg.data2.map CString.text⟩

/-- The texts of the first three parts of a message. -/
def Message.texts (message : Message) : ControlTexts :=
  ⟨some (CString.untilNul message.first), message.rest[0]?.map CString.untilNul,
    message.rest[1]?.map CString.untilNul⟩

/-- The record that a message is received into. -/
def Message.record (message : Message) : CtrlMsg :=
  ⟨some (.ofBytes message.first), message.rest[0]?.map CString.ofBytes,
    message.rest[1]?.map CString.ofBytes⟩

/-- The record that a failed receive leaves, which holds nothing but an empty type. -/
def CtrlMsg.failed : CtrlMsg :=
  ⟨some (.ofBytes []), none, none⟩

/-- `handle_msg` returns for the message. -/
def Message.HandlingReturns (registered : ControlCallback → Except Fault Unit)
    (message : Message) : Prop :=
  ∃ callback, handleMsg registered message.record = .ok callback

/-- The calls of `handle_msg` that an arrival leads to: the texts, and the callback invoked. -/
def Arrival.handled (registered : ControlCallback → Except Fault Unit) :
    Arrival → List (ControlTexts × Option ControlCallback)
  | .message whole => [(whole.texts, (handleMsg registered whole.record).toOption.join)]
  | .timeout => []
  | .failure => [(⟨some [], none, none⟩, none)]

/-- The arrivals that come before the thread finds itself interrupted. -/
def seenFrom (isInterrupted : Nat → Bool) : Nat → List Arrival → List Arrival
  | _, [] => []
  | turn, arrival :: later =>
    if isInterrupted turn then [] else arrival :: seenFrom isInterrupted (turn + 1) later

/-- A message's record reads as the texts of its first three parts. -/
theorem record_texts (message : Message) : message.record.texts = message.texts := by
  -- A part that was copied into a string reads up to its first NUL.
  have reads : CString.text ∘ CString.ofBytes = CString.untilNul :=
    funext fun data => CString.text_ofBytes data
  simp [Message.record, Message.texts, CtrlMsg.texts, reads]

/-- A record whose slots are all taken drops every further part. -/
theorem put_full (type data data2 szMsg : CString) :
    CtrlMsg.put ⟨some type, some data, some data2⟩ szMsg = ⟨some type, some data, some data2⟩ :=
  rfl

/-- Clearing a record empties every slot. -/
theorem clearMsg_empty (msg : CtrlMsg) : clearMsg msg = .empty := by
  -- Each slot is either cleared, or was empty to begin with.
  obtain ⟨type, data, data2⟩ := msg
  cases type <;> cases data <;> cases data2 <;> rfl

/-- The parts of a delivered message are put into the record one after the other. -/
theorem recvMsg_outcomesFrom (msg : CtrlMsg) (part : Bytes) (parts : List Bytes)
    (later : List RecvOutcome) :
    recvMsg msg (Message.outcomesFrom part parts ++ later) =
      some (true, (part :: parts).foldl (fun msg part => msg.put (.ofBytes part)) msg, later) := by
  -- Every part but the last announces the next one.
  induction parts generalizing msg part with
  | nil => simp [Message.outcomesFrom, recvMsg, RecvOutcome.data, RecvOutcome.more]
  | cons next parts ih =>
    have filled := ih (msg.put (.ofBytes part)) next
    simpa [Message.outcomesFrom, recvMsg, RecvOutcome.data, RecvOutcome.more] using filled

/-- Parts beyond the third are discarded. -/
theorem foldl_put_full (type data data2 : CString) (parts : List Bytes) :
    parts.foldl (fun (msg : CtrlMsg) part => msg.put (.ofBytes part))
        ⟨some type, some data, some data2⟩ = ⟨some type, some data, some data2⟩ := by
  -- Each further part is dropped, so the record never changes.
  induction parts with
  | nil => rfl
  | cons part parts ih => rw [List.foldl_cons, put_full, ih]

/-- From an empty record, a delivered message is received into its own record. -/
theorem recvMsg_message (message : Message) (later : List RecvOutcome) :
    recvMsg .empty (message.outcomes ++ later) = some (true, message.record, later) := by
  obtain ⟨first, rest⟩ := message
  have received : recvMsg .empty (Message.outcomesFrom first rest ++ later) = _ :=
    recvMsg_outcomesFrom .empty first rest later
  rw [Message.outcomes, received]
  -- The first three parts find the three slots in order.
  match rest with
  | [] => rfl
  | [_] => rfl
  | second :: third :: further =>
    have full := foldl_put_full (.ofBytes first) (.ofBytes second) (.ofBytes third) further
    exact congrArg (fun msg => some (true, msg, later)) full

/-- A timeout leaves the record as it was. -/
theorem recvMsg_timeout (msg : CtrlMsg) (later : List RecvOutcome) :
    recvMsg msg (Arrival.outcomes .timeout ++ later) = some (false, msg, later) := by
  simp [Arrival.outcomes, recvMsg]

/-- A failed receive leaves an empty type, as if an empty message had been received. -/
theorem recvMsg_failure (later : List RecvOutcome) :
    recvMsg .empty (Arrival.outcomes .failure ++ later) = some (true, .failed, later) := by
  -- The message is empty and has no more-flag, so it ends the loop like a last part.
  simp [Arrival.outcomes, recvMsg, RecvOutcome.data, RecvOutcome.more, CtrlMsg.put, CtrlMsg.empty,
    CtrlMsg.failed]

/-- Handling a failed receive invokes no callback. -/
theorem handleMsg_failed (registered : ControlCallback → Except Fault Unit) :
    handleMsg registered .failed = .ok none := by
  -- No message type is empty.
  rfl

section Loop

variable {registered : ControlCallback → Except Fault Unit} {isInterrupted : Nat → Bool}
  {turn : Nat} {state : ControlMain} {outcomes rest : List RecvOutcome} {msg : CtrlMsg}

/-- A turn that receives nothing only notes its start. -/
theorem controlLoop_quiet (running : isInterrupted turn = false)
    (received : recvMsg state.msg outcomes = some (false, msg, rest)) :
    controlLoop registered isInterrupted turn state outcomes =
      controlLoop registered isInterrupted (turn + 1)
        { state with msg := msg, started := state.started ++ [state.msg] } rest := by
  -- Of the three outcomes of a receive, only the timeout fits.
  rw [controlLoop, if_neg (by simp [running])]
  dsimp only
  split
  · rename_i waiting
    simp [received] at waiting
  · rename_i quiet
    simp only [received, Option.some.injEq, Prod.mk.injEq, true_and] at quiet
    rw [← quiet.1, ← quiet.2]
  · rename_i got
    simp [received] at got

/-- A turn that receives something handles the record and clears it. -/
theorem controlLoop_handled {callback : Option ControlCallback}
    (running : isInterrupted turn = false)
    (received : recvMsg state.msg outcomes = some (true, msg, rest))
    (returned : handleMsg registered msg = .ok callback) :
    controlLoop registered isInterrupted turn state outcomes =
      controlLoop registered isInterrupted (turn + 1)
        ⟨.empty, state.started ++ [state.msg], state.handled ++ [(msg, callback)]⟩ rest := by
  -- Of the three outcomes of a receive, only a filled record fits.
  rw [controlLoop, if_neg (by simp [running])]
  dsimp only
  split
  · rename_i waiting
    simp [received] at waiting
  · rename_i quiet
    simp [received] at quiet
  · rename_i got
    simp only [received, Option.some.injEq, Prod.mk.injEq, true_and] at got
    rw [← got.1, ← got.2]
    simp only [returned, clearMsg_empty]

/-- A turn whose handling faults ends the run. -/
theorem controlLoop_fault {fault : Fault} (running : isInterrupted turn = false)
    (received : recvMsg state.msg outcomes = some (true, msg, rest))
    (faulted : handleMsg registered msg = .error fault) :
    controlLoop registered isInterrupted turn state outcomes =
      (.aborted fault, ⟨msg, state.started ++ [state.msg], state.handled⟩) := by
  rw [controlLoop, if_neg (by simp [running])]
  dsimp only
  split
  · rename_i waiting
    simp [received] at waiting
  · rename_i quiet
    simp [received] at quiet
  · rename_i got
    simp only [received, Option.some.injEq, Prod.mk.injEq, true_and] at got
    rw [← got.1]
    simp only [faulted]

/-- A loop that finds the flag set does nothing more. -/
theorem controlLoop_interrupted (interrupted : isInterrupted turn = true) :
    controlLoop registered isInterrupted turn state outcomes = (.closed, state) := by
  rw [controlLoop, if_pos interrupted]

/-- A loop that is not interrupted waits once all receive results are used up. -/
theorem controlLoop_waiting (running : isInterrupted turn = false) :
    controlLoop registered isInterrupted turn state [] =
      (.waiting, { state with started := state.started ++ [state.msg] }) := by
  rw [controlLoop, if_neg (by simp [running])]
  rfl

/-- The calls of `handle_msg` so far, with every string read as text. -/
def ControlMain.calls (state : ControlMain) : List (ControlTexts × Option ControlCallback) :=
  state.handled.map fun call => (call.1.texts, call.2)

/-- One turn of the loop handles one arrival, and leaves the record empty again. -/
theorem controlLoop_turn {arrival : Arrival} (later : List RecvOutcome)
    (running : isInterrupted turn = false) (clear : state.msg = .empty)
    (returns : ∀ message, arrival = .message message → message.HandlingReturns registered) :
    ∃ next : ControlMain,
      controlLoop registered isInterrupted turn state (arrival.outcomes ++ later) =
        controlLoop registered isInterrupted (turn + 1) next later ∧
      next.msg = .empty ∧ next.started = state.started ++ [.empty] ∧
      next.calls = state.calls ++ arrival.handled registered := by
  -- The three kinds of arrivals are the three ways in which a turn can go.
  cases arrival with
  | message message =>
    obtain ⟨callback, returned⟩ := returns message rfl
    have received : recvMsg state.msg (message.outcomes ++ later) =
        some (true, message.record, later) := by
      rw [clear, recvMsg_message]
    refine ⟨_, controlLoop_handled running received returned, rfl, by rw [clear], ?_⟩
    simp [ControlMain.calls, Arrival.handled, returned, record_texts, Except.toOption]
  | timeout =>
    have received := recvMsg_timeout state.msg later
    refine ⟨_, controlLoop_quiet running received, clear, by rw [clear], ?_⟩
    simp [ControlMain.calls, Arrival.handled]
  | failure =>
    have received : recvMsg state.msg (Arrival.outcomes .failure ++ later) =
        some (true, .failed, later) := by
      rw [clear, recvMsg_failure]
    have returned := handleMsg_failed registered
    refine ⟨_, controlLoop_handled running received returned, rfl, by rw [clear], ?_⟩
    simp [ControlMain.calls, Arrival.handled, CtrlMsg.texts, CtrlMsg.failed, CString.untilNul]

/-- From any turn with an empty record, the loop handles exactly what arrives. -/
theorem controlLoop_arrivals (arrivals : List Arrival) (turn : Nat) (state : ControlMain)
    (returns : ∀ message, .message message ∈ arrivals → message.HandlingReturns registered)
    (clear : state.msg = .empty) (started : ∀ msg ∈ state.started, msg = .empty) :
    (controlLoop registered isInterrupted turn state
        (arrivals.flatMap Arrival.outcomes)).2.calls =
        state.calls ++
          (seenFrom isInterrupted turn arrivals).flatMap (Arrival.handled registered) ∧
      ∀ msg ∈ (controlLoop registered isInterrupted turn state
        (arrivals.flatMap Arrival.outcomes)).2.started, msg = .empty := by
  -- Each arrival is one turn, which finds the record empty and leaves it empty.
  induction arrivals generalizing turn state with
  | nil =>
    by_cases interrupted : isInterrupted turn = true
    · rw [controlLoop_interrupted interrupted]
      exact ⟨by simp [seenFrom], started⟩
    · -- The thread waits in its next receive.
      rw [List.flatMap_nil, controlLoop_waiting (by simpa using interrupted)]
      refine ⟨by simp [seenFrom, ControlMain.calls], fun msg member => ?_⟩
      rw [List.mem_append, List.mem_singleton] at member
      rcases member with earlier | last
      · exact started msg earlier
      · rw [last, clear]
  | cons arrival later ih =>
    by_cases interrupted : isInterrupted turn = true
    · rw [controlLoop_interrupted interrupted]
      exact ⟨by simp [seenFrom, interrupted], started⟩
    · have running : isInterrupted turn = false := by simpa using interrupted
      obtain ⟨next, moved, nextClear, nextStarted, nextCalls⟩ :=
        controlLoop_turn (later.flatMap Arrival.outcomes) running clear fun message same =>
          returns message (same ▸ List.mem_cons_self)
      have stillEmpty : ∀ msg ∈ next.started, msg = .empty := by
        intro msg member
        rw [nextStarted, List.mem_append, List.mem_singleton] at member
        rcases member with earlier | last
        · exact started msg earlier
        · exact last
      obtain ⟨calls, empty⟩ := ih (turn + 1) next
        (fun message member => returns message (List.mem_cons_of_mem _ member)) nextClear stillEmpty
      rw [List.flatMap_cons, moved]
      refine ⟨?_, empty⟩
      rw [calls, nextCalls, seenFrom, if_neg interrupted, List.flatMap_cons, List.append_assoc]

end Loop

/--
The calls of `handle_msg` are exactly one for each received message, with the texts of its first
three parts, apart from calls for failed receives, which invoke no callback.

Every `recv_msg` starts from an empty record, so that no part is seen in a later message.
-/
theorem controlZmqMain_handles_arrivals (registered : ControlCallback → Except Fault Unit)
    (isInterrupted : Nat → Bool) (arrivals : List Arrival)
    (returns : ∀ message, .message message ∈ arrivals → message.HandlingReturns registered) :
    let final := (controlZmqMain registered 0 isInterrupted
      (arrivals.flatMap Arrival.outcomes)).2
    final.calls = (seenFrom isInterrupted 0 arrivals).flatMap (Arrival.handled registered) ∧
      ∀ msg ∈ final.started, msg = .empty := by
  -- The record of `zmq_main` starts out empty, and nothing has been handled.
  have initial : ∀ msg ∈ ([] : List CtrlMsg), msg = .empty := by simp
  exact controlLoop_arrivals arrivals 0 ⟨.empty, [], []⟩ returns rfl initial

/-- A candidate with a superfluous part, followed by a failed receive, a timeout and a request. -/
def candidateThenOffer : List Arrival :=
  [.message ⟨CString.ascii "add_ice_candidate",
      [CString.ascii "1", CString.ascii "candidate:1", CString.ascii "extra"]⟩,
    .failure, .timeout, .message ⟨CString.ascii "create_offer", []⟩]

/-- Each of the two messages invokes its callback, and the request carries no text of the other. -/
theorem candidateThenOffer_handled :
    let final := (controlZmqMain (fun _ => .ok ()) 0 (fun _ => false)
      (candidateThenOffer.flatMap Arrival.outcomes)).2
    final.calls =
        [(⟨some (CString.ascii "add_ice_candidate"), some (CString.ascii "1"),
            some (CString.ascii "candidate:1")⟩,
          some (.remoteCandidate 1 (some (.literal "candidate:1")))),
        (⟨some [], none, none⟩, none),
        (⟨some (CString.ascii "create_offer"), none, none⟩, some .createOffer)] ∧
      ∀ msg ∈ final.started, msg = .empty := by
  -- Both messages are of known types and have the parts that their types need.
  have returns : ∀ message, .message message ∈ candidateThenOffer →
      message.HandlingReturns fun _ => .ok () := by
    intro message member
    simp only [candidateThenOffer, List.mem_cons, Arrival.message.injEq, reduceCtorEq, false_or,
      List.not_mem_nil, or_false] at member
    rcases member with rfl | rfl
    · exact ⟨some (.remoteCandidate 1 (some (.literal "candidate:1"))), by decide⟩
    · exact ⟨some .createOffer, by decide⟩
  obtain ⟨calls, empty⟩ :=
    controlZmqMain_handles_arrivals (fun _ => .ok ()) (fun _ => false) candidateThenOffer returns
  exact ⟨calls.trans (by decide), empty⟩

end Ichabod
