import Ichabod.Proofs.Horseman.Stream

/-! A message without the parts that its type needs ends the process in an assertion. -/

namespace Ichabod

variable {Double : Type}

/-- The number of parts that the parsers of a message's type look at. -/
def Message.requiredParts (message : Message) : Nat :=
  if CString.untilNul message.first = CString.ascii "frame" then
    -- The end of the stream comes without a timestamp.
    if message.rest[0]?.map CString.untilNul = some (CString.ascii "EOS") then 2 else 3
  else if CString.untilNul message.first = CString.ascii "output" then 3
  else 1

/-- A message has all the parts that its type needs. -/
def Message.Complete (message : Message) : Prop :=
  message.requiredParts ≤ message.parts.length

instance (message : Message) : Decidable message.Complete :=
  inferInstanceAs (Decidable (_ ≤ _))

/-- A message of a type that nobody handles. -/
def Message.Unknown (message : Message) : Prop :=
  CString.untilNul message.first ≠ CString.ascii "frame" ∧
    CString.untilNul message.first ≠ CString.ascii "output"

/-- A complete message asks for something that can be told, or for nothing. -/
theorem request_complete (atof : Bytes → Double) {message : Message}
    (complete : message.Complete) : ∃ job, message.request atof = .ok job := by
  -- The type and the sentinel decide how far the parsers look.
  obtain ⟨type, args⟩ := message
  simp only [Message.Complete, Message.requiredParts, Message.parts, List.length_cons] at complete
  unfold Message.request requestedJob
  by_cases frame : CString.untilNul type = CString.ascii "frame"
  · rw [if_pos frame] at complete ⊢
    cases args with
    | nil => simp at complete
    | cons payload args =>
      by_cases sentinel : CString.untilNul payload = CString.ascii "EOS"
      · exact ⟨some .eos, by simp [sentinel]⟩
      · cases args with
        | nil => simp [sentinel] at complete
        | cons timestamp rest =>
          refine ⟨some (.frame (CString.untilNul payload) (atof (CString.untilNul timestamp))), ?_⟩
          simp [sentinel]
  · rw [if_neg frame] at complete ⊢
    by_cases output : CString.untilNul type = CString.ascii "output"
    · rw [if_pos output] at complete ⊢
      cases args with
      | nil => simp at complete
      | cons name args =>
        cases args with
        | nil => simp at complete
        | cons location rest => exact ⟨_, rfl⟩
    · exact ⟨none, by rw [if_neg output]⟩

/-- What an incomplete message lacks is found out by an assertion. -/
theorem request_incomplete (atof : Bytes → Double) {message : Message}
    (incomplete : ¬ message.Complete) : message.request atof = .error .assertion := by
  obtain ⟨type, args⟩ := message
  simp only [Message.Complete, Message.requiredParts, Message.parts, List.length_cons] at incomplete
  unfold Message.request requestedJob
  by_cases frame : CString.untilNul type = CString.ascii "frame"
  · rw [if_pos frame] at incomplete ⊢
    cases args with
    | nil => rfl
    | cons payload args =>
      cases args with
      | nil =>
        -- Only the sentinel could do without another part.
        have image : CString.untilNul payload ≠ CString.ascii "EOS" := by
          intro sentinel
          simp [sentinel] at incomplete
        simp [image]
      | cons timestamp rest =>
        simp only [List.length_cons] at incomplete
        split at incomplete <;> omega
  · rw [if_neg frame] at incomplete ⊢
    by_cases output : CString.untilNul type = CString.ascii "output"
    · rw [if_pos output] at incomplete ⊢
      cases args with
      | nil => rfl
      | cons name args =>
        cases args with
        | nil => rfl
        | cons location rest =>
          simp only [List.length_cons] at incomplete
          omega
    · rw [if_neg output] at incomplete
      omega

section Receiver

variable [Zero Double] {atof : Bytes → Double} {message : Message}

/-- Parsing a complete message succeeds. -/
theorem parseDispatch_complete (complete : message.Complete) :
    ∃ record, parseDispatch atof message.envelope = .ok record := by
  -- The parsers fault exactly where the request does.
  obtain ⟨job, asked⟩ := request_complete atof complete
  rw [← parseDispatch_envelope] at asked
  cases parsed : parseDispatch atof message.envelope with
  | error fault => simp [parsed, Except.map] at asked
  | ok record => exact ⟨record, rfl⟩

/-- Parsing an incomplete message fails an assertion. -/
theorem parseDispatch_incomplete (incomplete : ¬ message.Complete) :
    parseDispatch atof message.envelope = .error .assertion := by
  have asked := request_incomplete atof incomplete
  rw [← parseDispatch_envelope] at asked
  cases parsed : parseDispatch atof message.envelope with
  | error fault => simpa [parsed, Except.map] using asked
  | ok record => simp [parsed, Except.map] at asked

/-- Parsing a message of an unknown type yields no record. -/
theorem parseDispatch_unknown (unknown : message.Unknown) :
    parseDispatch atof message.envelope = .ok none := by
  have frame := CString.literal_same_ofBytes "frame" message.first (by decide)
  have output := CString.literal_same_ofBytes "output" message.first (by decide)
  simp only [Message.envelope, Message.parts, List.map_cons, parseDispatch, frame, output,
    if_neg unknown.1, if_neg unknown.2]

/--
A complete message is handled to the end, and one of an unknown type changes nothing.

A frame or output message that lacks a part ends the process in a failed assertion, before any
missing part is read, a job is handed over, or a field is changed.
-/
theorem incomplete_message_fails_assertion (message : Message) (rets : Nat → Int)
    (state : Receiver Double) (later : List RecvOutcome)
    (running : state.horseman.isInterrupted = false) :
    (message.Complete → ∃ next,
      processNextMessage atof (rets state.handed.length) state
        ((Arrival.message message).outcomes ++ later) = some (.ok next, later)) ∧
    (message.Unknown → processNextMessage atof (rets state.handed.length) state
      ((Arrival.message message).outcomes ++ later) = some (.ok state, later)) ∧
    (¬ message.Complete →
      processNextMessage atof (rets state.handed.length) state
            ((Arrival.message message).outcomes ++ later) =
          some (.error (.assertion, state), later) ∧
        zmqLoop atof rets state ((Arrival.message message).outcomes ++ later) =
          (.aborted .assertion, state)) := by
  -- The message is received whole, so its parsing decides.
  have received : ∀ ret, processNextMessage atof ret state _ = _ :=
    fun ret => processNextMessage_message ret state message later
  refine ⟨fun complete => ?_, fun unknown => ?_, fun incomplete => ?_⟩
  · obtain ⟨record, parsed⟩ : ∃ record, parseDispatch atof message.envelope = .ok record :=
      parseDispatch_complete complete
    simp only [received, parseEnvelope, parsed]
    cases record with
    | none => exact ⟨state, rfl⟩
    | some record => exact ⟨_, rfl⟩
  · rw [received]
    simp [parseEnvelope, parseDispatch_unknown unknown]
  · have fails : processNextMessage atof (rets state.handed.length) state
          ((Arrival.message message).outcomes ++ later) =
        some (.error (.assertion, state), later) := by
      rw [received]
      simp [parseEnvelope, parseDispatch_incomplete incomplete]
    exact ⟨fails, zmqLoop_fault running fails⟩

end Receiver

/-- A frame message that ends behind its type. -/
def bareFrame : Message :=
  ⟨CString.ascii "frame", []⟩

/-- The bare frame is not dropped like a message of an unknown type. -/
theorem bareFrame_fails_assertion :
    (processNextMessage (fun _ => 0) 0 (⟨.started, []⟩ : Receiver Nat)
          ((Arrival.message bareFrame).outcomes ++ []) =
        some (.error (.assertion, ⟨.started, []⟩), [])) ∧
      ¬ ∀ message : Message, ∃ next, processNextMessage (fun _ => 0) 0
        (⟨.started, []⟩ : Receiver Nat) ((Arrival.message message).outcomes ++ []) =
          some (.ok next, []) := by
  -- If every message were handled to the end, this one would be.
  have fails : processNextMessage (fun _ => 0) 0 (⟨.started, []⟩ : Receiver Nat)
        ((Arrival.message bareFrame).outcomes ++ []) =
      some (.error (.assertion, ⟨.started, []⟩), []) := rfl
  refine ⟨fails, fun all => ?_⟩
  obtain ⟨next, handled⟩ := all bareFrame
  rw [fails] at handled
  simp at handled

/-- From a started horseman, the bare frame ends the run with nothing changed. -/
theorem bareFrame_aborts :
    zmqLoop (fun _ => 0) (fun _ => 0) (⟨.started, []⟩ : Receiver Nat)
      ((Arrival.message bareFrame).outcomes ++ []) = (.aborted .assertion, ⟨.started, []⟩) :=
  ((incomplete_message_fails_assertion bareFrame (fun _ => 0) ⟨.started, []⟩ [] rfl).2.2
    (by decide)).2

end Ichabod
