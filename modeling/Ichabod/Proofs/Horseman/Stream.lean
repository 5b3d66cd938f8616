import Ichabod.Horseman.Receiver

/-! The receiver thread dispatches exactly the jobs that its stream of messages asks for. -/

namespace Ichabod

variable {Double : Type}

/-- What a dispatched record asks for, with every string read as text. -/
inductive Job (Double : Type) where
  /-- Push an image with its timestamp. -/
  | frame (payload : Bytes) (timestamp : Double)
  /-- End the stream of images. -/
  | eos
  /-- Attach an output. -/
  | output (type : HorsemanOutputType) (location : Bytes)

/-- The job a record stands for. -/
def MsgDispatch.job : MsgDispatch Double → Job Double
  | .frame data =>
    match data.szData with
    | none => .eos
    | some szData => .frame szData.text data.timestamp
  | .output data => .output data.outputType data.location.text

/-- The output type a text names. -/
def outputTypeNamed (name : Bytes) : HorsemanOutputType :=
  if name = CString.ascii "file" then .file
  else if name = CString.ascii "rtmp" then .rtmp
  else .unknown

/-- The job that the texts behind the type part ask for, or the failed assertion. -/
def requestedJob (atof : Bytes → Double) (type : Bytes) (args : List Bytes) :
    Except Fault (Option (Job Double)) :=
  if type = CString.ascii "frame" then
    match args with
    | [] => .error .assertion
    | payload :: rest =>
      if payload = CString.ascii "EOS" then .ok (some .eos)
      else match rest with
        | [] => .error .assertion
        | timestamp :: _ => .ok (some (.frame payload (atof timestamp)))
  else if type = CString.ascii "output" then
    match args with
    | [] | [_] => .error .assertion
    | name :: location :: _ => .ok (some (.output (outputTypeNamed name) location))
  else .ok none

/-- The job that a received message asks for. -/
def Message.request (atof : Bytes → Double) (message : Message) :
    Except Fault (Option (Job Double)) :=
  requestedJob atof (CString.untilNul message.first) (message.rest.map CString.untilNul)

/-- The jobs that a sequence of messages asks for, and where its handling stops. -/
def dispatchStream (atof : Bytes → Double) : List Message → List (Job Double) × ReceiverEnd
  | [] => ([], .waiting)
  | message :: later =>
    match message.request atof with
    | .error fault => ([], .aborted fault)
    | .ok none => dispatchStream atof later
    -- Messages behind an end of stream are never received.
    | .ok (some .eos) => ([.eos], .closed)
    | .ok (some job) =>
      let rest := dispatchStream atof later
      (job :: rest.1, rest.2)

/-- The chain that the parts of a message are received into. -/
def Message.envelope (message : Message) : Envelope :=
  message.parts.map fun part => some (.ofBytes part)

/-- A chain that holds a string in its last node grows by one node. -/
theorem put_append (env : Envelope) (last szMsg : CString) :
    Envelope.put (env ++ [some last]) szMsg = env ++ [some last, some szMsg] := by
  -- Every earlier node is passed over, because another one follows it.
  induction env with
  | nil => rfl
  | cons node rest ih =>
    cases rest with
    | nil => simp [Envelope.put]
    | cons next rest => simpa [Envelope.put] using ih

/-- The parts behind the first are appended in order, up to the one without a more-flag. -/
theorem receiveMessage_outcomesFrom (env : Envelope) (last : CString) (part : Bytes)
    (parts : List Bytes) (later : List RecvOutcome) :
    receiveMessage (env ++ [some last]) (Message.outcomesFrom part parts ++ later) =
      some (some (env ++ some last :: (part :: parts).map fun part => some (.ofBytes part)),
        later) := by
  -- Each part becomes the last node before the next one is received.
  induction parts generalizing env last part with
  | nil =>
    simp [Message.outcomesFrom, receiveMessage, RecvOutcome.data, RecvOutcome.more, put_append]
  | cons next parts ih =>
    have grown := ih (env ++ [some last]) (.ofBytes part) next
    simpa [Message.outcomesFrom, receiveMessage, RecvOutcome.data, RecvOutcome.more, put_append]
      using grown

/-- A delivered message is received whole, and nothing behind it is touched. -/
theorem receiveMessage_message (message : Message) (later : List RecvOutcome) :
    receiveMessage [none] (message.outcomes ++ later) = some (some message.envelope, later) := by
  -- The first part fills the root, and the remaining parts are hung behind it.
  obtain ⟨first, rest⟩ := message
  cases rest with
  | nil => simp [Message.outcomes, Message.outcomesFrom, receiveMessage, RecvOutcome.data,
      RecvOutcome.more, Envelope.put, Message.envelope, Message.parts]
  | cons next rest =>
    have tail := receiveMessage_outcomesFrom [] (.ofBytes first) next rest later
    simpa [Message.outcomes, Message.outcomesFrom, receiveMessage, RecvOutcome.data,
      RecvOutcome.more, Envelope.put, Message.envelope, Message.parts] using tail

/-- A timeout between two messages leaves no chain behind. -/
theorem receiveMessage_timeout (later : List RecvOutcome) :
    receiveMessage [none] (.again :: later) = some (none, later) := rfl

/-- A failed receive is taken for a message with one empty part. -/
theorem receiveMessage_failure (later : List RecvOutcome) :
    receiveMessage [none] (.error :: later) = some (some [some (.ofBytes [])], later) := rfl

/-- Copied parts name the same output types as their texts. -/
theorem outputTypeOf_ofBytes (part : Bytes) :
    outputTypeOf (.ofBytes part) = outputTypeNamed (CString.untilNul part) := by
  -- Both comparisons are with literals, which are decided on the texts.
  have file := CString.literal_same_ofBytes "file" part (by decide)
  have rtmp := CString.literal_same_ofBytes "rtmp" part (by decide)
  simp only [outputTypeOf, outputTypeNamed, file, rtmp]

/-- The frame parser finds the job that the texts ask for. -/
theorem envelopeParseFrame_parts [Zero Double] (atof : Bytes → Double) (args : List Bytes) :
    (envelopeParseFrame atof (args.map fun part => some (.ofBytes part))).map
        (fun frame => some (MsgDispatch.job (.frame frame))) =
      requestedJob atof (CString.ascii "frame") (args.map CString.untilNul) := by
  -- The sentinel is recognised before the timestamp is looked for.
  cases args with
  | nil => simp [envelopeParseFrame, requestedJob, Except.map]
  | cons payload rest =>
    have sentinel := CString.literal_same_ofBytes "EOS" payload (by decide)
    by_cases eos : CString.untilNul payload = CString.ascii "EOS"
    · simp [envelopeParseFrame, requestedJob, sentinel, eos, Except.map, MsgDispatch.job]
    · cases rest <;>
        simp [envelopeParseFrame, requestedJob, sentinel, eos, Except.map, MsgDispatch.job]

/-- The output parser finds the job that the texts ask for. -/
theorem envelopeParseOutput_parts (atof : Bytes → Double) (args : List Bytes) :
    (envelopeParseOutput (args.map fun part => some (.ofBytes part))).map
        (fun output => some (MsgDispatch.job (.output output))) =
      requestedJob atof (CString.ascii "output") (args.map CString.untilNul) := by
  -- The parser asserts one part after the other, so the cases are the lengths.
  have other : CString.ascii "output" ≠ CString.ascii "frame" := by decide
  match args with
  | [] => simp [envelopeParseOutput, requestedJob, other, Except.map]
  | [_] => simp [envelopeParseOutput, requestedJob, other, Except.map]
  | name :: location :: _ =>
    simp [envelopeParseOutput, requestedJob, other, Except.map, MsgDispatch.job,
      outputTypeOf_ofBytes]

/-- Parsing a received message yields a record of the job that the message asks for. -/
theorem parseDispatch_envelope [Zero Double] (atof : Bytes → Double) (message : Message) :
    (parseDispatch atof message.envelope).map (Option.map MsgDispatch.job) =
      message.request atof := by
  -- The type part selects the parser, and the parsers agree with the texts.
  obtain ⟨type, args⟩ := message
  have frame := CString.literal_same_ofBytes "frame" type (by decide)
  have output := CString.literal_same_ofBytes "output" type (by decide)
  simp only [Message.envelope, Message.parts, List.map_cons, parseDispatch, frame, output,
    Message.request]
  by_cases isFrame : CString.untilNul type = CString.ascii "frame"
  · rw [if_pos isFrame, isFrame, ← envelopeParseFrame_parts]
    cases envelopeParseFrame atof (args.map fun part => some (.ofBytes part)) <;> rfl
  · rw [if_neg isFrame]
    by_cases isOutput : CString.untilNul type = CString.ascii "output"
    · rw [if_pos isOutput, isOutput, ← envelopeParseOutput_parts]
      cases envelopeParseOutput (args.map fun part => some (.ofBytes part)) <;> rfl
    · simp [requestedJob, isFrame, isOutput, Except.map]

/-- Exactly the records of end-of-stream jobs interrupt the receiver. -/
theorem isEos_iff_job (record : MsgDispatch Double) : record.isEos = true ↔ record.job = .eos := by
  -- A frame record is without data exactly if its flag is set.
  cases record with
  | output data => simp [MsgDispatch.isEos, MsgDispatch.job]
  | frame data =>
    obtain ⟨szData, timestamp, eos, agrees⟩ := data
    subst agrees
    cases szData <;> simp [MsgDispatch.isEos, MsgDispatch.job]

section Loop

variable [Zero Double] {atof : Bytes → Double} {rets : Nat → Int}

/-- A turn of the main loop that returns is followed by the turns on what it left over. -/
theorem zmqLoop_next {state next : Receiver Double} {outcomes rest : List RecvOutcome}
    (running : state.horseman.isInterrupted = false)
    (processed : processNextMessage atof (rets state.handed.length) state outcomes =
      some (.ok next, rest)) :
    zmqLoop atof rets state outcomes = zmqLoop atof rets next rest := by
  -- The flag lets the loop in, and the turn returns without a fault.
  rw [zmqLoop]
  simp only [running, Bool.false_eq_true, if_false]
  split <;> simp_all

/-- A turn of the main loop that faults ends the run in the state that it has reached. -/
theorem zmqLoop_fault {state reached : Receiver Double} {fault : Fault}
    {outcomes rest : List RecvOutcome} (running : state.horseman.isInterrupted = false)
    (processed : processNextMessage atof (rets state.handed.length) state outcomes =
      some (.error (fault, reached), rest)) :
    zmqLoop atof rets state outcomes = (.aborted fault, reached) := by
  -- The flag lets the loop in, but its turn never returns.
  rw [zmqLoop]
  simp only [running, Bool.false_eq_true, if_false]
  split <;> simp_all

/-- Once it is interrupted, the main loop receives nothing more. -/
theorem zmqLoop_interrupted {state : Receiver Double} {outcomes : List RecvOutcome}
    (interrupted : state.horseman.isInterrupted = true) :
    zmqLoop atof rets state outcomes = (.closed, state) := by
  rw [zmqLoop, if_pos interrupted]

/-- A timeout is a turn that changes nothing. -/
theorem processNextMessage_timeout (ret : Int) (state : Receiver Double)
    (later : List RecvOutcome) :
    processNextMessage atof ret state (Arrival.timeout.outcomes ++ later) =
      some (.ok state, later) := by
  rw [Arrival.outcomes, List.singleton_append, processNextMessage, receiveMessage_timeout]

/-- A failed receive is a turn that changes nothing, since the empty text is no known type. -/
theorem processNextMessage_failure (ret : Int) (state : Receiver Double)
    (later : List RecvOutcome) :
    processNextMessage atof ret state (Arrival.failure.outcomes ++ later) =
      some (.ok state, later) := by
  rw [Arrival.outcomes, List.singleton_append, processNextMessage, receiveMessage_failure]
  rfl

/-- A message is one turn, which parses the chain of its parts. -/
theorem processNextMessage_message (ret : Int) (state : Receiver Double) (message : Message)
    (later : List RecvOutcome) :
    processNextMessage atof ret state ((Arrival.message message).outcomes ++ later) =
      some (parseEnvelope atof ret state message.envelope, later) := by
  -- The receive consumes the whole message, and what is left over is passed on.
  simp [processNextMessage, Arrival.outcomes, receiveMessage_message]

/-- From any uninterrupted state, the loop adds exactly the jobs that the arrivals ask for. -/
theorem zmqLoop_arrivals (arrivals : List Arrival) (state : Receiver Double)
    (running : state.horseman.isInterrupted = false) :
    (zmqLoop atof rets state (arrivals.flatMap Arrival.outcomes)).2.handed.map MsgDispatch.job =
        state.handed.map MsgDispatch.job ++
          (dispatchStream atof (arrivals.filterMap Arrival.message?)).1 ∧
      (zmqLoop atof rets state (arrivals.flatMap Arrival.outcomes)).1 =
        (dispatchStream atof (arrivals.filterMap Arrival.message?)).2 := by
  -- Each arrival is one turn of the loop, which either moves on or ends the run.
  induction arrivals generalizing state with
  | nil =>
    have waiting : zmqLoop atof rets state [] = (.waiting, state) := by
      rw [zmqLoop, if_neg (by simp [running])]
      rfl
    simp [waiting, dispatchStream]
  | cons arrival later ih =>
    rw [List.flatMap_cons]
    cases arrival with
    | timeout =>
      rw [zmqLoop_next running (processNextMessage_timeout ..)]
      exact ih state running
    | failure =>
      rw [zmqLoop_next running (processNextMessage_failure ..)]
      exact ih state running
    | message message =>
      have turn : processNextMessage atof (rets state.handed.length) state _ = _ :=
        processNextMessage_message _ state message (later.flatMap Arrival.outcomes)
      have asked := parseDispatch_envelope atof message
      have received : (Arrival.message message :: later).filterMap Arrival.message? =
          message :: later.filterMap Arrival.message? := rfl
      rw [received, dispatchStream, ← asked]
      cases parsed : parseDispatch atof message.envelope with
      | error fault =>
        simp only [parseEnvelope, parsed] at turn
        simp [zmqLoop_fault running turn, Except.map]
      | ok record =>
        cases record with
        | none =>
          simp only [parseEnvelope, parsed] at turn
          rw [zmqLoop_next running turn]
          exact ih state running
        | some record =>
          simp only [parseEnvelope, parsed] at turn
          rw [zmqLoop_next running turn]
          by_cases eos : record.isEos = true
          · -- The turn that posts the end of the stream also interrupts the loop.
            rw [zmqLoop_interrupted]
            · simp [Except.map, (isEos_iff_job record).mp eos]
            · split <;> simp [Horseman.incrementWorkCount, Horseman.decrementWorkCount]
          · have other : record.job ≠ .eos := mt (isEos_iff_job record).mpr eos
            obtain ⟨jobs, finish⟩ := ih
              { horseman := if rets state.handed.length ≠ 0
                  then state.horseman.incrementWorkCount.decrementWorkCount
                  else state.horseman.incrementWorkCount
                handed := state.handed ++ [record] }
              (by split <;> simp [running, Horseman.incrementWorkCount,
                Horseman.decrementWorkCount])
            rw [if_neg eos, jobs, finish]
            simp only [Except.map, Option.map_some]
            cases job : record.job with
            | eos => exact absurd job other
            | frame payload timestamp => simp [job]
            | output type location => simp [job]

end Loop

/--
The jobs handed to `uv_queue_work` are exactly those that the received messages ask for.

Timeouts and failed receives between the messages contribute nothing, whatever `uv_queue_work`
answers.
-/
theorem horsemanZmqMain_dispatches_stream [Zero Double] (atof : Bytes → Double) (rets : Nat → Int)
    (arrivals : List Arrival) :
    let run := horsemanZmqMain atof 0 rets .started (arrivals.flatMap Arrival.outcomes)
    (run.2.handed.map MsgDispatch.job, run.1) =
      dispatchStream atof (arrivals.filterMap Arrival.message?) := by
  -- The loop starts with nothing handed over and with the flag cleared.
  obtain ⟨jobs, finish⟩ := zmqLoop_arrivals arrivals (⟨.started, []⟩ : Receiver Double) rfl
  exact Prod.ext jobs finish

end Ichabod
