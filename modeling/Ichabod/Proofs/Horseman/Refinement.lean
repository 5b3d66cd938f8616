import Ichabod.Proofs.Horseman.Jobs
import Ichabod.Proofs.Horseman.Stream

/-! In every interleaving, the receiver queues the jobs that its stream of messages asks for. -/

namespace Ichabod

open Interleaving Threads

variable {Double : Type}

/-- The message that a step takes from the socket, if it takes one. -/
def ThreadAction.message? : ThreadAction → Option Message
  | .receiver (.receive arrival) => arrival.message?
  | _ => none

/-- What `uv_queue_work` answers in a step that calls it. -/
def ThreadAction.answer? : ThreadAction → Option Int
  | .receiver (.queueWork ret) => some ret
  | _ => none

/-- The messages that were taken from the socket, in order. -/
def receivedMessages (actions : List ThreadAction) : List Message :=
  actions.filterMap ThreadAction.message?

/-- The answers of `uv_queue_work`, in order. -/
def queueAnswers (actions : List ThreadAction) : List Int :=
  actions.filterMap ThreadAction.answer?

/-- Those of the jobs that were answered with zero, where the last ones may not be answered yet. -/
def acceptedJobs : List (Job Double) → List Int → List (Job Double)
  | job :: jobs, ret :: rets =>
    if ret ≠ 0 then acceptedJobs jobs rets else job :: acceptedJobs jobs rets
  | _, _ => []

/-- One more answer accepts or rejects the job that it is about. -/
theorem acceptedJobs_concat {jobs : List (Job Double)} {rets : List Int}
    (answered : jobs.length = rets.length) (job : Job Double) (ret : Int) :
    acceptedJobs (jobs ++ [job]) (rets ++ [ret]) =
      acceptedJobs jobs rets ++ if ret ≠ 0 then [] else [job] := by
  -- Both lists are consumed in step, and end at the same time.
  induction jobs generalizing rets with
  | nil =>
    obtain rfl : rets = [] := List.eq_nil_of_length_eq_zero answered.symm
    simp only [acceptedJobs, List.nil_append]
  | cons first jobs ih =>
    cases rets with
    | nil => simp at answered
    | cons answer rets =>
      have rest := ih (Nat.succ.inj answered)
      simp only [List.cons_append, acceptedJobs, rest]
      split
      · rfl
      · rfl

/-- Jobs behind the last answer are not accepted yet. -/
theorem acceptedJobs_append {jobs : List (Job Double)} {rets : List Int}
    (answered : jobs.length = rets.length) (later : List (Job Double)) :
    acceptedJobs (jobs ++ later) rets = acceptedJobs jobs rets := by
  induction jobs generalizing rets with
  | nil =>
    obtain rfl : rets = [] := List.eq_nil_of_length_eq_zero answered.symm
    cases later with
    | nil => rfl
    | cons job later => rfl
  | cons first jobs ih =>
    cases rets with
    | nil => simp at answered
    | cons answer rets =>
      simp only [List.cons_append, acceptedJobs, ih (Nat.succ.inj answered)]

section Stream

variable {atof : Bytes → Double} {message : Message}

/-- A message that asks for nothing leaves the stream open. -/
theorem dispatched_none (asked : message.request atof = .ok none) :
    dispatchStream atof [message] = ([], .waiting) := by
  rw [dispatchStream, asked]
  rfl

/-- A message that ends the stream is the last one. -/
theorem dispatched_eos (asked : message.request atof = .ok (some .eos)) :
    dispatchStream atof [message] = ([.eos], .closed) := by
  rw [dispatchStream, asked]

/-- Any other job leaves the stream open. -/
theorem dispatched_job {job : Job Double} (asked : message.request atof = .ok (some job))
    (other : job ≠ .eos) : dispatchStream atof [message] = ([job], .waiting) := by
  rw [dispatchStream, asked]
  cases job with
  | eos => exact absurd rfl other
  | frame payload timestamp => rfl
  | output type location => rfl

/-- A failed assertion adds no job. -/
theorem dispatched_fault {fault : Fault} (asked : message.request atof = .error fault) :
    dispatchStream atof [message] = ([], .aborted fault) := by
  rw [dispatchStream, asked]

/-- The messages behind one that leaves the stream open are handled on their own. -/
theorem dispatchStream_cons (later : List Message)
    (waiting : (dispatchStream atof [message]).2 = .waiting) :
    dispatchStream atof (message :: later) =
      ((dispatchStream atof [message]).1 ++ (dispatchStream atof later).1,
        (dispatchStream atof later).2) := by
  -- The job of the message, if it has one, comes before theirs.
  cases asked : message.request atof with
  | error fault =>
    rw [dispatched_fault asked] at waiting
    cases waiting
  | ok job =>
    cases job with
    | none =>
      rw [dispatched_none asked, dispatchStream, asked]
      rfl
    | some job =>
      by_cases eos : job = .eos
      · rw [eos] at asked
        rw [dispatched_eos asked] at waiting
        cases waiting
      · rw [dispatched_job asked eos, dispatchStream, asked]
        cases job with
        | eos => exact absurd rfl eos
        | frame payload timestamp => rfl
        | output type location => rfl

/-- Once the stream has ended, nothing that follows is handled. -/
theorem dispatchStream_ended (later : List Message)
    (ended : (dispatchStream atof [message]).2 ≠ .waiting) :
    dispatchStream atof (message :: later) = dispatchStream atof [message] := by
  cases asked : message.request atof with
  | error fault => rw [dispatched_fault asked, dispatchStream, asked]
  | ok job =>
    cases job with
    | none => exact absurd (by rw [dispatched_none asked]) ended
    | some job =>
      by_cases eos : job = .eos
      · rw [eos] at asked
        rw [dispatched_eos asked, dispatchStream, asked]
      · exact absurd (by rw [dispatched_job asked eos]) ended

/-- A message that follows an open stream adds what it adds on its own. -/
theorem dispatchStream_concat {messages : List Message}
    (waiting : (dispatchStream atof messages).2 = .waiting) (message : Message) :
    dispatchStream atof (messages ++ [message]) =
      ((dispatchStream atof messages).1 ++ (dispatchStream atof [message]).1,
        (dispatchStream atof [message]).2) := by
  -- Every message of the stream leaves the rest of it to be handled.
  induction messages with
  | nil => rfl
  | cons first messages ih =>
    by_cases more : (dispatchStream atof [first]).2 = .waiting
    · rw [dispatchStream_cons messages more] at waiting ⊢
      rw [List.cons_append, dispatchStream_cons _ more, ih waiting, List.append_assoc]
    · rw [dispatchStream_ended messages more] at waiting
      exact absurd waiting more

end Stream

variable [Zero Double] {poolSize : Nat} {atof : Bytes → Double}

/-- The job that the receiver has in hand, from its envelope up to `uv_queue_work`. -/
def ReceiverPc.inHand (atof : Bytes → Double) : ReceiverPc Double → List (Job Double)
  | .parsing msg =>
    match parseDispatch atof msg with
    | .ok (some asyncMsg) => [asyncMsg.job]
    | _ => []
  | .interrupting asyncMsg | .counting asyncMsg | .queueing asyncMsg => [asyncMsg.job]
  | _ => []

/-- How the stream stands behind an envelope. -/
def streamBehind (atof : Bytes → Double) (msg : Envelope) : ReceiverEnd :=
  match parseDispatch atof msg with
  | .error fault => .aborted fault
  | .ok none => .waiting
  | .ok (some asyncMsg) => if asyncMsg.isEos then .closed else .waiting

/-- Wherever the receiver may still receive another message, its stream is open. -/
def StreamOpen (atof : Bytes → Double) (status : ReceiverEnd) (s : Threads Double) : Prop :=
  match s.receiver with
  | .receiving => status = .waiting
  | .parsing msg => status = streamBehind atof msg
  | .interrupting _ => True
  | _ => s.horseman.isInterrupted = false → status = .waiting

/-- The receiver has queued, or still has in hand, what its messages ask for. -/
structure Dispatching (atof : Bytes → Double) (past : List ThreadAction) (s : Threads Double) :
    Prop where
  /-- Every job but the one in hand was answered. -/
  queued : ∃ answered, (dispatchStream atof (receivedMessages past)).1 =
      answered ++ s.receiver.inHand atof ∧ answered.length = (queueAnswers past).length ∧
      s.accepted.map MsgDispatch.job = acceptedJobs answered (queueAnswers past)
  /-- The end of the stream is not passed over. -/
  isOpen : StreamOpen atof (dispatchStream atof (receivedMessages past)).2 s

/-- Nothing was received at the start. -/
theorem dispatching_start : Dispatching atof [] (start : Threads Double) :=
  ⟨⟨[], rfl, rfl, rfl⟩, fun _ => rfl⟩

section Moves

variable {past : List ThreadAction} {s t : Threads Double} {action : ThreadAction}

/-- A step that neither receives nor queues only has to keep the job in hand. -/
theorem Dispatching.quiet (now : Dispatching atof past s) (message : action.message? = none)
    (answer : action.answer? = none) (same : t.accepted = s.accepted)
    (hand : t.receiver.inHand atof = s.receiver.inHand atof)
    (stays : ∀ status, StreamOpen atof status s → StreamOpen atof status t) :
    Dispatching atof (past ++ [action]) t := by
  -- Both histories are what they were.
  have messages : receivedMessages (past ++ [action]) = receivedMessages past := by
    simp [receivedMessages, List.filterMap_append, message]
  have answers : queueAnswers (past ++ [action]) = queueAnswers past := by
    simp [queueAnswers, List.filterMap_append, answer]
  obtain ⟨⟨answered, jobs, counted, accepted⟩, isOpen⟩ := now
  constructor
  · rw [messages, answers, hand, same]
    exact ⟨answered, jobs, counted, accepted⟩
  · rw [messages]
    exact stays _ isOpen

/-- What a message asks for is in hand once its envelope is. -/
theorem inHand_envelope (atof : Bytes → Double) (message : Message) :
    (ReceiverPc.parsing message.envelope).inHand atof = (dispatchStream atof [message]).1 ∧
      streamBehind atof message.envelope = (dispatchStream atof [message]).2 := by
  -- The parser finds the job that the message asks for, and this decides how the stream goes on.
  have asked := parseDispatch_envelope atof message
  simp only [ReceiverPc.inHand, streamBehind]
  cases parsed : parseDispatch atof message.envelope with
  | error fault =>
    rw [parsed] at asked
    rw [dispatched_fault asked.symm]
    exact ⟨rfl, rfl⟩
  | ok record =>
    rw [parsed] at asked
    cases record with
    | none =>
      rw [dispatched_none asked.symm]
      exact ⟨rfl, rfl⟩
    | some asyncMsg =>
      by_cases eos : asyncMsg.isEos = true
      · have job := (isEos_iff_job asyncMsg).mp eos
        have asked : message.request atof = .ok (some .eos) := job ▸ asked.symm
        rw [dispatched_eos asked]
        simp only [job, eos]
        exact ⟨trivial, rfl⟩
      · have other : asyncMsg.job ≠ .eos := mt (isEos_iff_job asyncMsg).mpr eos
        rw [dispatched_job asked.symm other]
        simp only [eos]
        exact ⟨trivial, rfl⟩

/-- A message that is taken from an open stream puts its own job in hand. -/
theorem Dispatching.receive (now : Dispatching atof past s) (stands : s.receiver = .receiving)
    (message : Message) :
    Dispatching atof (past ++ [.receiver (.receive (.message message))])
      { s with receiver := .parsing message.envelope } := by
  obtain ⟨⟨answered, jobs, counted, accepted⟩, isOpen⟩ := now
  have waiting : (dispatchStream atof (receivedMessages past)).2 = .waiting := by
    simpa only [StreamOpen, stands] using isOpen
  obtain ⟨hand, behind⟩ := inHand_envelope atof message
  have messages : receivedMessages (past ++ [.receiver (.receive (.message message))]) =
      receivedMessages past ++ [message] := by
    simp [receivedMessages, List.filterMap_append, ThreadAction.message?, Arrival.message?]
  have answers : queueAnswers (past ++ [.receiver (.receive (.message message))]) =
      queueAnswers past := by
    simp [queueAnswers, List.filterMap_append, ThreadAction.answer?]
  rw [stands] at jobs
  have all : (dispatchStream atof (receivedMessages past)).1 = answered := by
    rw [jobs]
    exact List.append_nil answered
  constructor
  · refine ⟨answered, ?_, ?_, ?_⟩
    · rw [messages, dispatchStream_concat waiting, all]
      show answered ++ _ = answered ++ (ReceiverPc.parsing message.envelope).inHand atof
      rw [hand]
    · rw [answers, counted]
    · rw [answers]
      exact accepted
  · rw [messages, dispatchStream_concat waiting]
    exact behind.symm

/-- The answer to the job in hand decides whether it is accepted. -/
theorem Dispatching.answer (now : Dispatching atof past s) {asyncMsg : MsgDispatch Double}
    (stands : s.receiver = .queueing asyncMsg) (ret : Int)
    (hand : t.receiver.inHand atof = ([] : List (Job Double)))
    (grown : t.accepted = s.accepted ++ if ret ≠ 0 then [] else [asyncMsg])
    (stays : ∀ status, StreamOpen atof status s → StreamOpen atof status t) :
    Dispatching atof (past ++ [.receiver (.queueWork ret)]) t := by
  obtain ⟨⟨answered, jobs, counted, accepted⟩, isOpen⟩ := now
  have messages : receivedMessages (past ++ [.receiver (.queueWork ret)]) =
      receivedMessages past := by
    simp [receivedMessages, List.filterMap_append, ThreadAction.message?]
  have answers : queueAnswers (past ++ [.receiver (.queueWork ret)]) =
      queueAnswers past ++ [ret] := by
    simp [queueAnswers, List.filterMap_append, ThreadAction.answer?]
  rw [stands] at jobs
  constructor
  · refine ⟨answered ++ [asyncMsg.job], ?_, ?_, ?_⟩
    · rw [messages, jobs, hand, List.append_nil]
      rfl
    · rw [answers, List.length_append, List.length_append, counted]
      rfl
    · rw [answers, acceptedJobs_concat counted, grown, List.map_append, accepted]
      split
      · rfl
      · rfl
  · rw [messages]
    exact stays _ isOpen

end Moves

/-- Every step that does not crash keeps the receiver in line with its stream. -/
theorem dispatching_step (past : List ThreadAction) (s : Threads Double) (action : ThreadAction)
    (t : Threads Double) (now : Dispatching atof past s)
    (taken : s.step poolSize atof action = some t) (alive : t.crash = none) :
    Dispatching atof (past ++ [action]) t := by
  obtain ⟨_, transition⟩ := step_transition taken
  cases transition with
  | connect ret stands =>
    by_cases failed : ret ≠ 0
    · refine now.quiet rfl rfl rfl ?_ ?_
      · simp only [stands, if_pos failed, ReceiverPc.inHand]
      · intro status isOpen
        simpa only [StreamOpen, stands, if_pos failed] using isOpen
    · refine now.quiet rfl rfl rfl ?_ ?_
      · simp only [stands, if_neg failed, ReceiverPc.inHand]
      · intro status isOpen
        simpa only [StreamOpen, stands, if_neg failed] using isOpen
  | quit stands flag =>
    refine now.quiet rfl rfl rfl ?_ ?_
    · rw [stands]
      rfl
    · intro status isOpen told
      exact absurd (flag.symm.trans told) (by decide)
  | await stands flag =>
    -- The flag is still cleared, so no message has ended the stream.
    refine now.quiet rfl rfl rfl ?_ ?_
    · rw [stands]
      rfl
    · intro status isOpen
      simp only [StreamOpen, stands] at isOpen
      exact isOpen flag
  | receiveNone arrival later stands received =>
    cases arrival with
    | message message =>
      have whole := receiveMessage_message message []
      rw [List.append_nil] at whole
      have same := received.symm.trans whole
      simp at same
    | timeout =>
      refine now.quiet rfl rfl rfl ?_ ?_
      · rw [stands]
        rfl
      · intro status isOpen told
        simpa only [StreamOpen, stands] using isOpen
    | failure =>
      have same := received.symm.trans (receiveMessage_failure [])
      simp at same
  | receiveSome arrival msg later stands received =>
    cases arrival with
    | message message =>
      have whole := receiveMessage_message message []
      rw [List.append_nil] at whole
      have same := received.symm.trans whole
      simp only [Option.some.injEq, Prod.mk.injEq] at same
      rw [same.1]
      exact now.receive stands message
    | timeout =>
      have same := received.symm.trans (receiveMessage_timeout [])
      simp at same
    | failure =>
      -- The empty part is no known type, so nothing is in hand and the stream is as open as before.
      have same := received.symm.trans (receiveMessage_failure [])
      simp only [Option.some.injEq, Prod.mk.injEq] at same
      rw [same.1]
      refine now.quiet rfl rfl rfl ?_ ?_
      · rw [stands]
        rfl
      · intro status isOpen
        simp only [StreamOpen, stands] at isOpen
        rw [isOpen]
        rfl
  | parseFault msg fault stands parsed => cases alive
  | parseNone msg stands parsed =>
    refine now.quiet rfl rfl rfl ?_ ?_
    · simp only [stands, ReceiverPc.inHand, parsed]
    · intro status isOpen told
      simpa only [StreamOpen, stands, streamBehind, parsed] using isOpen
  | parseSome msg asyncMsg stands parsed =>
    by_cases eos : asyncMsg.isEos = true
    · refine now.quiet rfl rfl rfl ?_ ?_
      · simp only [stands, eos, if_true, ReceiverPc.inHand, parsed]
      · intro status isOpen
        simp only [StreamOpen, eos, if_true]
    · refine now.quiet rfl rfl rfl ?_ ?_
      · simp only [stands, eos, ReceiverPc.inHand, parsed]
        rfl
      · intro status isOpen
        simp only [StreamOpen, stands, streamBehind, parsed, eos] at isOpen
        simp only [StreamOpen, eos]
        intro told
        exact isOpen
  | interrupt asyncMsg stands =>
    refine now.quiet rfl rfl rfl ?_ ?_
    · rw [stands]
      rfl
    · intro status isOpen told
      cases told
  | increment asyncMsg stands =>
    refine now.quiet rfl rfl rfl ?_ ?_
    · rw [stands]
      rfl
    · intro status isOpen told
      simp only [StreamOpen, stands] at isOpen
      exact isOpen told
  | queueCrash ret asyncMsg stands gone => cases alive
  | reject ret asyncMsg stands there refused =>
    refine now.answer stands ret rfl ?_ ?_
    · simp only [if_pos refused, List.append_nil]
    · intro status isOpen told
      simp only [StreamOpen, stands] at isOpen
      exact isOpen told
  | accept asyncMsg stands there =>
    refine now.answer stands 0 rfl rfl ?_
    intro status isOpen told
    simp only [StreamOpen, stands] at isOpen
    exact isOpen told
  | uncountRejected stands =>
    refine now.quiet rfl rfl rfl ?_ ?_
    · rw [stands]
      rfl
    · intro status isOpen told
      simp only [StreamOpen, stands] at isOpen
      exact isOpen told
  | enterCrash stands gone => cases alive
  | stopInterrupt stands =>
    -- Setting the flag from outside asks for less.
    refine now.quiet rfl rfl rfl rfl ?_
    intro status isOpen
    cases place : s.receiver with
    | receiving => simpa only [StreamOpen, place] using isOpen
    | parsing msg => simpa only [StreamOpen, place] using isOpen
    | _ => simp [StreamOpen]
  | _ => exact now.quiet rfl rfl rfl rfl fun _ isOpen => isOpen

/-- Every run that has not crashed leaves the receiver in line with its stream. -/
theorem dispatching_run {actions : List ThreadAction} {final : Threads Double}
    (ran : run (step poolSize atof) start actions = some final) (alive : final.crash = none) :
    Dispatching atof actions final := by
  -- A step is only taken by a process that has not crashed, so the invariant needs to hold there.
  have keep : ∀ (past : List ThreadAction) (s : Threads Double) (action : ThreadAction)
      (t : Threads Double), (s.crash = none → Dispatching atof past s) →
      step poolSize atof s action = some t → t.crash = none →
        Dispatching atof (past ++ [action]) t := by
    intro past s action t now taken alive
    exact dispatching_step past s action t (now (step_transition taken).1) taken alive
  have reached := run_history_invariant
    (fun past (s : Threads Double) => s.crash = none → Dispatching atof past s) keep
    (fun _ => dispatching_start) ran alive
  rw [List.nil_append] at reached
  exact reached

/-- Whatever is still in hand, the accepted jobs are those that were answered with zero. -/
theorem Dispatching.accepted_eq {actions : List ThreadAction} {final : Threads Double}
    (reached : Dispatching atof actions final) :
    final.accepted.map MsgDispatch.job =
      acceptedJobs (dispatchStream atof (receivedMessages actions)).1 (queueAnswers actions) := by
  obtain ⟨answered, jobs, counted, accepted⟩ := reached.queued
  rw [jobs, acceptedJobs_append counted]
  exact accepted

/--
In every interleaving, the jobs that were accepted are exactly those that the received messages ask
for, in the order of the messages and up to the end of the stream, without the ones that
`uv_queue_work` rejected; and a receiver that waits for a message, or is gone, has none left in
hand.
-/
theorem accepted_refines_stream (poolSize : Nat) (atof : Bytes → Double)
    (actions : List ThreadAction) (final : Threads Double)
    (ran : run (step poolSize atof) start actions = some final) (alive : final.crash = none) :
    final.accepted.map MsgDispatch.job =
        acceptedJobs (dispatchStream atof (receivedMessages actions)).1 (queueAnswers actions) ∧
      (final.receiver = .receiving ∨ final.receiver = .exited →
        (dispatchStream atof (receivedMessages actions)).1.length =
          (queueAnswers actions).length) := by
  have reached := dispatching_run ran alive
  refine ⟨reached.accepted_eq, ?_⟩
  -- In neither place does the receiver have a job in hand, so all of them were answered.
  obtain ⟨answered, jobs, counted, -⟩ := reached.queued
  intro idle
  rcases idle with waiting | gone
  · rw [jobs, waiting, List.length_append, counted]
    rfl
  · rw [jobs, gone, List.length_append, counted]
    rfl

/-- The three messages of the overtaking workers ask for three jobs, which are all accepted. -/
theorem overtakingWorkers_refine :
    ∃ final : Threads Nat, run (step 2 fun _ => 0) start overtakingWorkers = some final ∧
      final.accepted.length = 3 ∧
      final.accepted.map MsgDispatch.job =
        acceptedJobs (dispatchStream (fun _ => 0) (receivedMessages overtakingWorkers)).1
          (queueAnswers overtakingWorkers) ∧
      (final.receiver = .receiving ∨ final.receiver = .exited →
        (dispatchStream (fun _ => (0 : Nat)) (receivedMessages overtakingWorkers)).1.length =
          (queueAnswers overtakingWorkers).length) := by
  obtain ⟨final, ran, all, alive⟩ : ∃ final : Threads Nat,
      run (step 2 fun _ => 0) start overtakingWorkers = some final ∧
        final.accepted.length = 3 ∧ final.crash = none := run_ends (by decide)
  exact ⟨final, ran, all,
    accepted_refines_stream 2 (fun _ => 0) overtakingWorkers final ran alive⟩

end Ichabod
