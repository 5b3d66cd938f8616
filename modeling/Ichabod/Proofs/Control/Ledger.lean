import Ichabod.Control.Ledger
import Ichabod.Proofs.Control.Receive

/-! The messaging thread frees every string once, and never holds more than three of them. -/

namespace Ichabod

open Interleaving Ledger

/-- The live strings are exactly those of the record, and the next one has not been made. -/
structure Holding (book : Nat → Status) (msg : CtrlStrings) (made : Nat) : Prop where
  live : ∀ szMsg, book szMsg = .live ↔ szMsg ∈ msg.held
  fresh : ∀ szMsg, made ≤ szMsg → book szMsg = .fresh
  distinct : msg.held.Nodup

namespace CtrlStrings

/-- A cleared record holds nothing. -/
theorem held_empty : empty.held = [] :=
  rfl

/-- A record has three slots. -/
theorem held_length (msg : CtrlStrings) : msg.held.length ≤ 3 := by
  obtain ⟨type, data, data2⟩ := msg
  cases type <;> cases data <;> cases data2 <;> simp [held]

/-- A string that is put into the record is held by it, or freed. -/
theorem put_cases (msg : CtrlStrings) (szMsg : Nat) :
    ((msg.put szMsg).2 = [] ∧ (msg.put szMsg).1.held.Perm (szMsg :: msg.held)) ∨
      ((msg.put szMsg).2 = [.release szMsg] ∧ (msg.put szMsg).1 = msg) := by
  -- The first free slot decides.
  obtain ⟨type, data, data2⟩ := msg
  cases type with
  | none =>
    left
    refine ⟨rfl, ?_⟩
    cases data <;> cases data2 <;> exact .refl _
  | some type =>
    cases data with
    | none =>
      left
      refine ⟨rfl, ?_⟩
      exact List.Perm.swap szMsg type data2.toList
    | some data =>
      cases data2 with
      | none =>
        left
        refine ⟨rfl, ?_⟩
        exact (List.Perm.cons type (.swap szMsg data [])).trans (.swap szMsg type [data])
      | some data2 => exact .inr ⟨rfl, rfl⟩

end CtrlStrings

section Steps

variable {book : Nat → Status} {msg : CtrlStrings} {made : Nat}

/-- Clearing a record releases what it holds. -/
theorem clearMsgEntries_eq (msg : CtrlStrings) :
    clearMsgEntries msg = msg.held.map .release := by
  obtain ⟨type, data, data2⟩ := msg
  cases type <;> cases data <;> cases data2 <;> rfl

/-- A part is received into a new string, which is held or freed at once. -/
theorem Holding.put (holding : Holding book msg made) (log : List (Entry Nat)) :
    ∃ next, run post book ([.create made, .use made] ++ (msg.put made).2 ++ log) =
        run post next log ∧ Holding next (msg.put made).1 (made + 1) := by
  have fresh : book made = .fresh := holding.fresh made (Nat.le_refl made)
  have unheld : made ∉ msg.held := by
    intro there
    have live := (holding.live made).mpr there
    rw [fresh] at live
    cases live
  have created : Function.update book made .live made = .live :=
    Function.update_self made Status.live book
  have others : ∀ szMsg, szMsg ≠ made → Function.update book made .live szMsg = book szMsg :=
    fun szMsg apart => Function.update_of_ne apart Status.live book
  rw [List.append_assoc, List.cons_append, List.cons_append, List.nil_append, run_create fresh,
    run_use created]
  rcases msg.put_cases made with ⟨kept, held⟩ | ⟨freed, same⟩
  · -- The record holds the new string as well.
    refine ⟨Function.update book made .live, by rw [kept]; rfl, ?_, ?_, ?_⟩
    · intro szMsg
      rw [held.mem_iff, List.mem_cons, ← holding.live]
      by_cases same : szMsg = made
      · rw [same, created]
        simp
      · rw [others szMsg same]
        simp [same]
    · intro szMsg later
      rw [others szMsg (by omega)]
      exact holding.fresh szMsg (by omega)
    · exact held.nodup_iff.mpr (List.nodup_cons.mpr ⟨unheld, holding.distinct⟩)
  · -- There is no room, and the string is gone again.
    refine ⟨Function.update (Function.update book made .live) made .released, ?_, ?_⟩
    · rw [freed, List.cons_append, List.nil_append, run_release created]
    · rw [same, Function.update_idem]
      have gone : ∀ szMsg, szMsg ≠ made →
          Function.update book made .released szMsg = book szMsg :=
        fun szMsg apart => Function.update_of_ne apart Status.released book
      refine ⟨fun szMsg => ?_, fun szMsg later => ?_, holding.distinct⟩
      · by_cases new : szMsg = made
        · rw [new, Function.update_self]
          simp [unheld]
        · rw [gone szMsg new]
          exact holding.live szMsg
      · rw [gone szMsg (by omega)]
        exact holding.fresh szMsg (by omega)

/-- Receiving a message leaves the live strings in the record. -/
theorem Holding.recvMsg (holding : Holding book msg made) (outcomes : List RecvOutcome)
    (log : List (Entry Nat)) :
    ∃ next, run post book ((recvMsgEntries made msg outcomes).1 ++ log) = run post next log ∧
      Holding next (recvMsgEntries made msg outcomes).2.1
        (recvMsgEntries made msg outcomes).2.2 := by
  -- Every turn of the loop takes one result off the list, and puts one part.
  induction outcomes generalizing book msg made with
  | nil => exact ⟨book, rfl, holding⟩
  | cons outcome rest ih =>
    -- A part is the last one, or the rest of the message comes behind it.
    have last : ∃ next, run post book ([.create made, .use made] ++ (msg.put made).2 ++ log) =
        run post next log ∧ Holding next (msg.put made).1 (made + 1) := holding.put log
    have further : ∃ next, run post book ([.create made, .use made] ++ (msg.put made).2 ++
          (recvMsgEntries (made + 1) (msg.put made).1 rest).1 ++ log) = run post next log ∧
        Holding next (recvMsgEntries (made + 1) (msg.put made).1 rest).2.1
          (recvMsgEntries (made + 1) (msg.put made).1 rest).2.2 := by
      obtain ⟨middle, ran, now⟩ :=
        holding.put ((recvMsgEntries (made + 1) (msg.put made).1 rest).1 ++ log)
      obtain ⟨next, ranOn, later⟩ := ih now
      refine ⟨next, ?_, later⟩
      rw [List.append_assoc, ran, ranOn]
    cases outcome with
    | again => exact ⟨book, rfl, holding⟩
    | error => exact last
    | part data more =>
      cases more with
      | false => exact last
      | true => exact further

/-- Handling a message only reads strings of the record. -/
theorem Holding.handleMsg (holding : Holding book msg made) (callback : Option ControlCallback)
    (log : List (Entry Nat)) :
    run post book (handleMsgEntries msg callback ++ log) = run post book log := by
  apply run_uses
  intro szMsg member
  rw [holding.live]
  -- Whatever is read is in one of the slots.
  have slots : ∀ slot ∈ [msg.type, msg.data, msg.data2], szMsg ∈ slot.toList →
      szMsg ∈ msg.held := by
    intro slot one there
    simp only [List.mem_cons, List.not_mem_nil, or_false] at one
    rcases one with rfl | rfl | rfl <;> simp [CtrlStrings.held, there]
  rcases List.mem_append.mp member with printed | passed
  · rcases List.mem_append.mp printed with there | type
    · exact there
    · exact slots msg.type (by simp) type
  · split at passed
    · exact slots msg.data (by simp) passed
    · rcases List.mem_append.mp passed with data | data2
      · exact slots msg.data (by simp) data
      · exact slots msg.data2 (by simp) data2
    · cases passed
    · cases passed

/-- Clearing the record frees everything that is live. -/
theorem Holding.clearMsg (holding : Holding book msg made) (log : List (Entry Nat)) :
    ∃ next, run post book (clearMsgEntries msg ++ log) = run post next log ∧
      Holding next .empty made := by
  rw [clearMsgEntries_eq]
  obtain ⟨next, ran, status⟩ := run_releases holding.distinct
    (fun szMsg there => (holding.live szMsg).mpr there)
  refine ⟨next, ran, fun szMsg => ?_, fun szMsg later => ?_, List.nodup_nil⟩
  · -- Nothing else was live.
    rw [status, CtrlStrings.held_empty]
    split
    · simp
    · rename_i elsewhere
      simp [holding.live, elsewhere]
  · rw [status, if_neg ?_]
    · exact holding.fresh szMsg later
    · intro there
      have live := (holding.live szMsg).mpr there
      rw [holding.fresh szMsg later] at live
      cases live

end Steps

section Loop

variable {registered : ControlCallback → Except Fault Unit} {isInterrupted : Nat → Bool}
  {book : Nat → Status} {strings : CtrlStrings} {made : Nat}

/-- The loop uses and frees only live strings, and what is live at its end is in the record. -/
theorem Holding.controlLoop (outcomes : List RecvOutcome) (turn : Nat) (msg : CtrlMsg)
    (holding : Holding book strings made) :
    ∃ final count, run post book
        (controlLoopEntries registered isInterrupted turn msg strings made outcomes).1 =
          some final ∧
      Holding final
        (controlLoopEntries registered isInterrupted turn msg strings made outcomes).2 count := by
  -- The cases are the ends of the loop, and its turns with and without a message.
  fun_induction controlLoopEntries registered isInterrupted turn msg strings made outcomes
    generalizing book with
  | case1 => exact ⟨book, _, rfl, holding⟩
  | case2 turn msg strings made outcomes running received next count entries waiting =>
    have receiving := holding.recvMsg outcomes []
    rw [entries, List.append_nil] at receiving
    obtain ⟨final, ran, now⟩ := receiving
    exact ⟨final, count, ran, now⟩
  | case3 turn msg strings made outcomes running received next count entries got rest quiet later
      final loop ih =>
    have receiving := holding.recvMsg outcomes later
    rw [entries] at receiving
    obtain ⟨middle, ran, now⟩ := receiving
    have looped := ih now
    rw [loop] at looped
    obtain ⟨last, left, ranOn, held⟩ := looped
    exact ⟨last, left, ran.trans ranOn, held⟩
  | case4 turn msg strings made outcomes running received next count entries got rest full fault
      failed =>
    have receiving := holding.recvMsg outcomes (handleMsgEntries next none)
    rw [entries] at receiving
    obtain ⟨middle, ran, now⟩ := receiving
    have handling := now.handleMsg none []
    rw [List.append_nil] at handling
    exact ⟨middle, count, ran.trans handling, now⟩
  | case5 turn msg strings made outcomes running received next count entries got rest full callback
      handled later final loop ih =>
    have receiving := holding.recvMsg outcomes
      (handleMsgEntries next callback ++ (clearMsgEntries next ++ later))
    rw [entries] at receiving
    obtain ⟨middle, ran, now⟩ := receiving
    have handling := now.handleMsg callback (clearMsgEntries next ++ later)
    obtain ⟨cleared, ranClear, empty⟩ := now.clearMsg later
    have looped := ih empty
    rw [loop] at looped
    obtain ⟨last, left, ranOn, held⟩ := looped
    refine ⟨last, left, ?_, held⟩
    simp only [List.append_assoc]
    exact ran.trans (handling.trans (ranClear.trans ranOn))

/-- The slots that are filled, in the record and in the list of its strings. -/
def Matches (msg : CtrlMsg) (strings : CtrlStrings) : Prop :=
  msg.type.isSome = strings.type.isSome ∧ msg.data.isSome = strings.data.isSome ∧
    msg.data2.isSome = strings.data2.isSome

/-- A part goes to the same slot in both of them. -/
theorem Matches.put {msg : CtrlMsg} (same : Matches msg strings) (text : CString) (szMsg : Nat) :
    Matches (msg.put text) (strings.put szMsg).1 := by
  obtain ⟨type, data, data2⟩ := msg
  obtain ⟨typeString, dataString, data2String⟩ := strings
  obtain ⟨sameType, sameData, sameData2⟩ := same
  -- The slots are looked at in the same order.
  cases type <;> cases typeString <;> cases data <;> cases dataString <;> cases data2 <;>
    cases data2String <;> simp_all [Matches, CtrlMsg.put, CtrlStrings.put]

/-- A whole message fills the same slots in both of them. -/
theorem Matches.recvMsg {msg next : CtrlMsg} {outcomes rest : List RecvOutcome} {gotMsg : Bool}
    (same : Matches msg strings) (made : Nat)
    (received : recvMsg msg outcomes = some (gotMsg, next, rest)) :
    Matches next (recvMsgEntries made strings outcomes).2.1 := by
  -- Both take the same turns, and the string of a part is put where the part is put.
  induction outcomes generalizing msg strings made with
  | nil => cases received
  | cons outcome later ih =>
    have put : ∀ text, Matches (msg.put text) (strings.put made).1 :=
      fun text => same.put text made
    cases outcome with
    | again =>
      simp only [Ichabod.recvMsg, Option.some.injEq, Prod.mk.injEq] at received
      rw [← received.2.1]
      exact same
    | error =>
      simp only [Ichabod.recvMsg, RecvOutcome.more, Bool.false_eq_true, if_false,
        Option.some.injEq, Prod.mk.injEq] at received
      rw [← received.2.1]
      exact put _
    | part data more =>
      cases more with
      | false =>
        simp only [Ichabod.recvMsg, RecvOutcome.more, Bool.false_eq_true, if_false,
          Option.some.injEq, Prod.mk.injEq] at received
        rw [← received.2.1]
        exact put _
      | true => exact ih (put _) (made + 1) received

/-- A thread that has left its loop has the strings that its record points to. -/
theorem matches_closed (made : Nat) (outcomes : List RecvOutcome) (turn : Nat) (msg : CtrlMsg)
    (started : List CtrlMsg) (handled : List (CtrlMsg × Option ControlCallback))
    (same : Matches msg strings)
    (closed : (controlLoop registered isInterrupted turn ⟨msg, started, handled⟩ outcomes).1 =
      .closed) :
    Matches (controlLoop registered isInterrupted turn ⟨msg, started, handled⟩ outcomes).2.msg
      (controlLoopEntries registered isInterrupted turn msg strings made outcomes).2 := by
  -- Both loops take the same turns.
  fun_induction controlLoopEntries registered isInterrupted turn msg strings made outcomes
    generalizing started handled with
  | case1 turn msg strings made outcomes interrupted =>
    rw [controlLoop_interrupted interrupted]
    exact same
  | case2 turn msg strings made outcomes running received next count entries waiting =>
    -- A thread that waits has not left its loop.
    rw [controlLoop, if_neg running] at closed
    dsimp only at closed
    split at closed
    · cases closed
    · rename_i got
      rw [waiting] at got
      cases got
    · rename_i got
      rw [waiting] at got
      cases got
  | case3 turn msg strings made outcomes running received next count entries got rest quiet later
      final loop ih =>
    have filled : Matches got next := by
      have now := same.recvMsg made quiet
      rwa [entries] at now
    rw [controlLoop_quiet (by simpa using running) quiet] at closed ⊢
    have looped := ih (started ++ [msg]) handled filled closed
    rwa [loop] at looped
  | case4 turn msg strings made outcomes running received next count entries got rest full fault
      failed =>
    rw [controlLoop_fault (by simpa using running) full failed] at closed
    cases closed
  | case5 turn msg strings made outcomes running received next count entries got rest full callback
      returned later final loop ih =>
    rw [controlLoop_handled (by simpa using running) full returned] at closed ⊢
    rw [clearMsg_empty] at ih loop
    have looped := ih (started ++ [msg]) (handled ++ [(got, callback)]) ⟨rfl, rfl, rfl⟩ closed
    rwa [loop] at looped

/-- Between whole messages, a thread that has left its loop has an empty record. -/
theorem closed_clear (arrivals : List Arrival) (turn : Nat) (state : ControlMain)
    (clear : state.msg = .empty)
    (closed : (controlLoop registered isInterrupted turn state
      (arrivals.flatMap Arrival.outcomes)).1 = .closed) :
    (controlLoop registered isInterrupted turn state
      (arrivals.flatMap Arrival.outcomes)).2.msg = .empty := by
  -- Each arrival is one turn, which goes on from an empty record or ends in a fault.
  induction arrivals generalizing turn state with
  | nil =>
    by_cases interrupted : isInterrupted turn = true
    · rw [controlLoop_interrupted interrupted]
      exact clear
    · rw [List.flatMap_nil, controlLoop_waiting (by simpa using interrupted)] at closed
      cases closed
  | cons arrival later ih =>
    by_cases interrupted : isInterrupted turn = true
    · rw [controlLoop_interrupted interrupted]
      exact clear
    · have running : isInterrupted turn = false := by simpa using interrupted
      rw [List.flatMap_cons] at closed ⊢
      cases arrival with
      | timeout =>
        rw [controlLoop_quiet running (recvMsg_timeout state.msg _)] at closed ⊢
        exact ih _ _ clear closed
      | failure =>
        have received : recvMsg state.msg (Arrival.outcomes .failure ++ later.flatMap _) = _ :=
          clear ▸ recvMsg_failure (later.flatMap Arrival.outcomes)
        rw [controlLoop_handled running received (handleMsg_failed _)] at closed ⊢
        exact ih _ _ rfl closed
      | message message =>
        have received : recvMsg state.msg (message.outcomes ++ later.flatMap Arrival.outcomes) =
            some (true, message.record, later.flatMap Arrival.outcomes) :=
          clear ▸ recvMsg_message message _
        rw [Arrival.outcomes] at closed ⊢
        cases handled : handleMsg registered message.record with
        | error fault =>
          rw [controlLoop_fault running received handled] at closed
          cases closed
        | ok callback =>
          rw [controlLoop_handled running received handled] at closed ⊢
          exact ih _ _ rfl closed

/-- A record without strings holds none. -/
theorem Matches.held_empty (same : Matches .empty strings) : strings.held = [] := by
  obtain ⟨type, data, data2⟩ := strings
  obtain ⟨sameType, sameData, sameData2⟩ := same
  cases type <;> cases data <;> cases data2 <;> first | rfl | contradiction

end Loop

/--
Whatever the messaging thread receives, it frees no string twice and reads none that is freed.

Where it waits or has ended, at most three strings are left, and once it has left its loop, every
string of all the messages that it received has been freed exactly once.
-/
theorem control_strings_freed (registered : ControlCallback → Except Fault Unit) (bound : Int)
    (isInterrupted : Nat → Bool) :
    (∀ outcomes, ∃ final, run post blank
        (controlMainEntries registered bound isInterrupted outcomes) = some final ∧
      ∃ held : List Nat, held.length ≤ 3 ∧ ∀ szMsg, final szMsg = .live ↔ szMsg ∈ held) ∧
    ∀ arrivals : List Arrival,
      (controlZmqMain registered bound isInterrupted (arrivals.flatMap Arrival.outcomes)).1 =
        .closed →
      Settled (controlMainEntries registered bound isInterrupted
        (arrivals.flatMap Arrival.outcomes)) := by
  -- In a blank book, the empty record holds what is live.
  have start : Holding blank CtrlStrings.empty 0 :=
    ⟨fun szMsg => by simp [blank, CtrlStrings.held_empty], fun szMsg _ => rfl, List.nodup_nil⟩
  constructor
  · intro outcomes
    unfold controlMainEntries
    split
    · exact ⟨blank, rfl, [], by simp, fun szMsg => by simp [blank]⟩
    · obtain ⟨final, count, ran, now⟩ := start.controlLoop outcomes 0 .empty
      exact ⟨final, ran, _, CtrlStrings.held_length _, now.live⟩
  · intro arrivals closed
    unfold controlMainEntries
    unfold controlZmqMain at closed
    split at closed
    · cases closed
    · rename_i ready
      rw [if_neg ready]
      obtain ⟨final, count, ran, now⟩ :=
        start.controlLoop (arrivals.flatMap Arrival.outcomes) 0 .empty
      -- The record is empty, and so nothing is live.
      have blankRecord : Matches .empty CtrlStrings.empty := ⟨rfl, rfl, rfl⟩
      have same := matches_closed 0 _ 0 .empty [] [] blankRecord closed
      rw [closed_clear arrivals 0 ⟨.empty, [], []⟩ rfl closed] at same
      refine (settled_iff ran).mpr fun szMsg live => ?_
      rw [now.live, same.held_empty] at live
      cases live

/-- A request with a superfluous part, behind a candidate that fills the record. -/
def candidateThenRequest : List Arrival :=
  [.message ⟨CString.ascii "add_ice_candidate",
      [CString.ascii "1", CString.ascii "candidate:1", CString.ascii "extra"]⟩,
    .message ⟨CString.ascii "create_offer", [CString.ascii "extra"]⟩]

/-- A thread that is interrupted behind the two messages has freed their six strings. -/
theorem candidateThenRequest_freed :
    Settled (controlMainEntries (fun _ => .ok ()) 0 (fun turn => turn = 2)
      (candidateThenRequest.flatMap Arrival.outcomes)) := by
  refine (control_strings_freed (fun _ => .ok ()) 0 (fun turn => turn = 2)).2
    candidateThenRequest ?_
  -- Two turns lead to the test that finds the flag set.
  have first : ∀ later, recvMsg .empty (Arrival.outcomes candidateThenRequest[0] ++ later) =
      some (true, _, later) := recvMsg_message _
  have second : ∀ later, recvMsg .empty (Arrival.outcomes candidateThenRequest[1] ++ later) =
      some (true, _, later) := recvMsg_message _
  have outcomes : candidateThenRequest.flatMap Arrival.outcomes =
      Arrival.outcomes candidateThenRequest[0] ++
        (Arrival.outcomes candidateThenRequest[1] ++ []) := rfl
  rw [outcomes, controlZmqMain, if_neg (by simp),
    controlLoop_handled (by decide) (first _) (by decide : handleMsg _ _ =
      .ok (some (.remoteCandidate 1 (some (.literal "candidate:1"))))),
    controlLoop_handled (by decide) (second _) (by decide : handleMsg _ _ =
      .ok (some .createOffer)),
    controlLoop_interrupted (by decide)]

end Ichabod
