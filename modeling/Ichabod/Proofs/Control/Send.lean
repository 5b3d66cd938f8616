import Ichabod.Control.Send
import Ichabod.Lib.Interleaving

/-! Messages on the shared push socket stay whole, as long as the callers take turns. -/

namespace Ichabod

open Interleaving ControlSends

/-- The delivered messages that hold a part of the numbered call. -/
def ControlSends.contribution (s : ControlSends) (number : Nat) : List (List SentPart) :=
  s.socket.delivered.filter fun message => message.any (·.caller == number)

/-- Every successful call has delivered its own message, and no other message was delivered. -/
structure SendsIntact (s : ControlSends) : Prop where
  /-- A call that returned zero contributed exactly one message, which has exactly its parts. -/
  contributed : ∀ (number : Nat) (caller : Caller), s.callers[number]? = some caller →
    caller.returned = some 0 → s.contribution number = [caller.call.message number]
  /-- The peer receives nothing but the messages of single calls. -/
  whole : ∀ message ∈ s.socket.delivered, ∃ (number : Nat) (caller : Caller),
    s.callers[number]? = some caller ∧ message = caller.call.message number

/-- A send only succeeds while the socket holds exactly the earlier parts of the same call. -/
def TakesTurns (s : ControlSends) (action : SendAction) : Prop :=
  ∀ (number : Nat) (caller : Caller), action = .send number true →
    s.callers[number]? = some caller →
      s.socket.outgoing = (caller.call.message number).take caller.position

/-- The last send of a call only succeeds while the socket holds exactly its earlier parts. -/
def CompletesInTurn (s : ControlSends) (action : SendAction) : Prop :=
  ∀ (number : Nat) (caller : Caller), action = .send number true →
    s.callers[number]? = some caller → caller.position + 1 = caller.call.sends.length →
      s.socket.outgoing = (caller.call.message number).take caller.position

section Message

variable {call : ControlCall} {number position : Nat} {send : ZmqSend}

/-- The part at each place of a message is the send at that place of the code. -/
theorem message_getElem? (call : ControlCall) (number position : Nat) :
    (call.message number)[position]? =
      call.sends[position]?.map fun send => ⟨number, position, send.data⟩ := by
  -- The parts are numbered by the places of their sends.
  simp [ControlCall.message]

/-- A message has one part for each send. -/
@[simp] theorem message_length (call : ControlCall) (number : Nat) :
    (call.message number).length = call.sends.length := by
  simp [ControlCall.message]

/-- What the parts of each message read, in the order of the protocol. -/
theorem message_data (call : ControlCall) (number : Nat) :
    (call.message number).map SentPart.data =
      match call with
      | .sendOffer offer => [CString.ascii "offer", offer.text]
      | .sendIceCandidate mLineIndex candidate =>
        [CString.ascii "icecandidate", (szMline mLineIndex).text, candidate.text]
      | .online => [CString.ascii "online"] := by
  -- Every string is sent up to its terminator, and the literals have none inside.
  have offer := CString.text_literal (show 0 ∉ CString.ascii "offer" by decide)
  have candidate := CString.text_literal (show 0 ∉ CString.ascii "icecandidate" by decide)
  have online := CString.text_literal (show 0 ∉ CString.ascii "online" by decide)
  cases call <;> simp [ControlCall.message, ControlCall.sends, offer, candidate, online]

/-- The next send appends the next part of the message. -/
theorem take_concat (next : call.sends[position]? = some send) :
    (call.message number).take position ++ [⟨number, position, send.data⟩] =
      (call.message number).take (position + 1) := by
  -- A longer beginning of a list has one element more, which is the next one.
  rw [List.take_add_one, message_getElem?, next]
  rfl

/-- Only the last send of a call is made without `ZMQ_SNDMORE`. -/
theorem more_iff (next : call.sends[position]? = some send) :
    send.more = true ↔ position + 1 < call.sends.length := by
  -- The lists of sends are literals, and a place behind their end holds no send.
  cases call with
  | sendOffer offer =>
    match position with
    | 0 | 1 => cases next; simp [ControlCall.sends, ZmqSend.ofString]
    | position + 2 => simp [ControlCall.sends] at next
  | sendIceCandidate mLineIndex candidate =>
    match position with
    | 0 | 1 | 2 => cases next; simp [ControlCall.sends, ZmqSend.ofString]
    | position + 3 => simp [ControlCall.sends] at next
  | online =>
    match position with
    | 0 => cases next; simp [ControlCall.sends, ZmqSend.ofString]
    | position + 1 => simp [ControlCall.sends] at next

/-- A send that is still to come lies inside the list of sends. -/
theorem position_lt (next : call.sends[position]? = some send) :
    position < call.sends.length :=
  (List.getElem?_eq_some_iff.mp next).1

/-- Every call sends something. -/
theorem sends_pos (call : ControlCall) : 0 < call.sends.length := by
  cases call <;> simp [ControlCall.sends]

/-- A message holds parts of its own call only. -/
theorem caller_of_mem {part : SentPart} (member : part ∈ call.message number) :
    part.caller = number := by
  -- Every part is labelled with the number that the message is built for.
  simp only [ControlCall.message, List.mem_mapIdx] at member
  obtain ⟨_, _, rfl⟩ := member
  rfl

/-- A message belongs to the call that sent it, and to no other. -/
theorem message_any (call : ControlCall) (number other : Nat) :
    (call.message number).any (·.caller == other) = decide (number = other) := by
  -- Every part names the call, and there is at least one.
  by_cases same : number = other
  · have nonempty : 0 < (call.message number).length := by
      rw [message_length]
      exact sends_pos call
    obtain ⟨part, member⟩ := List.exists_mem_of_length_pos nonempty
    rw [decide_eq_true same, List.any_eq_true]
    exact ⟨part, member, by simp [caller_of_mem member, same]⟩
  · rw [decide_eq_false same, List.any_eq_false]
    intro part member
    simpa [caller_of_mem member] using same

end Message

/-- Whether the last send of a call has been made, and was accepted. -/
def Caller.sent (caller : Caller) : Prop :=
  caller.position = caller.call.sends.length ∧ 0 ≤ caller.ret

/-- A call returns zero only if its last send was accepted. -/
theorem ret_of_returned {caller : Caller} (zero : caller.returned = some 0) :
    caller.call.sends.length ≤ caller.position ∧ 0 ≤ caller.ret := by
  -- The comparison is with a length, and no length is negative.
  have result : ¬ caller.position < caller.call.sends.length ∧
      caller.call.result caller.ret = some 0 := by
    simp only [Caller.returned] at zero
    split at zero
    · simp at zero
    · exact ⟨‹_›, zero⟩
  obtain ⟨finished, result⟩ := result
  refine ⟨by omega, ?_⟩
  cases call : caller.call with
  | sendOffer offer =>
    simp only [call, ControlCall.result, Option.some.injEq] at result
    split at result <;> omega
  | sendIceCandidate mLineIndex candidate =>
    simp only [call, ControlCall.result, Option.some.injEq] at result
    split at result <;> omega
  | online => simp [call, ControlCall.result] at result

/-- What each call has contributed, whether or not it has returned. -/
structure Accounted (s : ControlSends) : Prop where
  within : ∀ (number : Nat) (caller : Caller), s.callers[number]? = some caller →
    caller.position ≤ caller.call.sends.length
  /-- A call contributes its own message with its last send, and nothing before. -/
  contributed : ∀ (number : Nat) (caller : Caller), s.callers[number]? = some caller →
    (caller.sent → s.contribution number = [caller.call.message number]) ∧
      (¬ caller.sent → s.contribution number = [])
  whole : ∀ message ∈ s.socket.delivered, ∃ (number : Nat) (caller : Caller),
    s.callers[number]? = some caller ∧ message = caller.call.message number

/-- Nothing has been sent at the start. -/
theorem accounted_idle : Accounted idle := by
  -- There are neither calls nor messages yet.
  constructor <;> simp [idle, PushSocket.fresh]

/-- What is accounted for is intact. -/
theorem Accounted.intact {s : ControlSends} (accounted : Accounted s) : SendsIntact s := by
  -- A call that returned zero has had its last part accepted.
  refine ⟨fun number caller made zero => ?_, accounted.whole⟩
  obtain ⟨finished, accepted⟩ := ret_of_returned zero
  have within := accounted.within number caller made
  exact (accounted.contributed number caller made).1 ⟨by omega, accepted⟩

/-- What one step does: a call is made, or an existing one makes its next send. -/
theorem send_cases {s t : ControlSends} {action : SendAction} (taken : s.step action = some t) :
    (∃ call, action = .enter call ∧ t = { s with callers := s.callers ++ [⟨call, 0, 0⟩] }) ∨
    (∃ number accepted caller send, action = .send number accepted ∧
      s.callers[number]? = some caller ∧ caller.call.sends[caller.position]? = some send ∧
      t = {
        callers := s.callers.set number
          { caller with position := caller.position + 1, ret := send.ret accepted }
        socket :=
  -- A send needs a call with that number, which has a send left to make.
          if accepted then s.socket.take ⟨number, caller.position, send.data⟩ send.more
          else s.socket }) := by
  -- A step enters a call, or makes the next send of one that is still sending.
  cases action with
  | enter call =>
    cases taken
    exact .inl ⟨call, rfl, rfl⟩
  | send number accepted =>
    simp only [step] at taken
    split at taken
    · cases taken
    · split at taken <;> cases taken
      exact .inr ⟨number, accepted, _, _, rfl, ‹_›, ‹_›, rfl⟩

/-- A call that no message mentions has contributed nothing. -/
theorem contribution_fresh {s : ControlSends} (accounted : Accounted s) {number : Nat}
    (fresh : s.callers.length ≤ number) : s.contribution number = [] := by
  -- Every delivered message belongs to an earlier call, and names only that call.
  rw [contribution, List.filter_eq_nil_iff]
  intro message member
  obtain ⟨other, caller, made, rfl⟩ := accounted.whole message member
  have inside := (List.getElem?_eq_some_iff.mp made).1
  rw [message_any]
  simp only [decide_eq_true_eq]
  omega

/-- A new call leaves everything accounted for. -/
theorem accounted_enter {s : ControlSends} (accounted : Accounted s) (call : ControlCall) :
    Accounted { s with callers := s.callers ++ [⟨call, 0, 0⟩] } := by
  -- An earlier call keeps its place, and the new one has made no send.
  have earlier_or_new : ∀ number caller, (s.callers ++ [⟨call, 0, 0⟩])[number]? = some caller →
      s.callers[number]? = some caller ∨
        (s.callers.length ≤ number ∧ caller = ⟨call, 0, 0⟩) := by
    intro number caller made
    rcases Nat.lt_or_ge number s.callers.length with earlier | new
    · rw [List.getElem?_append_left earlier] at made
      exact .inl made
    · rw [List.getElem?_append_right new] at made
      have single := List.mem_of_getElem? made
      exact .inr ⟨new, List.mem_singleton.mp single⟩
  refine ⟨fun number caller made => ?_, fun number caller made => ?_, fun message member => ?_⟩
  · rcases earlier_or_new number caller made with earlier | ⟨_, rfl⟩
    · exact accounted.within number caller earlier
    · exact Nat.zero_le _
  · rcases earlier_or_new number caller made with earlier | ⟨new, rfl⟩
    · exact accounted.contributed number caller earlier
    · refine ⟨fun sent => ?_, fun _ => contribution_fresh accounted new⟩
      have positive := sends_pos call
      have finished : 0 = call.sends.length := sent.1
      omega
  · obtain ⟨number, caller, made, same⟩ := accounted.whole message member
    have inside := (List.getElem?_eq_some_iff.mp made).1
    exact ⟨number, caller, (List.getElem?_append_left inside).trans made, same⟩

/-- The calls after one of them has moved on: the same ones, at the same numbers. -/
theorem getElem?_moved {s : ControlSends} {number : Nat} {caller moved : Caller}
    (made : s.callers[number]? = some caller) (other : Nat) :
    (s.callers.set number moved)[other]? =
      if number = other then some moved else s.callers[other]? := by
  have inside := (List.getElem?_eq_some_iff.mp made).1
  rw [List.getElem?_set]
  simp [inside]

/-- A send that completes no message leaves everything accounted for. -/
theorem accounted_unfinished {s : ControlSends} (accounted : Accounted s) {number : Nat}
    {caller : Caller} {socket : PushSocket SentPart} {ret : Int}
    (made : s.callers[number]? = some caller)
    (inside : caller.position < caller.call.sends.length)
    (unfinished : ret = -1 ∨ caller.position + 1 < caller.call.sends.length)
    (same : socket.delivered = s.socket.delivered) :
    Accounted {
      callers := s.callers.set number { caller with position := caller.position + 1, ret := ret }
      socket := socket } := by
  have unsent : ¬ caller.sent := fun sent => by
    have finished := sent.1
    omega
  refine ⟨fun other found held => ?_, fun other found held => ?_, fun message member => ?_⟩
  · rw [getElem?_moved made] at held
    split at held
    · cases held
      exact inside
    · exact accounted.within other found held
  · rw [getElem?_moved made] at held
    simp only [contribution, same]
    split at held
    · rename_i here
      cases held
      subst here
      -- The moving call has not completed its message before, and has not now.
      refine ⟨fun sent => ?_, fun _ => (accounted.contributed number caller made).2 unsent⟩
      have finished : caller.position + 1 = caller.call.sends.length := sent.1
      have accepted : 0 ≤ ret := sent.2
      omega
    · exact accounted.contributed other found held
  · rw [same] at member
    obtain ⟨other, found, held, rfl⟩ := accounted.whole message member
    by_cases here : number = other
    · subst here
      obtain rfl := Option.some.inj (made.symm.trans held)
      exact ⟨number, _, (getElem?_moved made number).trans (if_pos rfl), rfl⟩
    · exact ⟨other, found, (getElem?_moved made other).trans ((if_neg here).trans held), rfl⟩

/-- A last send in turn completes the caller's own message, and everything is accounted for. -/
theorem accounted_finished {s : ControlSends} (accounted : Accounted s) {number : Nat}
    {caller : Caller} {send : ZmqSend} (made : s.callers[number]? = some caller)
    (next : caller.call.sends[caller.position]? = some send)
    (last : ¬ caller.position + 1 < caller.call.sends.length)
    (turn : s.socket.outgoing = (caller.call.message number).take caller.position) :
    Accounted {
      callers := s.callers.set number
        { caller with position := caller.position + 1, ret := send.ret true }
      socket := s.socket.take ⟨number, caller.position, send.data⟩ send.more } := by
  have inside := position_lt next
  have final : send.more = false := by
    rw [← Bool.not_eq_true, more_iff next]
    exact last
  -- What is delivered is the call's message as a whole.
  have delivers : (s.socket.take ⟨number, caller.position, send.data⟩ send.more).delivered =
      s.socket.delivered ++ [caller.call.message number] := by
    simp only [PushSocket.take, final, turn, take_concat next]
    rw [if_neg Bool.false_ne_true, List.take_of_length_le (by rw [message_length]; omega)]
  -- So the other calls have contributed what they had before.
  have contributes : ∀ other, contribution {
      callers := s.callers.set number
        { caller with position := caller.position + 1, ret := send.ret true }
      socket := s.socket.take ⟨number, caller.position, send.data⟩ send.more } other =
        s.contribution other ++ if number = other then [caller.call.message number] else [] := by
    intro other
    simp only [contribution, delivers, List.filter_append, List.filter_cons, List.filter_nil,
      message_any, decide_eq_true_eq]
  have unsent : ¬ caller.sent := fun sent => by
    have finished := sent.1
    omega
  refine ⟨fun other found held => ?_, fun other found held => ?_, fun message member => ?_⟩
  · rw [getElem?_moved made] at held
    split at held
    · cases held
      exact inside
    · exact accounted.within other found held
  · rw [getElem?_moved made] at held
    rw [contributes]
    split at held
    · rename_i here
      cases held
      subst here
      rw [(accounted.contributed number caller made).2 unsent, if_pos rfl]
      refine ⟨fun _ => rfl, fun unfinished => ?_⟩
      -- The last send was accepted, so the call counts as sent.
      have finished : caller.position + 1 = caller.call.sends.length := by omega
      exact absurd ⟨finished, send.ret_accepted⟩ unfinished
    · rename_i elsewhere
      rw [if_neg elsewhere, List.append_nil]
      exact accounted.contributed other found held
  · rw [delivers, List.mem_append, List.mem_singleton] at member
    rcases member with earlier | rfl
    · obtain ⟨other, found, held, rfl⟩ := accounted.whole message earlier
      by_cases here : number = other
      · subst here
        obtain rfl := Option.some.inj (made.symm.trans held)
        exact ⟨number, _, (getElem?_moved made number).trans (if_pos rfl), rfl⟩
      · exact ⟨other, found, (getElem?_moved made other).trans ((if_neg here).trans held), rfl⟩
    · exact ⟨number, _, (getElem?_moved made number).trans (if_pos rfl), rfl⟩

/-- Every step that completes its message in turn, if it does, leaves everything accounted for. -/
theorem accounted_step (s : ControlSends) (action : SendAction) (t : ControlSends)
    (accounted : Accounted s) (turns : CompletesInTurn s action) (taken : s.step action = some t) :
    Accounted t := by
  -- Only the last send of a call completes a message, so only that one needs the guard.
  rcases send_cases taken with
    ⟨call, rfl, rfl⟩ | ⟨number, accepted, caller, send, rfl, made, next, rfl⟩
  · exact accounted_enter accounted call
  · have inside := position_lt next
    cases accepted with
    | false => exact accounted_unfinished accounted made inside (.inl rfl) rfl
    | true =>
      by_cases more : caller.position + 1 < caller.call.sends.length
      · refine accounted_unfinished accounted made inside (.inr more) ?_
        simp [PushSocket.take, (more_iff next).mpr more]
      · have last : caller.position + 1 = caller.call.sends.length := by omega
        exact accounted_finished accounted made next more (turns number caller rfl made last)

/-- The message of one of the calls in the given state. -/
def OwnMessage (s : ControlSends) (message : List SentPart) : Prop :=
  ∃ (number : Nat) (caller : Caller),
    s.callers[number]? = some caller ∧ message = caller.call.message number

/-- A part that continues some call's message continues the message of its own call, in turn. -/
theorem turn_of_prefix {outgoing : List SentPart} {call : ControlCall}
    {number other position : Nat} {data : Bytes}
    (begins : outgoing ++ [⟨number, position, data⟩] <+: call.message other) :
    other = number ∧ outgoing = (call.message number).take position := by
  -- The part stands where its label says, and the parts before it are the message's first ones.
  have there : (call.message other)[outgoing.length]? = some ⟨number, position, data⟩ := by
    obtain ⟨rest, same⟩ := begins
    rw [← same]
    simp
  rw [message_getElem?] at there
  obtain ⟨send, _, same⟩ := Option.map_eq_some_iff.mp there
  cases same
  exact ⟨rfl, List.prefix_iff_eq_take.mp ((List.prefix_append _ _).trans begins)⟩

/-- A call keeps its number in every later state. -/
theorem calls_kept {s t : ControlSends} {actions : List SendAction} {number : Nat}
    {call : ControlCall} (made : ∃ caller, s.callers[number]? = some caller ∧ caller.call = call)
    (ran : run step s actions = some t) :
    ∃ caller, t.callers[number]? = some caller ∧ caller.call = call := by
  -- Calls are appended and updated in place, and no update changes which call it is.
  refine run_invariant
    (fun state => ∃ caller, state.callers[number]? = some caller ∧ caller.call = call) ?_ made ran
  intro state action next ⟨caller, made, same⟩ taken
  have inside := (List.getElem?_eq_some_iff.mp made).1
  rcases send_cases taken with ⟨_, _, rfl⟩ | ⟨other, _, moving, _, _, held, _, rfl⟩
  · exact ⟨caller, (List.getElem?_append_left inside).trans made, same⟩
  · -- The call that moves on stays the same call.
    by_cases here : other = number
    · subst here
      obtain rfl := Option.some.inj (made.symm.trans held)
      exact ⟨_, (getElem?_moved made other).trans (if_pos rfl), same⟩
    · exact ⟨caller, (getElem?_moved held number).trans ((if_neg here).trans made), same⟩

/-- The first message completed after a send out of turn is not the message of any call. -/
theorem broken_after_wrong_turn {s t final : ControlSends} {action : SendAction}
    {actions : List SendAction} (wrong : ¬ TakesTurns s action) (taken : s.step action = some t)
    (ran : run step t actions = some final)
    (completed : s.socket.delivered.length < final.socket.delivered.length) :
    ¬ SendsIntact final := by
  -- The send makes the outgoing message something that no call could have begun.
  have spoiled : PushSocket.Spoiled (OwnMessage final) s.socket.delivered.length t.socket := by
    simp only [TakesTurns, not_forall] at wrong
    obtain ⟨number, caller, rfl, made, outOfTurn⟩ := wrong
    rcases send_cases taken with ⟨_, impossible, _⟩ | ⟨_, _, _, send, same, held, _, rfl⟩
    · cases impossible
    · cases same
      obtain rfl := Option.some.inj (made.symm.trans held)
      refine PushSocket.spoiled_take fun message own begins => ?_
      obtain ⟨other, sender, there, rfl⟩ := own
      obtain ⟨rfl, turn⟩ := turn_of_prefix begins
      -- By the end of the run, the call with this number is still the one that made the send.
      obtain ⟨later, found, kept⟩ := calls_kept
        ⟨_, (getElem?_moved made other).trans (if_pos rfl), rfl⟩ ran
      obtain rfl := Option.some.inj (there.symm.trans found)
      exact outOfTurn (kept ▸ turn)
  have still : PushSocket.Spoiled (OwnMessage final) s.socket.delivered.length final.socket := by
    refine run_invariant
      (fun state => PushSocket.Spoiled (OwnMessage final) s.socket.delivered.length state.socket)
      ?_ spoiled ran
    intro state action next now taken
    rcases send_cases taken with ⟨_, _, rfl⟩ | ⟨_, accepted, _, _, _, _, _, rfl⟩
    · exact now
    · cases accepted with
      | false => exact now
      | true => exact now.take _ _
  intro intact
  obtain ⟨message, member, broken⟩ := still.delivered completed
  exact broken (intact.whole message member)

/-- A message that is delivered whole was completed in turn. -/
theorem completesInTurn_of_intact (s : ControlSends) (action : SendAction) (t : ControlSends)
    (taken : s.step action = some t) (intact : SendsIntact t) : CompletesInTurn s action := by
  rintro number caller rfl made last
  rcases send_cases taken with ⟨_, impossible, _⟩ | ⟨_, _, _, send, same, held, next, rfl⟩
  · cases impossible
  · cases same
    obtain rfl := Option.some.inj (made.symm.trans held)
    have final : send.more = false := by
      rw [← Bool.not_eq_true, more_iff next]
      omega
    -- What the send has delivered is the message of some call, and that can only be its own.
    have member : s.socket.outgoing ++ [⟨number, caller.position, send.data⟩] ∈
        (s.socket.take ⟨number, caller.position, send.data⟩ send.more).delivered := by
      simp [PushSocket.take, final]
    obtain ⟨other, sender, there, same⟩ := intact.whole _ member
    have begins : s.socket.outgoing ++ [⟨number, caller.position, send.data⟩] <+:
        sender.call.message other := ⟨[], (List.append_nil _).trans same⟩
    obtain ⟨rfl, turn⟩ := turn_of_prefix begins
    rw [getElem?_moved made, if_pos rfl] at there
    obtain rfl := Option.some.inj there
    exact turn

/--
Every call that returns zero has delivered exactly its own message, and the peer receives nothing
else, throughout a run precisely if each send of the run that completes a message does so in turn;
and this is so if the callers take turns with all their sends.

A send out of turn cannot be mended: the next message that the peer receives is broken.
-/
theorem sends_intact_in_turns (actions : List SendAction) :
    (Along step SendsIntact idle actions ↔ Guarded step CompletesInTurn idle actions) ∧
      (Guarded step TakesTurns idle actions → Along step SendsIntact idle actions) ∧
      ∀ s action t, ¬ TakesTurns s action → step s action = some t →
        ∀ final, run step t actions = some final →
          s.socket.delivered.length < final.socket.delivered.length → ¬ SendsIntact final := by
  -- What the calls have contributed is accounted for step by step.
  have completing : Guarded step CompletesInTurn idle actions →
      Along step SendsIntact idle actions := fun turns =>
    (along_of_guarded _ accounted_step accounted_idle turns).mono fun _ now => now.intact
  refine ⟨⟨guarded_of_along completesInTurn_of_intact, completing⟩, fun turns => ?_,
    fun s action t wrong taken final ran completed =>
      broken_after_wrong_turn wrong taken ran completed⟩
  apply completing
  exact turns.mono fun s action taking number caller same made _ => taking number caller same made

/-- The first send of an offer fails, and the second one does not. -/
def offerAfterFailedSend : List SendAction :=
  [.enter (.sendOffer (.literal "v=0")), .send 0 false, .send 0 true]

/-- The offer still returns zero, and the peer receives its text without the leading part. -/
theorem offer_sent_without_type :
    ∃ final, run step idle offerAfterFailedSend = some final ∧
      final.callers.map Caller.returned = [some 0] ∧
      final.socket.delivered = [[⟨0, 1, CString.ascii "v=0"⟩]] ∧ ¬ SendsIntact final := by
  -- The second send is made although the first one failed, and only its result is compared.
  have ended : ∃ final, run step idle offerAfterFailedSend = some final ∧
      final.callers.map Caller.returned = [some 0] ∧
      final.socket.delivered = [[⟨0, 1, CString.ascii "v=0"⟩]] := run_ends (by decide)
  obtain ⟨final, ran, returned, delivered⟩ := ended
  refine ⟨final, ran, returned, delivered, fun intact => ?_⟩
  -- A message always begins with the first part of its call.
  have member : [⟨0, 1, CString.ascii "v=0"⟩] ∈ final.socket.delivered := by simp [delivered]
  obtain ⟨number, caller, _, same⟩ := intact.whole _ member
  have first := message_getElem? caller.call number 0
  rw [← same] at first
  obtain ⟨send, _, wrong⟩ := Option.map_eq_some_iff.mp first.symm
  simp at wrong

/-- The greeting of `zmq_main` comes between the two sends of an offer. -/
def onlineDuringOffer : List SendAction :=
  [.enter (.sendOffer (.literal "v=0")), .send 0 true, .enter .online, .send 1 true, .send 0 true]

/-- An offer that returns zero reaches the peer in two broken messages. -/
theorem offer_spliced_with_online :
    ∃ final, run step idle onlineDuringOffer = some final ∧
      final.callers.map Caller.returned = [some 0, none] ∧
      final.socket.delivered.map (·.map SentPart.data) =
        [[CString.ascii "offer", CString.ascii "online"], [CString.ascii "v=0"]] ∧
      ¬ SendsIntact final := by
  -- The greeting is sent without `ZMQ_SNDMORE`, so it completes the message of the offer.
  have ended : ∃ final, run step idle onlineDuringOffer = some final ∧
      final.callers.map Caller.returned = [some 0, none] ∧
      final.socket.delivered = [[⟨0, 0, CString.ascii "offer"⟩, ⟨1, 0, CString.ascii "online"⟩],
        [⟨0, 1, CString.ascii "v=0"⟩]] := run_ends (by decide)
  obtain ⟨final, ran, returned, delivered⟩ := ended
  refine ⟨final, ran, returned, by rw [delivered]; rfl, fun intact => ?_⟩
  -- The first message holds parts of both calls.
  have member : [⟨0, 0, CString.ascii "offer"⟩, ⟨1, 0, CString.ascii "online"⟩] ∈
      final.socket.delivered := by simp [delivered]
  obtain ⟨number, caller, _, same⟩ := intact.whole _ member
  have first : (⟨0, 0, CString.ascii "offer"⟩ : SentPart) ∈ caller.call.message number := by
    rw [← same]
    simp
  have second : (⟨1, 0, CString.ascii "online"⟩ : SentPart) ∈ caller.call.message number := by
    rw [← same]
    simp
  have zero : 0 = number := caller_of_mem first
  have one : 1 = number := caller_of_mem second
  omega

end Ichabod
