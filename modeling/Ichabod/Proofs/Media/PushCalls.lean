import Ichabod.Lib.Interleaving
import Ichabod.Media.PushCalls
import Ichabod.Proofs.Media.Timestamps

/-! Which clock a frame's timestamp comes from when several frames are pushed at once. -/

namespace Ichabod

open Interleaving

/-- The steps of the calls, with what each one requires and changes. -/
inductive PushTransition (adjust : GstClockTime → Calibration → GstClockTime) (s : PushCalls) :
    PushAction → PushCalls → Prop where
  | changeClock (clock : Option Nat) :
      PushTransition adjust s (.changeClock clock)
        { s with
          src := { s.src with elementClock := clock }
          calls := s.calls.map (PushCall.sees clock) }
  | allow (allowData : Bool) :
      PushTransition adjust s (.allow allowData)
        { s with src := { s.src with allowData := allowData } }
  | enter (timestamp : UInt64) (frameBase64 : CString) :
      PushTransition adjust s (.enter timestamp frameBase64)
        { s with
          calls := s.calls ++ [⟨timestamp, frameBase64, .testing, s.src.elementClock.toList⟩] }
  -- The call goes on, or skips its frame.
  | test (number : Nat) (call : PushCall) (pc : PushPc) (there : s.calls[number]? = some call)
      (stands : call.pc = .testing) (next : pc = .asking ∨ pc = .returned) :
      PushTransition adjust s (.test number) (s.move number call pc)
  -- There is no clock to sync to.
  | getNone (number : Nat) (call : PushCall) (there : s.calls[number]? = some call)
      (stands : call.pc = .asking) :
      PushTransition adjust s (.getClock number) (s.move number call .returned)
  -- The call keeps the clock that the element has now.
  | getSome (number : Nat) (call : PushCall) (masterClock : Nat)
      (there : s.calls[number]? = some call) (stands : call.pc = .asking)
      (current : s.src.elementClock = some masterClock) :
      PushTransition adjust s (.getClock number) (s.move number call (.holding masterClock))
  | adopt (number : Nat) (call : PushCall) (masterClock : Nat) (reading : ClockReading)
      (there : s.calls[number]? = some call) (stands : call.pc = .holding masterClock) :
      PushTransition adjust s (.adopt number reading)
        ((s.adoptClock masterClock reading).move number call .stamping)
  | stamp (number : Nat) (call : PushCall) (there : s.calls[number]? = some call)
      (stands : call.pc = .stamping) :
      PushTransition adjust s (.stamp number)
        ((s.pushStamped adjust call).move number call .returned)

section Steps

variable {adjust : GstClockTime → Calibration → GstClockTime} {s t : PushCalls}
  {action : PushAction}

/-- Every step is one of the transitions. -/
theorem step_pushTransition (taken : s.step adjust action = some t) :
    PushTransition adjust s action t := by
  -- The branches of the step function are split once, here.
  cases action with
  | changeClock clock =>
    obtain rfl := Option.some.inj taken
    exact .changeClock clock
  | allow allowData =>
    obtain rfl := Option.some.inj taken
    exact .allow allowData
  | enter timestamp frameBase64 =>
    obtain rfl := Option.some.inj taken
    exact .enter timestamp frameBase64
  | test number =>
    rw [PushCalls.step] at taken
    split at taken
    · simp at taken
    · rename_i call there
      split at taken
      · rename_i stands
        obtain rfl := Option.some.inj taken
        exact .test number call _ there stands (by split <;> simp)
      · simp at taken
  | getClock number =>
    rw [PushCalls.step] at taken
    split at taken
    · simp at taken
    · rename_i call there
      split at taken
      · rename_i stands
        split at taken
        · obtain rfl := Option.some.inj taken
          exact .getNone number call there stands
        · rename_i masterClock current
          obtain rfl := Option.some.inj taken
          exact .getSome number call masterClock there stands current
      · simp at taken
  | adopt number reading =>
    rw [PushCalls.step] at taken
    split at taken
    · simp at taken
    · rename_i call there
      split at taken
      · rename_i masterClock stands
        obtain rfl := Option.some.inj taken
        exact .adopt number call masterClock reading there stands
      · simp at taken
  | stamp number =>
    rw [PushCalls.step] at taken
    split at taken
    · simp at taken
    · rename_i call there
      split at taken
      · rename_i stands
        obtain rfl := Option.some.inj taken
        exact .stamp number call there stands
      · simp at taken

/-- Behind a move, a call is the one that moved or one of the others. -/
theorem mem_move {number : Nat} {call other : PushCall} {pc : PushPc}
    (member : other ∈ (s.move number call pc).calls) :
    other ∈ s.calls ∨ other = { call with pc := pc } :=
  List.mem_or_eq_of_mem_set member

/-- A section under the lock leaves the wall clock with the clock that it was given. -/
theorem adoptMasterClock_master (wallClock : GstWallClock) (masterClock : Nat)
    (reading : ClockReading) :
    (adoptMasterClock wallClock masterClock reading).master = some masterClock := by
  -- Either the clock is adopted, or it was the master before.
  rw [adoptMasterClock]
  split
  · rfl
  · rename_i same
    exact (Decidable.not_not.mp same).symm

end Steps

/-- What is true in every run. -/
structure Tracked (s : PushCalls) : Prop where
  /-- The calibration belongs to the master clock. -/
  against : s.against = s.src.wallClock.master
  /-- A call that has not returned has seen the clock that the element has now. -/
  current : ∀ call ∈ s.calls, call.pc ≠ .returned →
    ∀ clock, s.src.elementClock = some clock → clock ∈ call.seen
  /-- A call has seen the clock that it holds. -/
  held : ∀ call ∈ s.calls, ∀ clock, call.pc = .holding clock → clock ∈ call.seen
  /-- No frame is stamped before the wall clock has been calibrated. -/
  calibrated : ∀ call ∈ s.calls, call.pc = .stamping → s.against.isSome = true
  stamped : ∀ stamp ∈ s.stamps, stamp.against.isSome = true
  /-- The frames that were pushed are those that were stamped. -/
  pushed : s.src.pushed = s.stamps.map fun stamp => .buffer stamp.buf

/-- A frame's calibration was taken against a clock that the element had during the call. -/
def Stamp.InCall (stamp : Stamp) : Prop :=
  ∃ clock ∈ stamp.seen, stamp.against = some clock

/-- A call that is about to stamp its frame has seen the clock of the calibration. -/
structure Fresh (s : PushCalls) : Prop where
  tracked : Tracked s
  due : ∀ call ∈ s.calls, call.pc = .stamping → ∃ clock ∈ call.seen, s.against = some clock
  stamped : ∀ stamp ∈ s.stamps, stamp.InCall

section Seen

variable {clock : Option Nat} {call : PushCall} {other : Nat}

/-- A call does not move when the clock changes. -/
theorem sees_pc : (call.sees clock).pc = call.pc := by
  rw [PushCall.sees]
  split <;> rfl

/-- What a call has seen stays seen. -/
theorem mem_sees (seen : other ∈ call.seen) : other ∈ (call.sees clock).seen := by
  rw [PushCall.sees]
  split
  · exact seen
  · exact List.mem_append_left _ seen

/-- A call that has not returned sees the new clock. -/
theorem mem_sees_current (going : call.pc ≠ .returned) :
    other ∈ (call.sees (some other)).seen := by
  rw [PushCall.sees, if_neg going]
  exact List.mem_append_right _ (by simp)

end Seen

section Invariants

variable {adjust : GstClockTime → Calibration → GstClockTime}

/-- Nothing has been pushed at the start. -/
theorem tracked_start : Tracked PushCalls.start := by
  constructor <;> simp [PushCalls.start, GstWallClock.new]

/-- A call that moves without touching the clocks has to have seen what it holds. -/
theorem Tracked.move {s : PushCalls} (tracked : Tracked s) {number : Nat} {call : PushCall}
    {pc : PushPc} (there : s.calls[number]? = some call) (going : call.pc ≠ .returned)
    (held : ∀ clock, pc = .holding clock → clock ∈ call.seen)
    (calibrated : pc = .stamping → s.against.isSome = true) :
    Tracked (s.move number call pc) := by
  -- Every call is the one that has moved, or one that stands where it stood.
  have member : call ∈ s.calls := List.mem_of_getElem? there
  refine ⟨tracked.against, ?_, ?_, ?_, tracked.stamped, tracked.pushed⟩
  · intro other moved notReturned clock now
    rcases mem_move moved with before | rfl
    · exact tracked.current other before notReturned clock now
    · exact tracked.current call member going clock now
  · intro other moved clock holds
    rcases mem_move moved with before | rfl
    · exact tracked.held other before clock holds
    · exact held clock holds
  · intro other moved stands
    rcases mem_move moved with before | rfl
    · exact tracked.calibrated other before stands
    · exact calibrated stands

/-- After a section under the lock, the calibration belongs to the clock that was adopted. -/
theorem Tracked.adoptClock_against {s : PushCalls} (tracked : Tracked s) (masterClock : Nat)
    (reading : ClockReading) : (s.adoptClock masterClock reading).against = some masterClock := by
  rw [PushCalls.adoptClock]
  split
  · rfl
  · rename_i same
    rw [tracked.against]
    exact (Decidable.not_not.mp same).symm

/-- A section under the lock leaves the calls alone. -/
theorem Tracked.adoptClock {s : PushCalls} (tracked : Tracked s) (masterClock : Nat)
    (reading : ClockReading) : Tracked (s.adoptClock masterClock reading) := by
  -- The calibration belongs to a clock from there on, so that no call meets the initial one.
  have adopted := tracked.adoptClock_against masterClock reading
  refine ⟨?_, tracked.current, tracked.held, ?_, tracked.stamped, tracked.pushed⟩
  · rw [adopted]
    exact (adoptMasterClock_master s.src.wallClock masterClock reading).symm
  · intro call member stands
    rw [adopted]
    rfl

/-- A stamp carries the clock of the calibration. -/
theorem Tracked.pushStamped {s : PushCalls} (tracked : Tracked s) {call : PushCall}
    (member : call ∈ s.calls) (stands : call.pc = .stamping) :
    Tracked (s.pushStamped adjust call) := by
  -- The stamp and the buffer are appended together.
  refine ⟨tracked.against, tracked.current, tracked.held, tracked.calibrated, ?_, ?_⟩
  · intro stamp stamped
    rcases List.mem_append.mp stamped with before | new
    · exact tracked.stamped stamp before
    · rw [List.mem_singleton.mp new]
      exact tracked.calibrated call member stands
  · simp only [PushCalls.pushStamped, List.map_append, tracked.pushed]
    rfl

/-- Every step keeps track of the clocks. -/
theorem tracked_step (s : PushCalls) (action : PushAction) (t : PushCalls) (tracked : Tracked s)
    (taken : s.step adjust action = some t) : Tracked t := by
  -- Only the two last transitions touch the calibration or the stamps.
  cases step_pushTransition taken with
  | changeClock clock =>
    refine ⟨tracked.against, ?_, ?_, ?_, tracked.stamped, tracked.pushed⟩
    · intro other member going masterClock now
      obtain ⟨call, before, rfl⟩ := List.mem_map.mp member
      rw [sees_pc] at going
      obtain rfl : clock = some masterClock := now
      exact mem_sees_current going
    · intro other member masterClock holds
      obtain ⟨call, before, rfl⟩ := List.mem_map.mp member
      rw [sees_pc] at holds
      exact mem_sees (tracked.held call before masterClock holds)
    · intro other member stands
      obtain ⟨call, before, rfl⟩ := List.mem_map.mp member
      rw [sees_pc] at stands
      exact tracked.calibrated call before stands
  | allow allowData =>
    exact ⟨tracked.against, tracked.current, tracked.held, tracked.calibrated, tracked.stamped,
      tracked.pushed⟩
  | enter timestamp frameBase64 =>
    refine ⟨tracked.against, ?_, ?_, ?_, tracked.stamped, tracked.pushed⟩
    · intro call member going clock now
      rcases List.mem_append.mp member with before | new
      · exact tracked.current call before going clock now
      · rw [List.mem_singleton.mp new]
        simpa using now
    · intro call member clock holds
      rcases List.mem_append.mp member with before | new
      · exact tracked.held call before clock holds
      · simp [List.mem_singleton.mp new] at holds
    · intro call member stands
      rcases List.mem_append.mp member with before | new
      · exact tracked.calibrated call before stands
      · simp [List.mem_singleton.mp new] at stands
  | test number call pc there stands next =>
    apply tracked.move there (by simp [stands])
    · rintro clock rfl
      simp at next
    · rintro rfl
      simp at next
  | getNone number call there stands =>
    exact tracked.move there (by simp [stands]) (by simp) (by simp)
  | getSome number call masterClock there stands current =>
    apply tracked.move there (by simp [stands])
    · intro clock holds
      obtain rfl := PushPc.holding.inj holds
      exact tracked.current call (List.mem_of_getElem? there) (by simp [stands]) _ current
    · simp
  | adopt number call masterClock reading there stands =>
    apply (tracked.adoptClock masterClock reading).move there (by simp [stands]) (by simp)
    intro _
    rw [tracked.adoptClock_against]
    rfl
  | stamp number call there stands =>
    have member : call ∈ s.calls := List.mem_of_getElem? there
    exact (tracked.pushStamped member stands).move there (by simp [stands]) (by simp) (by simp)

/--
A section under the lock makes the wall clock follow another clock only if the element has had that
clock during every call that is about to stamp its frame.
-/
def AdoptsSeen (s : PushCalls) (action : PushAction) : Prop :=
  ∀ number reading call masterClock, action = .adopt number reading →
    s.calls[number]? = some call → call.pc = .holding masterClock →
    some masterClock ≠ s.src.wallClock.master →
    ∀ other ∈ s.calls, other.pc = .stamping → masterClock ∈ other.seen

/-- Nothing is due at the start. -/
theorem fresh_start : Fresh PushCalls.start := by
  refine ⟨tracked_start, ?_, ?_⟩ <;> simp [PushCalls.start]

/-- A call that moves elsewhere makes no stamp due. -/
theorem Fresh.due_move {s : PushCalls} (fresh : Fresh s) {number : Nat} {call : PushCall}
    {pc : PushPc} (elsewhere : pc ≠ .stamping) :
    ∀ other ∈ (s.move number call pc).calls, other.pc = .stamping →
      ∃ clock ∈ other.seen, s.against = some clock := by
  intro other moved stands
  rcases mem_move moved with before | rfl
  · exact fresh.due other before stands
  · exact absurd stands elsewhere

/-- Every step that adopts no unseen clock keeps the stamps in their calls. -/
theorem fresh_step (s : PushCalls) (action : PushAction) (t : PushCalls) (fresh : Fresh s)
    (seen : AdoptsSeen s action) (taken : s.step adjust action = some t) : Fresh t := by
  have tracked := fresh.tracked
  refine ⟨tracked_step s action t tracked taken, ?_, ?_⟩
  · -- The clock of the calibration changes under the lock only.
    cases step_pushTransition taken with
    | changeClock clock =>
      intro other member stands
      obtain ⟨call, before, rfl⟩ := List.mem_map.mp member
      rw [sees_pc] at stands
      obtain ⟨masterClock, inCall, same⟩ := fresh.due call before stands
      exact ⟨masterClock, mem_sees inCall, same⟩
    | allow allowData => exact fresh.due
    | enter timestamp frameBase64 =>
      intro call member stands
      rcases List.mem_append.mp member with before | new
      · exact fresh.due call before stands
      · simp [List.mem_singleton.mp new] at stands
    | test number call pc there stands next =>
      apply fresh.due_move
      rintro rfl
      simp at next
    | getNone number call there stands => exact fresh.due_move (by simp)
    | getSome number call masterClock there stands current => exact fresh.due_move (by simp)
    | adopt number call masterClock reading there stands =>
      intro other moved due
      have adopted := tracked.adoptClock_against masterClock reading
      refine ⟨masterClock, ?_, adopted⟩
      rcases mem_move moved with before | rfl
      · by_cases same : some masterClock = s.src.wallClock.master
        · -- The calibration is the one of before.
          obtain ⟨clock, inCall, followed⟩ := fresh.due other before due
          rw [tracked.against, ← same] at followed
          obtain rfl := Option.some.inj followed
          exact inCall
        · exact seen number reading call masterClock rfl there stands same other before due
      · exact tracked.held call (List.mem_of_getElem? there) masterClock stands
    | stamp number call there stands => exact fresh.due_move (by simp)
  · cases step_pushTransition taken with
    | stamp number call there stands =>
      intro stamp member
      rcases List.mem_append.mp member with before | new
      · exact fresh.stamped stamp before
      · rw [List.mem_singleton.mp new]
        exact fresh.due call (List.mem_of_getElem? there) stands
    | _ => exact fresh.stamped

/-- A section under the lock that adopts an unseen clock lets the next stamp go wrong. -/
theorem stamp_of_unseen {s t : PushCalls} {action : PushAction} (tracked : Tracked s)
    (unseen : ¬ AdoptsSeen s action) (taken : s.step adjust action = some t) :
    ∃ number next, t.step adjust (.stamp number) = some next ∧
      ¬ ∀ stamp ∈ next.stamps, stamp.InCall := by
  unfold AdoptsSeen at unseen
  push Not at unseen
  obtain ⟨number, reading, call, masterClock, rfl, there, stands, _, other, member, due, missed⟩ :=
    unseen
  -- The call that is hurt is not the one that adopts, so it is still due.
  obtain ⟨place, found⟩ := List.getElem?_of_mem member
  have apart : number ≠ place := by
    rintro rfl
    obtain rfl : call = other := Option.some.inj (there.symm.trans found)
    simp [stands] at due
  have adopts : s.step adjust (.adopt number reading) =
      some ((s.adoptClock masterClock reading).move number call .stamping) := by
    simp only [PushCalls.step, there, stands]
  obtain rfl := Option.some.inj (adopts.symm.trans taken)
  have still : ((s.adoptClock masterClock reading).move number call .stamping).calls[place]? =
      some other := by
    rw [← found]
    exact List.getElem?_set_ne apart
  refine ⟨place, _, by simp only [PushCalls.step, still, due]; rfl, fun inCall => ?_⟩
  obtain ⟨clock, seen, same⟩ := inCall _ (List.mem_append_right _ (List.mem_singleton_self _))
  have adopted : some masterClock = some clock :=
    (tracked.adoptClock_against masterClock reading).symm.trans same
  obtain rfl := Option.some.inj adopted
  exact missed seen

end Invariants

/-- A call that runs on its own does what `screencast_src_push_frame` does without any slaving. -/
theorem lone_call (adjust : GstClockTime → Calibration → GstClockTime) (s : PushCalls)
    (timestamp : UInt64) (frameBase64 : CString) (reading : ClockReading) {masterClock : Nat}
    (allowed : s.src.allowData = true) (clock : s.src.elementClock = some masterClock) :
    ∃ t, run (PushCalls.step adjust) s [.enter timestamp frameBase64, .test s.calls.length,
        .getClock s.calls.length, .adopt s.calls.length reading, .stamp s.calls.length] = some t ∧
      t.src = screencastSrcPushFrame adjust ⟨reading, none⟩ s.src timestamp frameBase64 := by
  -- The new call is the last one, and each of its steps finds it where the one before left it.
  simp [run, PushCalls.step, PushCalls.move, PushCalls.adoptClock, PushCalls.pushStamped, allowed,
    clock, screencastSrcPushFrame, GstWallClock.slaved]

/-- Every frame that was pushed has its stamp, and its clock was the element's during the call. -/
def FramesInCall (s : PushCalls) : Prop :=
  s.src.pushed = s.stamps.map (fun stamp => .buffer stamp.buf) ∧
    ∀ stamp ∈ s.stamps, stamp.InCall

/--
In every run whose lock sections adopt no clock unseen by a call that is about to stamp its frame,
every frame is stamped with a clock that the element had during the call; any other lock section can
be followed by a stamp that is not. No frame at all is stamped with the initial calibration.
-/
theorem frames_inCall_of_adoptsSeen (adjust : GstClockTime → Calibration → GstClockTime) :
    (∀ actions, Guarded (PushCalls.step adjust) AdoptsSeen .start actions →
      Along (PushCalls.step adjust) FramesInCall .start actions) ∧
    (∀ s, Reachable (PushCalls.step adjust) .start s →
      ∀ stamp ∈ s.stamps, stamp.against.isSome = true) ∧
    ∀ s action t, Reachable (PushCalls.step adjust) .start s → ¬ AdoptsSeen s action →
      s.step adjust action = some t →
      ∃ number next, t.step adjust (.stamp number) = some next ∧ ¬ FramesInCall next := by
  -- What is tracked holds in every run, and the stamps follow where the guard is met.
  have tracks : ∀ s, Reachable (PushCalls.step adjust) .start s → Tracked s :=
    fun s reached => reachable_invariant Tracked tracked_step tracked_start reached
  refine ⟨fun actions guarded => ?_, fun s reached => (tracks s reached).stamped, ?_⟩
  · have along := along_of_guarded Fresh fresh_step fresh_start guarded
    exact along.mono fun s fresh => ⟨fresh.tracked.pushed, fresh.stamped⟩
  · intro s action t reached unseen taken
    obtain ⟨number, next, stamped, wrong⟩ := stamp_of_unseen (tracks s reached) unseen taken
    exact ⟨number, next, stamped, fun frames => wrong frames.2⟩

/-- The clock changes between the lock section and the stamp of one call, and another adopts it. -/
def overlappingCalls : List PushAction :=
  [.changeClock (some 1), .allow true, .enter 1 (.literal "AAAA"), .test 0, .getClock 0,
    .adopt 0 ⟨⟨1, 0⟩, 5⟩, .changeClock (some 2), .enter 2 (.literal "AAAA"), .test 1, .getClock 1,
    .adopt 1 ⟨⟨1, 0⟩, 9⟩, .stamp 0, .stamp 1]

/-- The first call adopts its clock late, between the lock section and the stamp of the second. -/
def lateAdoption : List PushAction :=
  [.changeClock (some 1), .allow true, .enter 1 (.literal "AAAA"), .test 0, .getClock 0,
    .changeClock (some 2), .enter 2 (.literal "AAAA"), .test 1, .getClock 1,
    .adopt 1 ⟨⟨1, 0⟩, 5⟩, .adopt 0 ⟨⟨1, 0⟩, 9⟩, .stamp 1]

/-- Steps other than lock sections meet the guard. -/
theorem adoptsSeen_of_ne {s : PushCalls} {action : PushAction}
    (other : ∀ number reading, action ≠ .adopt number reading) : AdoptsSeen s action :=
  fun number reading _ _ same => absurd same (other number reading)

/-- Both frames are stamped with the second clock, which the element has had during both calls. -/
theorem overlappingCalls_inCall :
    (∃ final,
      run (PushCalls.step gstClockAdjustWithCalibration) .start overlappingCalls = some final ∧
        final.stamps.map (fun stamp => (stamp.seen, stamp.against)) =
          [([1, 2], some 2), ([2], some 2)]) ∧
      Along (PushCalls.step gstClockAdjustWithCalibration) FramesInCall .start
        overlappingCalls := by
  refine ⟨run_ends (by decide +kernel), ?_⟩
  refine (frames_inCall_of_adoptsSeen gstClockAdjustWithCalibration).1 overlappingCalls ?_
  iterate 5 apply Guarded.cons rfl (adoptsSeen_of_ne (by simp))
  apply Guarded.cons rfl
  · -- There is no other call yet that could be about to stamp its frame.
    intro number reading call masterClock _ _ _ _ other member due
    simp [PushCalls.move, PushCalls.start] at member
    simp [member] at due
  iterate 4 apply Guarded.cons rfl (adoptsSeen_of_ne (by simp))
  apply Guarded.cons rfl
  · -- The first call is about to stamp its frame, and has seen the clock that the second one holds.
    intro number reading call masterClock same there holds _ other member due
    cases same
    cases there
    cases holds
    simp [PushCalls.move, PushCalls.adoptClock, PushCalls.start, PushCall.sees] at member
    rcases member with rfl | rfl
    · decide
    · simp at due
  iterate 2 apply Guarded.cons rfl (adoptsSeen_of_ne (by simp))
  exact trivial

/-- The frame of the second call is stamped with the clock of the first one. -/
theorem lateAdoption_stamps :
    ∃ final, run (PushCalls.step gstClockAdjustWithCalibration) .start lateAdoption = some final ∧
      final.stamps.map (fun stamp => (stamp.seen, stamp.against)) = [([2], some 1)] ∧
      ¬ FramesInCall final := by
  have ended : ∃ final,
      run (PushCalls.step gstClockAdjustWithCalibration) .start lateAdoption = some final ∧
        final.stamps.map (fun stamp => (stamp.seen, stamp.against)) = [([2], some 1)] :=
    run_ends (by decide +kernel)
  obtain ⟨final, ran, stamps⟩ := ended
  refine ⟨final, ran, stamps, fun frames => ?_⟩
  -- The only stamp comes from the clock that the element had lost before its call began.
  obtain ⟨stamp, member, same⟩ : ∃ stamp ∈ final.stamps,
      (stamp.seen, stamp.against) = ([2], some 1) := by
    rw [← List.mem_map, stamps]
    exact List.mem_singleton_self _
  obtain ⟨clock, seen, against⟩ := frames.2 stamp member
  simp only [Prod.mk.injEq] at same
  rw [same.2] at against
  obtain rfl := Option.some.inj against
  rw [same.1] at seen
  simp at seen

end Ichabod
