import Ichabod.Lib.History
import Ichabod.Proofs.Horseman.EndToEnd
import Ichabod.Proofs.Media.PushCalls

/-! Which frames are pushed, and how often, when several of them are pushed at once. -/

namespace Ichabod

open History Interleaving

namespace PushAction

/-- What a callback of the appsrc sets `allow_data` to. -/
def allows? : PushAction → Option Bool
  | .allow allowData => some allowData
  | _ => none

/-- The clock that the pipeline gives to the element, or takes away from it. -/
def clock? : PushAction → Option (Option Nat)
  | .changeClock clock => some clock
  | _ => none

/-- The text of the frame that a call begins with. -/
def frame? : PushAction → Option CString
  | .enter _ frameBase64 => some frameBase64
  | _ => none

/-- The call that stamps and pushes its frame. -/
def stamps? : PushAction → Option Nat
  | .stamp number => some number
  | _ => none

/-- The call that makes the step, if one does. -/
def caller? : PushAction → Option Nat
  | .test number | .getClock number | .adopt number _ | .stamp number => some number
  | _ => none

end PushAction

/-- The last callback of the appsrc was `need_data`. -/
def DataAllowed (past : List PushAction) : Prop :=
  latest PushAction.allows? past = some true

/-- The element has a clock. -/
def HasClock (past : List PushAction) : Prop :=
  (latest PushAction.clock? past).join.isSome = true

/-- The frames of all calls, in the order in which the calls began. -/
def framesEntered (actions : List PushAction) : List CString :=
  actions.filterMap PushAction.frame?

/-- The calls that have pushed their frames, in that order. -/
def stamped (actions : List PushAction) : List Nat :=
  actions.filterMap PushAction.stamps?

/-- A call found data allowed at its test, and then found a clock. -/
def Admitted (actions : List PushAction) (number : Nat) : Prop :=
  TakenWhen DataAllowed (.test number) actions ∧ TakenWhen HasClock (.getClock number) actions

/-- What a call pushes, by its place among all of them. -/
def imageOf (frames : List CString) (number : Nat) : Option SourceItem :=
  frames[number]?.map fun frame => .image (base64Decode frame.text frame.text.length)

/-- What has happened to a call that stands at the given place, or has not begun. -/
def Standing (past : List PushAction) (number : Nat) : Option PushPc → Prop
  | none | some .testing => .test number ∉ past ∧ .getClock number ∉ past ∧ .stamp number ∉ past
  | some .asking =>
    TakenWhen DataAllowed (.test number) past ∧ .getClock number ∉ past ∧ .stamp number ∉ past
  | some (.holding _) | some .stamping => Admitted past number ∧ .stamp number ∉ past
  | some .returned => .stamp number ∈ past ↔ Admitted past number

/-- What is true of every run and its history. -/
structure Recorded (past : List PushAction) (s : PushCalls) : Prop where
  allowed : s.src.allowData = true ↔ DataAllowed past
  clock : s.src.elementClock.isSome = true ↔ HasClock past
  entered : s.calls.map PushCall.frameBase64 = framesEntered past
  standing : ∀ number, Standing past number (s.calls[number]?.map PushCall.pc)
  once : (stamped past).Nodup
  pushed : s.src.pushed.map AppSrcItem.item =
    (stamped past).filterMap (imageOf (framesEntered past))

section Histories

variable {past : List PushAction} {number : Nat} {pc : Option PushPc} {action : PushAction}

/-- A step of a call is none of the pipeline, and no call begins with it. -/
theorem quiet_of_caller (own : action.caller? = some number) :
    action.allows? = none ∧ action.clock? = none ∧ action.frame? = none := by
  cases action with
  | test | getClock | adopt | stamp => exact ⟨rfl, rfl, rfl⟩
  | changeClock | allow | enter => cases own

/-- Data stays allowed or not, unless a callback of the appsrc says otherwise. -/
theorem dataAllowed_concat (other : action.allows? = none) :
    DataAllowed (past ++ [action]) ↔ DataAllowed past := by
  rw [DataAllowed, latest_concat, other, Option.none_or, DataAllowed]

/-- The clock stays the same, unless the pipeline changes it. -/
theorem hasClock_concat (other : action.clock? = none) :
    HasClock (past ++ [action]) ↔ HasClock past := by
  rw [HasClock, latest_concat, other, Option.none_or, HasClock]

/-- Steps of others do not admit a call, nor undo it. -/
theorem admitted_concat (other : action.caller? ≠ some number) :
    Admitted (past ++ [action]) number ↔ Admitted past number := by
  have test : action ≠ .test number := fun same => other (by rw [same]; rfl)
  have getClock : action ≠ .getClock number := fun same => other (by rw [same]; rfl)
  simp only [Admitted, takenWhen_concat, test, getClock, false_and, or_false]

/-- A call that was admitted stays admitted. -/
theorem Admitted.later (admitted : Admitted past number) (last : PushAction) :
    Admitted (past ++ [last]) number :=
  ⟨admitted.1.later last, admitted.2.later last⟩

/-- A call is among those that have pushed if it has made its last step. -/
theorem mem_stamped : number ∈ stamped past ↔ .stamp number ∈ past := by
  constructor
  · intro member
    obtain ⟨action, taken, same⟩ := List.mem_filterMap.mp member
    cases action with
    | stamp other =>
      obtain rfl := Option.some.inj same
      exact taken
    | _ => cases same
  · exact fun taken => List.mem_filterMap.mpr ⟨_, taken, rfl⟩

/-- Steps of others leave a call where it stands. -/
theorem Standing.other (standing : Standing past number pc)
    (other : action.caller? ≠ some number) : Standing (past ++ [action]) number pc := by
  have test : .test number ≠ action := fun same => other (by rw [← same]; rfl)
  have getClock : .getClock number ≠ action := fun same => other (by rw [← same]; rfl)
  have stamp : .stamp number ≠ action := fun same => other (by rw [← same]; rfl)
  -- No history of this call grows.
  have keeps : ∀ own : PushAction, own ≠ action → (own ∈ past ++ [action] ↔ own ∈ past) := by
    intro own different
    simp [different]
  unfold Standing at standing ⊢
  split at standing <;>
    simpa only [keeps _ test, keeps _ getClock, keeps _ stamp, admitted_concat other,
      takenWhen_concat, test.symm, false_and, or_false] using standing

end Histories

section Steps

variable {adjust : GstClockTime → Calibration → GstClockTime} {past : List PushAction}
  {s t : PushCalls} {number : Nat} {call : PushCall} {pc : PushPc}

/-- A test lets its call go on exactly if data is allowed. -/
theorem test_taken (taken : s.step adjust (.test number) = some t) :
    ∃ call, s.calls[number]? = some call ∧ call.pc = .testing ∧
      t = s.move number call (if s.src.allowData then .asking else .returned) := by
  rw [PushCalls.step] at taken
  split at taken
  · simp at taken
  · rename_i call there
    split at taken
    · rename_i stands
      exact ⟨call, there, stands, (Option.some.inj taken).symm⟩
    · simp at taken

/-- Asking for the clock lets its call go on exactly if there is one. -/
theorem getClock_taken (taken : s.step adjust (.getClock number) = some t) :
    ∃ call, s.calls[number]? = some call ∧ call.pc = .asking ∧
      t = s.move number call ((s.src.elementClock.map PushPc.holding).getD .returned) := by
  rw [PushCalls.step] at taken
  split at taken
  · simp at taken
  · rename_i call there
    split at taken
    · rename_i stands
      refine ⟨call, there, stands, ?_⟩
      split at taken <;> rename_i clock <;> rw [clock] <;> exact (Option.some.inj taken).symm
    · simp at taken

/-- Behind a move, the call stands at its new place, and the others where they stood. -/
theorem pc_move (there : s.calls[number]? = some call) (other : Nat) :
    (s.move number call pc).calls[other]?.map PushCall.pc =
      if other = number then some pc else s.calls[other]?.map PushCall.pc := by
  have inside : number < s.calls.length := (List.getElem?_eq_some_iff.mp there).1
  rw [PushCalls.move, List.getElem?_set]
  by_cases same : other = number
  · rw [if_pos same, if_pos same.symm, if_pos (same ▸ inside)]
    rfl
  · rw [if_neg same, if_neg fun back => same back.symm]

/-- No move changes the frame of a call. -/
theorem frames_move (there : s.calls[number]? = some call) :
    (s.move number call pc).calls.map PushCall.frameBase64 =
      s.calls.map PushCall.frameBase64 := by
  have inside : number < s.calls.length := (List.getElem?_eq_some_iff.mp there).1
  -- The frame at the place of the move is written over itself.
  apply List.ext_getElem?
  intro place
  rw [PushCalls.move, List.map_set, List.getElem?_set, List.length_map, if_pos inside]
  split
  · rename_i same
    rw [← same, List.getElem?_map, there, Option.map_some]
  · rfl

/-- A step of one call records what becomes of this call, and keeps the rest. -/
theorem Recorded.move (now : Recorded past s) (there : s.calls[number]? = some call)
    {action : PushAction} (own : action.caller? = some number) (quiet : action.stamps? = none)
    (standing : Standing (past ++ [action]) number (some pc)) :
    Recorded (past ++ [action]) (s.move number call pc) := by
  obtain ⟨noAllow, noClock, noFrame⟩ := quiet_of_caller own
  have frames : framesEntered (past ++ [action]) = framesEntered past := by
    simp [framesEntered, noFrame]
  have stamps : stamped (past ++ [action]) = stamped past := by simp [stamped, quiet]
  refine ⟨now.allowed.trans (dataAllowed_concat noAllow).symm,
    now.clock.trans (hasClock_concat noClock).symm, ?_, fun other => ?_, ?_, ?_⟩
  · rw [frames_move there, frames, now.entered]
  · rw [pc_move there]
    split
    · rename_i same
      rw [same]
      exact standing
    · rename_i different
      refine (now.standing other).other ?_
      rw [own]
      exact fun same => different (Option.some.inj same).symm
  · rw [stamps]
    exact now.once
  · rw [stamps, frames]
    exact now.pushed

/-- A call that begins has not been tested, nor has it done anything else. -/
theorem Recorded.enter (now : Recorded past s) (timestamp : UInt64) (frameBase64 : CString)
    (seen : List Nat) :
    Recorded (past ++ [.enter timestamp frameBase64])
      { s with calls := s.calls ++ [⟨timestamp, frameBase64, .testing, seen⟩] } := by
  have stamps : stamped (past ++ [.enter timestamp frameBase64]) = stamped past := by
    simp [stamped, PushAction.stamps?]
  have frames : framesEntered (past ++ [.enter timestamp frameBase64]) =
      framesEntered past ++ [frameBase64] := by
    simp [framesEntered, PushAction.frame?]
  have count : (framesEntered past).length = s.calls.length := by
    rw [← now.entered, List.length_map]
  refine ⟨now.allowed.trans (dataAllowed_concat rfl).symm,
    now.clock.trans (hasClock_concat rfl).symm, ?_, fun number => ?_, ?_, ?_⟩
  · rw [List.map_append, now.entered, frames]
    rfl
  · have before := now.standing number
    refine Standing.other ?_ (by simp [PushAction.caller?])
    rcases Nat.lt_trichotomy number s.calls.length with old | rfl | beyond
    · rwa [List.getElem?_append_left old]
    · -- The place was free, so that nothing has been done there.
      rw [List.getElem?_eq_none (Nat.le_refl _)] at before
      rw [List.getElem?_concat_length]
      exact before
    · rw [List.getElem?_eq_none (Nat.le_of_lt beyond)] at before
      have still : s.calls.length + 1 ≤ number := beyond
      rwa [List.getElem?_eq_none (by simpa using still)]
  · rw [stamps]
    exact now.once
  · rw [stamps, frames, now.pushed]
    -- The calls that have pushed have begun before.
    refine List.filterMap_congr fun number member => ?_
    have begun : number < (framesEntered past).length := by
      rw [count]
      by_contra beyond
      have untaken := now.standing number
      rw [List.getElem?_eq_none (Nat.le_of_not_lt beyond)] at untaken
      exact untaken.2.2 (mem_stamped.mp member)
    rw [imageOf, imageOf, List.getElem?_append_left begun]

/-- A call that stamps its frame has not done so before, and pushes it. -/
theorem Recorded.stamp (now : Recorded past s) (there : s.calls[number]? = some call)
    (stands : call.pc = .stamping) :
    Recorded (past ++ [.stamp number])
      ((s.pushStamped adjust call).move number call .returned) := by
  have standing := now.standing number
  rw [there, Option.map_some, stands] at standing
  obtain ⟨admitted, fresh⟩ := standing
  have stamps : stamped (past ++ [.stamp number]) = stamped past ++ [number] := by
    simp [stamped, PushAction.stamps?]
  have frames : framesEntered (past ++ [.stamp number]) = framesEntered past := by
    simp [framesEntered, PushAction.frame?]
  have frame : (framesEntered past)[number]? = some call.frameBase64 := by
    rw [← now.entered, List.getElem?_map, there, Option.map_some]
  refine ⟨now.allowed.trans (dataAllowed_concat rfl).symm,
    now.clock.trans (hasClock_concat rfl).symm, ?_, fun other => ?_, ?_, ?_⟩
  · rw [frames, ← now.entered]
    exact frames_move there
  · rw [pc_move (s := s.pushStamped adjust call) there]
    split
    · rename_i same
      rw [same]
      -- Its own step is the last one, and it was admitted before.
      exact iff_of_true (by simp) (admitted.later _)
    · rename_i different
      refine (now.standing other).other ?_
      exact fun same => different (Option.some.inj same).symm
  · rw [stamps, List.nodup_append]
    refine ⟨now.once, by simp, ?_⟩
    intro earlier member last same
    rw [List.mem_singleton.mp same]
    exact fun equal => fresh (mem_stamped.mp (equal ▸ member))
  · rw [stamps, frames, List.filterMap_append, ← now.pushed]
    show (s.src.pushed ++ [_]).map AppSrcItem.item = _
    rw [List.map_append]
    simp only [List.map_cons, List.map_nil, List.filterMap_cons, List.filterMap_nil, imageOf,
      frame, Option.map_some, ← base64Decode_text]
    rfl

/-- A step of the pipeline records what it changes, and moves no call. -/
theorem Recorded.pipeline (now : Recorded past s) {action : PushAction}
    (noCaller : action.caller? = none) (noFrame : action.frame? = none)
    (allowed : t.src.allowData = true ↔ DataAllowed (past ++ [action]))
    (clock : t.src.elementClock.isSome = true ↔ HasClock (past ++ [action]))
    (calls : t.calls.map (fun call => (call.frameBase64, call.pc)) =
      s.calls.map fun call => (call.frameBase64, call.pc))
    (pushed : t.src.pushed = s.src.pushed) : Recorded (past ++ [action]) t := by
  have noStamp : action.stamps? = none := by
    cases action with
    | stamp => cases noCaller
    | _ => rfl
  have stamps : stamped (past ++ [action]) = stamped past := by simp [stamped, noStamp]
  have frames : framesEntered (past ++ [action]) = framesEntered past := by
    simp [framesEntered, noFrame]
  refine ⟨allowed, clock, ?_, fun number => ?_, ?_, ?_⟩
  · rw [frames, ← now.entered]
    simpa [Function.comp_def] using congrArg (List.map Prod.fst) calls
  · have place := congrArg (fun list : List (CString × PushPc) => list[number]?.map Prod.snd) calls
    simp only [List.getElem?_map, Option.map_map, Function.comp_def] at place
    show Standing _ _ (t.calls[number]?.map fun call => call.pc)
    rw [place]
    exact (now.standing number).other (by simp [noCaller])
  · rw [stamps]
    exact now.once
  · rw [stamps, frames, pushed]
    exact now.pushed

/-- A call that tests goes on, or returns without having been admitted. -/
theorem Recorded.test (now : Recorded past s) (there : s.calls[number]? = some call)
    (stands : call.pc = .testing) :
    Recorded (past ++ [.test number])
      (s.move number call (if s.src.allowData then .asking else .returned)) := by
  have standing := now.standing number
  rw [there, Option.map_some, stands] at standing
  obtain ⟨noTest, noGetClock, noStamp⟩ := standing
  refine now.move there rfl rfl ?_
  cases allowed : s.src.allowData with
  | true =>
    have tested : TakenWhen DataAllowed (.test number) (past ++ [.test number]) :=
      takenWhen_now (now.allowed.mp allowed)
    exact ⟨tested, by simpa, by simpa⟩
  | false =>
    refine iff_of_false (by simpa) fun admitted => ?_
    -- This is the only test, and it finds that data is not allowed.
    rcases (takenWhen_concat _).mp admitted.1 with before | ⟨_, allows⟩
    · exact noTest before.mem
    · rw [now.allowed.mpr allows] at allowed
      cases allowed

/-- A call that asks for the clock goes on, or returns without having been admitted. -/
theorem Recorded.getClock (now : Recorded past s) (there : s.calls[number]? = some call)
    (stands : call.pc = .asking) :
    Recorded (past ++ [.getClock number])
      (s.move number call ((s.src.elementClock.map PushPc.holding).getD .returned)) := by
  have standing := now.standing number
  rw [there, Option.map_some, stands] at standing
  obtain ⟨tested, noGetClock, noStamp⟩ := standing
  refine now.move there rfl rfl ?_
  cases clock : s.src.elementClock with
  | some masterClock =>
    have has : HasClock past := now.clock.mp (by rw [clock]; rfl)
    exact ⟨⟨tested.later _, takenWhen_now has⟩, by simpa⟩
  | none =>
    refine iff_of_false (by simpa) fun admitted => ?_
    -- This is the only time it asks, and there is no clock.
    rcases (takenWhen_concat _).mp admitted.2 with before | ⟨_, has⟩
    · exact noGetClock before.mem
    · have present := now.clock.mpr has
      rw [clock] at present
      cases present

/-- Every step records what it does. -/
theorem recorded_step (past : List PushAction) (s : PushCalls) (action : PushAction)
    (t : PushCalls) (now : Recorded past s) (taken : s.step adjust action = some t) :
    Recorded (past ++ [action]) t := by
  cases action with
  | changeClock clock =>
    obtain rfl := Option.some.inj taken
    refine now.pipeline rfl rfl (now.allowed.trans (dataAllowed_concat rfl).symm) ?_ ?_ rfl
    · simp [HasClock, latest_concat, PushAction.clock?]
    · have kept : ∀ call : PushCall, (call.sees clock).frameBase64 = call.frameBase64 := by
        intro call
        rw [PushCall.sees]
        split <;> rfl
      simp [Function.comp_def, sees_pc, kept]
  | allow allowData =>
    obtain rfl := Option.some.inj taken
    refine now.pipeline rfl rfl ?_ (now.clock.trans (hasClock_concat rfl).symm) rfl rfl
    simp [DataAllowed, latest_concat, PushAction.allows?]
  | enter timestamp frameBase64 =>
    obtain rfl := Option.some.inj taken
    exact now.enter timestamp frameBase64 _
  | test number =>
    obtain ⟨call, there, stands, rfl⟩ := test_taken taken
    exact now.test there stands
  | getClock number =>
    obtain ⟨call, there, stands, rfl⟩ := getClock_taken taken
    exact now.getClock there stands
  | adopt number reading =>
    cases step_pushTransition taken with
    | adopt _ call masterClock _ there stands =>
      have standing := now.standing number
      rw [there, Option.map_some, stands] at standing
      -- Adopting the clock changes nothing that is recorded.
      have adopted : Recorded past (s.adoptClock masterClock reading) :=
        ⟨now.allowed, now.clock, now.entered, now.standing, now.once, now.pushed⟩
      exact adopted.move there rfl rfl ⟨standing.1.later _, by simpa using standing.2⟩
  | stamp number =>
    cases step_pushTransition taken with
    | stamp _ call there stands => exact now.stamp there stands

/-- Nothing has been done at the start. -/
theorem recorded_start : Recorded [] PushCalls.start := by
  refine ⟨?_, ?_, rfl, fun number => ?_, List.nodup_nil, rfl⟩
  · simp [PushCalls.start, DataAllowed, latest]
  · simp [PushCalls.start, HasClock, latest]
  · exact ⟨List.not_mem_nil, List.not_mem_nil, List.not_mem_nil⟩

end Steps

/--
However the calls are interleaved, no frame is pushed twice, exactly the frames of the calls that
are admitted are pushed by the time their calls return, and what the appsrc is given is their images
in the order of the pushes.

A call is admitted if data is allowed at the time of its test, and the element has a clock by the
time it asks for it.
-/
theorem frames_pushed_once (adjust : GstClockTime → Calibration → GstClockTime)
    (actions : List PushAction) (final : PushCalls)
    (ran : run (PushCalls.step adjust) PushCalls.start actions = some final) :
    final.src.pushed.map AppSrcItem.item =
        (stamped actions).filterMap (imageOf (framesEntered actions)) ∧
      (stamped actions).Nodup ∧
      (∀ number ∈ stamped actions, Admitted actions number) ∧
      ∀ number call, final.calls[number]? = some call → call.pc = .returned →
        (number ∈ stamped actions ↔ Admitted actions number) := by
  have recorded : Recorded actions final :=
    run_history_invariant Recorded recorded_step recorded_start ran
  have standing := recorded.standing
  refine ⟨recorded.pushed, recorded.once, fun number member => ?_,
    fun number call there stands => ?_⟩
  · -- Where a call has pushed its frame, it has returned.
    have pushed := mem_stamped.mp member
    cases there : final.calls[number]? with
    | none =>
      have untaken := standing number
      rw [there] at untaken
      exact absurd pushed untaken.2.2
    | some call =>
      have stood := standing number
      rw [there, Option.map_some] at stood
      cases stands : call.pc <;> rw [stands] at stood
      · exact absurd pushed stood.2.2
      · exact absurd pushed stood.2.2
      · exact stood.1
      · exact stood.1
      · exact stood.mp pushed
  · have stood := standing number
    rw [there, Option.map_some, stands] at stood
    exact mem_stamped.trans stood

/-- The second of two calls pushes first, and a third one comes when no data is allowed. -/
def overtakenFrame : List PushAction :=
  [.changeClock (some 1), .allow true, .enter 1 (.literal "AAAA"), .enter 2 (.literal "AAEC"),
    .test 0, .test 1, .allow false, .enter 3 (.literal "AAAA"), .test 2, .getClock 1, .getClock 0,
    .adopt 1 ⟨⟨1, 0⟩, 5⟩, .adopt 0 ⟨⟨1, 0⟩, 5⟩, .stamp 1, .stamp 0]

/-- Two of the three frames are pushed, and the third call was not admitted. -/
theorem overtakenFrame_pushed :
    ∃ final, run (PushCalls.step adjustAtUnitRate) .start overtakenFrame = some final ∧
      final.src.pushed.map AppSrcItem.item =
        [.image (some [0, 1, 2]), .image (some [0, 0, 0])] ∧
      ¬ Admitted overtakenFrame 2 := by
  obtain ⟨final, ran, third⟩ : ∃ final,
      run (PushCalls.step adjustAtUnitRate) .start overtakenFrame = some final ∧
        final.calls[2]?.map PushCall.pc = some .returned := run_ends (by decide)
  obtain ⟨pushed, _, _, returned⟩ :=
    frames_pushed_once adjustAtUnitRate overtakenFrame final ran
  obtain ⟨call, there, stands⟩ := Option.map_eq_some_iff.mp third
  refine ⟨final, ran, pushed.trans (by decide), fun admitted => ?_⟩
  have member := (returned 2 call there stands).mpr admitted
  exact absurd member (by decide)

end Ichabod
