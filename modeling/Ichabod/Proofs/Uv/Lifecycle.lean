import Ichabod.Control.Lifecycle
import Ichabod.Horseman.Lifecycle
import Ichabod.Lib.Interleaving

/-! Which lives of a horseman and of a webrtc control use their libuv handles properly. -/

namespace Ichabod

open Interleaving

/-- The handle referred to something that may be used this way. -/
def HandleUse.Proper : HandleUse → Prop
  | .loop _ found => found = .opened
  -- A thread is there to be joined from its creation up to its first join.
  | .join found => found = .created

instance (use : HandleUse) : Decidable use.Proper :=
  match use with
  | .loop _ found => inferInstanceAs (Decidable (found = .opened))
  | .join found => inferInstanceAs (Decidable (found = .created))

/-- Every use so far was proper. -/
def ProperUses (uses : List HandleUse) : Prop :=
  ∀ use ∈ uses, use.Proper

instance (uses : List HandleUse) : Decidable (ProperUses uses) :=
  inferInstanceAs (Decidable (∀ use ∈ uses, use.Proper))

/-- Two stretches of uses are proper exactly if each of them is. -/
theorem properUses_append {first second : List HandleUse} :
    ProperUses (first ++ second) ↔ ProperUses first ∧ ProperUses second := by
  simp only [ProperUses, List.forall_mem_append]

/-- A shorter stretch of proper uses is proper. -/
theorem ProperUses.front {first second : List HandleUse} (proper : ProperUses second)
    (front : first <+: second) : ProperUses first :=
  fun use member => proper use (front.subset member)

/-- Closing the loop and joining two threads is proper exactly if all three are there. -/
theorem properUses_stop {busy : Nat} {loop : LoopHandle} {zmqThread loopThread : ThreadHandle} :
    ProperUses (List.replicate (busy + 1) (.loop .close loop) ++
        [.join zmqThread, .join loopThread]) ↔
      loop = .opened ∧ zmqThread = .created ∧ loopThread = .created := by
  -- However often the close is tried again, it finds the same loop.
  simp [ProperUses, HandleUse.Proper, List.mem_append, List.mem_replicate, or_imp, forall_and]

/-- A handle that never had a thread has one exactly if the creation succeeds. -/
theorem create_absent {ret : BitVec 32} :
    ThreadHandle.absent.create ret = .created ↔ ret = 0 := by
  unfold ThreadHandle.create
  split <;> simp_all

/-- Whether `is_running` should be set after a call, given whether it should be before. -/
def HorsemanCall.running (inside : Bool) : HorsemanCall → Bool
  | .start .. => true
  | .access _ => inside
  | .stop .. | .free => false

/-- A start was the last call but for accesses of the threads it made. -/
def HorsemanCall.betweenStartAndStop (calls : List HorsemanCall) : Bool :=
  calls.foldl HorsemanCall.running false

/-- A start, any accesses of the threads, and the stop behind them. -/
structure HorsemanCycle where
  zmqCreated : BitVec 32
  loopCreated : BitVec 32
  users : List LoopUser
  busy : Nat
  zmqJoined : BitVec 32
  loopJoined : BitVec 32

/-- The steps of a cycle. -/
def HorsemanCycle.calls (cycle : HorsemanCycle) : List HorsemanCall :=
  .start cycle.zmqCreated cycle.loopCreated ::
    (cycle.users.map .access ++ [.stop cycle.busy cycle.zmqJoined cycle.loopJoined])

namespace HorsemanHandles

/-- At every moment of a life, all uses were proper and `is_running` is as it should be. -/
def SoundLife (calls : List HorsemanCall) : Prop :=
  ∀ front state, front <+: calls → run step alloc front = some state →
    ProperUses state.uses ∧ state.isRunning = HorsemanCall.betweenStartAndStop front

variable {s t : HorsemanHandles} {call : HorsemanCall} {calls : List HorsemanCall}

/-- What a step does, which it does to a horseman that has not been freed. -/
theorem step_cases (taken : s.step call = some t) :
    s.freed = false ∧
      match call with
      | .start ret get => t = (s.start ret get).1
      | .access _ => ∃ kind, t = { s with uses := s.uses ++ [.loop kind s.loop] }
      | .stop busy ret get => t = (s.stop busy ret get).1
      | .free => t = s.free := by
  unfold step at taken
  split at taken
  · cases taken
  · rename_i live
    refine ⟨by simpa using live, ?_⟩
    -- Both threads use the loop in the same way, if they are there to use it.
    cases call with
    | start ret get => exact (Option.some.inj taken).symm
    | access user =>
      cases user with
      | loopMain =>
        rw [Option.ite_none_right_eq_some] at taken
        exact ⟨.run, (Option.some.inj taken.2).symm⟩
      | parseEnvelope =>
        rw [Option.ite_none_right_eq_some] at taken
        exact ⟨.queueWork, (Option.some.inj taken.2).symm⟩
    | stop busy ret get => exact (Option.some.inj taken).symm
    | free => exact (Option.some.inj taken).symm

/-- A step sets and clears `is_running` with the start and the stop. -/
theorem step_isRunning (taken : s.step call = some t) :
    t.isRunning = call.running s.isRunning := by
  -- A stop without a start before it returns at once, but then the flag is cleared already.
  obtain ⟨_, moved⟩ := step_cases taken
  cases call with
  | start ret get =>
    cases moved
    rfl
  | access user =>
    obtain ⟨kind, rfl⟩ := moved
    rfl
  | stop busy ret get =>
    cases moved
    unfold stop
    split
    · assumption
    · rfl
  | free =>
    cases moved
    rfl

/-- A step only adds to the uses made so far. -/
theorem step_uses (taken : s.step call = some t) : s.uses <+: t.uses := by
  obtain ⟨_, moved⟩ := step_cases taken
  cases call with
  | start ret get =>
    cases moved
    exact List.prefix_rfl
  | access user =>
    obtain ⟨kind, rfl⟩ := moved
    exact List.prefix_append _ _
  | stop busy ret get =>
    cases moved
    unfold stop
    split
    · exact List.prefix_rfl
    · rw [List.append_assoc]
      exact List.prefix_append _ _
  | free =>
    cases moved
    exact List.prefix_append _ _

/-- A run only adds to the uses made so far. -/
theorem run_uses (ran : run step s calls = some t) : s.uses <+: t.uses :=
  run_invariant (fun state => s.uses <+: state.uses)
    (fun _ _ _ now taken => now.trans (step_uses taken)) List.prefix_rfl ran

/-- The flag follows the calls of every life. -/
theorem run_isRunning (ran : run step alloc calls = some t) :
    t.isRunning = HorsemanCall.betweenStartAndStop calls := by
  -- The history is folded one call at a time, like the flag.
  have initial : alloc.isRunning = HorsemanCall.betweenStartAndStop [] := rfl
  refine run_history_invariant
    (fun past state => state.isRunning = HorsemanCall.betweenStartAndStop past) ?_ initial ran
  intro past state call next now taken
  rw [step_isRunning taken, now]
  simp [HorsemanCall.betweenStartAndStop]

/-- A life is sound exactly if all its uses of handles are proper. -/
theorem soundLife_iff (ran : run step alloc calls = some t) :
    SoundLife calls ↔ ProperUses t.uses := by
  -- Uses are never taken back, so the last state shows those of every moment.
  constructor
  · intro sound
    exact (sound calls t List.prefix_rfl ran).1
  · rintro proper front state ⟨rest, rfl⟩ reached
    obtain ⟨middle, first, second⟩ := run_append_iff.mp ran
    obtain rfl := Option.some.inj (reached.symm.trans first)
    exact ⟨proper.front (run_uses second), run_isRunning reached⟩

/-- The threads use the loop that is there, and change nothing. -/
theorem run_accesses {users : List LoopUser} (ran : run step s (users.map .access) = some t) :
    ∃ more, t = { s with uses := s.uses ++ more } ∧
      ∀ use ∈ more, ∃ kind, use = .loop kind s.loop := by
  -- Each access adds one use of the same loop.
  induction users generalizing s with
  | nil =>
    cases ran
    exact ⟨[], by simp, by simp⟩
  | cons user rest ih =>
    obtain ⟨next, taken, ran⟩ := run_cons_iff.mp ran
    obtain ⟨_, kind, rfl⟩ := step_cases taken
    obtain ⟨more, rfl, all⟩ := ih ran
    refine ⟨.loop kind s.loop :: more, by simp, fun use member => ?_⟩
    rcases List.mem_cons.mp member with rfl | later
    · exact ⟨kind, rfl⟩
    · exact all use later

/-- A cycle is proper exactly if it finds the loop open and both threads are created. -/
theorem run_cycle {cycle : HorsemanCycle} (ran : run step s cycle.calls = some t) :
    t.loop = .null ∧ (ProperUses t.uses ↔ ProperUses s.uses ∧ s.loop = .opened ∧
      s.zmqThread.create cycle.zmqCreated = .created ∧
      s.loopThread.create cycle.loopCreated = .created) := by
  -- The start sets `is_running`, so the stop goes all the way through.
  obtain ⟨started, taken, ran⟩ := run_cons_iff.mp ran
  obtain ⟨used, accesses, ran⟩ := run_append_iff.mp ran
  obtain ⟨stopped, ends, ran⟩ := run_cons_iff.mp ran
  cases ran
  obtain ⟨_, moved⟩ := step_cases taken
  cases moved
  obtain ⟨more, rfl, all⟩ := run_accesses accesses
  obtain ⟨_, moved⟩ := step_cases ends
  cases moved
  refine ⟨rfl, ?_⟩
  -- The accesses find the loop that the stop closes, so they are proper if the close is.
  show ProperUses (s.uses ++ more ++ List.replicate (cycle.busy + 1) (.loop .close s.loop) ++
    [.join (s.zmqThread.create cycle.zmqCreated),
      .join (s.loopThread.create cycle.loopCreated)]) ↔ _
  rw [List.append_assoc, List.append_assoc, properUses_append]
  apply and_congr_right
  intro _
  rw [properUses_append, properUses_stop]
  apply and_iff_right_of_imp
  intro found use member
  obtain ⟨kind, rfl⟩ := all use member
  exact found.1

/-- The cycles before the free are proper exactly if there is at most one, with both threads. -/
theorem run_cycles {cycles : List HorsemanCycle}
    (ran : run step alloc (cycles.flatMap HorsemanCycle.calls) = some t) :
    (cycles ≠ [] → t.loop = .null) ∧ (ProperUses t.uses ↔ cycles = [] ∨
      ∃ cycle, cycles = [cycle] ∧ cycle.zmqCreated = 0 ∧ cycle.loopCreated = 0) := by
  -- A second cycle finds the loop that the first one has dropped.
  have dropped : ∀ (cycles : List HorsemanCycle) (s t : HorsemanHandles), s.loop = .null →
      run step s (cycles.flatMap HorsemanCycle.calls) = some t →
      t.loop = .null ∧ (cycles ≠ [] → ¬ ProperUses t.uses) := by
    intro cycles
    induction cycles with
    | nil =>
      intro s t gone ran
      cases ran
      exact ⟨gone, fun nonempty => absurd rfl nonempty⟩
    | cons cycle rest ih =>
      intro s t gone ran
      rw [List.flatMap_cons, run_append_iff] at ran
      obtain ⟨middle, first, later⟩ := ran
      obtain ⟨middleGone, proper⟩ := run_cycle first
      refine ⟨(ih middle t middleGone later).1, fun _ all => ?_⟩
      have found := (proper.mp (all.front (run_uses later))).2.1
      simp [gone] at found
  cases cycles with
  | nil =>
    cases ran
    exact ⟨fun nonempty => absurd rfl nonempty, by simp [ProperUses, alloc]⟩
  | cons cycle rest =>
    rw [List.flatMap_cons, run_append_iff] at ran
    obtain ⟨middle, first, later⟩ := ran
    obtain ⟨middleGone, proper⟩ := run_cycle first
    obtain ⟨gone, improper⟩ := dropped rest middle t middleGone later
    refine ⟨fun _ => gone, ?_⟩
    constructor
    · intro all
      obtain ⟨_, _, zmq, loop⟩ := proper.mp (all.front (run_uses later))
      have last : rest = [] := by
        by_contra more
        exact improper more all
      subst last
      exact .inr ⟨cycle, rfl, create_absent.mp zmq, create_absent.mp loop⟩
    · intro atMostOne
      rcases atMostOne with empty | ⟨single, same, zmq, loop⟩
      · simp at empty
      · obtain ⟨rfl, rfl⟩ := List.cons.inj same
        cases later
        refine proper.mpr ⟨by simp [ProperUses, alloc], rfl, ?_, ?_⟩
        · exact create_absent.mpr zmq
        · exact create_absent.mpr loop

/-- The free is improper in every life. -/
theorem unsound_free {cycles : List HorsemanCycle}
    (ran : run step alloc (cycles.flatMap HorsemanCycle.calls ++ [.free]) = some t) :
    ¬ SoundLife (cycles.flatMap HorsemanCycle.calls ++ [.free]) := by
  -- Without a cycle the receiver was never created, and behind one the loop is gone.
  intro sound
  have proper := (soundLife_iff ran).mp sound
  obtain ⟨middle, before, ends⟩ := run_append_iff.mp ran
  obtain ⟨freed, taken, ends⟩ := run_cons_iff.mp ends
  cases ends
  obtain ⟨_, moved⟩ := step_cases taken
  cases moved
  cases cycles with
  | nil =>
    cases before
    have joined := proper (.join .absent) (by simp [free, alloc])
    simp [HandleUse.Proper] at joined
  | cons cycle rest =>
    have gone := (run_cycles before).1 (by simp)
    have stopped := proper (.loop .stop middle.loop) (by simp [free])
    simp [HandleUse.Proper, gone] at stopped

end HorsemanHandles

/-- Whether `is_running` should be set after a call, given whether it should be before. -/
def ControlLifeCall.running (inside : Bool) : ControlLifeCall → Bool
  | .start _ => true
  | .stop .. => false
  -- The flag is not looked at any more.
  | .free => inside

/-- A start was the last start or stop. -/
def ControlLifeCall.betweenStartAndStop (calls : List ControlLifeCall) : Bool :=
  calls.foldl ControlLifeCall.running false

/-- A start and the stop behind it. -/
structure ControlCycle where
  zmqCreated : BitVec 32
  busy : Nat
  zmqJoined : BitVec 32
  cbJoined : BitVec 32

/-- The steps of a cycle. -/
def ControlCycle.calls (cycle : ControlCycle) : List ControlLifeCall :=
  [.start cycle.zmqCreated, .stop cycle.busy cycle.zmqJoined cycle.cbJoined]

namespace ControlHandles

/-- At every moment of a life, all uses were proper and `is_running` is as it should be. -/
def SoundLife (calls : List ControlLifeCall) : Prop :=
  ∀ front state, front <+: calls → run step alloc front = some state →
    ProperUses state.uses ∧ state.isRunning = ControlLifeCall.betweenStartAndStop front

variable {s t : ControlHandles} {call : ControlLifeCall} {calls : List ControlLifeCall}

/-- What a step does. -/
theorem step_cases (taken : s.step call = some t) :
    match call with
    | .start ret => t = (s.start ret).1
    | .stop busy ret get => t = (s.stop busy ret get).1
    | .free => t = s.free := by
  unfold step at taken
  split at taken
  · cases taken
  · cases call with
    | start ret => exact (Option.some.inj taken).symm
    | stop busy ret get => exact (Option.some.inj taken).symm
    | free => exact (Option.some.inj taken).symm

/-- A step sets and clears `is_running` with the start and the stop. -/
theorem step_isRunning (taken : s.step call = some t) :
    t.isRunning = call.running s.isRunning := by
  have moved := step_cases taken
  cases call with
  | start ret =>
    cases moved
    rfl
  | stop busy ret get =>
    cases moved
    unfold stop
    split
    · assumption
    · rfl
  | free =>
    cases moved
    rfl

/-- A step only adds to the uses made so far. -/
theorem step_uses (taken : s.step call = some t) : s.uses <+: t.uses := by
  have moved := step_cases taken
  cases call with
  | start ret =>
    cases moved
    exact List.prefix_rfl
  | stop busy ret get =>
    cases moved
    unfold stop
    split
    · exact List.prefix_rfl
    · rw [List.append_assoc]
      exact List.prefix_append _ _
  | free =>
    cases moved
    exact List.prefix_rfl

/-- A run only adds to the uses made so far. -/
theorem run_uses (ran : run step s calls = some t) : s.uses <+: t.uses :=
  run_invariant (fun state => s.uses <+: state.uses)
    (fun _ _ _ now taken => now.trans (step_uses taken)) List.prefix_rfl ran

/-- The flag follows the calls of every life. -/
theorem run_isRunning (ran : run step alloc calls = some t) :
    t.isRunning = ControlLifeCall.betweenStartAndStop calls := by
  have initial : alloc.isRunning = ControlLifeCall.betweenStartAndStop [] := rfl
  refine run_history_invariant
    (fun past state => state.isRunning = ControlLifeCall.betweenStartAndStop past) ?_ initial ran
  intro past state call next now taken
  rw [step_isRunning taken, now]
  simp [ControlLifeCall.betweenStartAndStop]

/-- A life that is cut off earlier is sound if the whole one is. -/
theorem SoundLife.front {front : List ControlLifeCall} (sound : SoundLife calls)
    (within : front <+: calls) : SoundLife front :=
  fun earlier state inside => sound earlier state (inside.trans within)

/-- A life without a cycle uses no handle at all. -/
theorem soundLife_empty : SoundLife [.free] := by
  intro front state within reached
  refine ⟨?_, run_isRunning reached⟩
  -- Neither of the two moments of this life has seen a use.
  have unused : ∀ use, use ∉ state.uses := by
    rcases List.prefix_cons_iff.mp within with rfl | ⟨rest, rfl, last⟩
    · cases reached
      simp [alloc]
    · rw [List.prefix_nil.mp last] at reached
      cases reached
      simp [alloc, free]
  exact fun use member => absurd member (unused use)

/-- The first stop joins a thread that was never created. -/
theorem unsound_cycle (cycle : ControlCycle) (later : List ControlLifeCall) :
    ¬ SoundLife (cycle.calls ++ later) := by
  intro sound
  obtain ⟨proper, _⟩ := sound cycle.calls _ (List.prefix_append _ _) rfl
  -- The callback thread's handle is still empty when it is joined.
  have joined := proper (.join .absent) (by simp [start, stop, alloc])
  simp [HandleUse.Proper] at joined

end ControlHandles

/--
No life of a horseman that ends with `horseman_free` is sound, whatever libuv answers.

Before it is freed, the life of a horseman is sound exactly if it has no cycle or a single one whose
two threads were created, and the life of a webrtc control, whether it is freed or not, is sound
exactly if it has no cycle.
-/
theorem sound_lives (cycles : List HorsemanCycle) (final : HorsemanHandles)
    (ran : run HorsemanHandles.step .alloc (cycles.flatMap HorsemanCycle.calls ++ [.free]) =
      some final)
    (controlCycles : List ControlCycle) (ending : List ControlLifeCall)
    (freed : ending <+: [.free]) :
    ¬ HorsemanHandles.SoundLife (cycles.flatMap HorsemanCycle.calls ++ [.free]) ∧
      (HorsemanHandles.SoundLife (cycles.flatMap HorsemanCycle.calls) ↔ cycles = [] ∨
        ∃ cycle, cycles = [cycle] ∧ cycle.zmqCreated = 0 ∧ cycle.loopCreated = 0) ∧
      (ControlHandles.SoundLife (controlCycles.flatMap ControlCycle.calls ++ ending) ↔
        controlCycles = []) := by
  refine ⟨HorsemanHandles.unsound_free ran, ?_, ?_⟩
  · obtain ⟨middle, before, _⟩ := run_append_iff.mp ran
    rw [HorsemanHandles.soundLife_iff before]
    exact (HorsemanHandles.run_cycles before).2
  · cases controlCycles with
    | nil => exact iff_of_true (ControlHandles.soundLife_empty.front freed) rfl
    | cons cycle rest =>
      rw [List.flatMap_cons, List.append_assoc]
      exact iff_of_false (ControlHandles.unsound_cycle cycle _) (by simp)

/-- A cycle in which libuv answers zero to everything, and each thread uses the loop once. -/
def smoothCycle : HorsemanCycle where
  zmqCreated := 0
  loopCreated := 0
  users := [.loopMain, .parseEnvelope]
  busy := 0
  zmqJoined := 0
  loopJoined := 0

/-- A smooth cycle is sound until the horseman is freed, and unsound from then on. -/
theorem smoothCycle_sound_until_free :
    ¬ HorsemanHandles.SoundLife ([smoothCycle].flatMap HorsemanCycle.calls ++ [.free]) ∧
      HorsemanHandles.SoundLife ([smoothCycle].flatMap HorsemanCycle.calls) ∧
      ControlHandles.SoundLife [.free] := by
  obtain ⟨unsound, before, control⟩ :=
    sound_lives [smoothCycle] _ rfl [] [.free] List.prefix_rfl
  exact ⟨unsound, before.mpr (.inr ⟨smoothCycle, rfl, rfl, rfl⟩), control.mpr rfl⟩

/-- The free stops a loop that is not there, and joins the receiver for a second time. -/
theorem free_after_stop :
    (∃ final, run HorsemanHandles.step .alloc
        ([smoothCycle].flatMap HorsemanCycle.calls ++ [.free]) = some final ∧
      final.uses = [.loop .run .opened, .loop .queueWork .opened, .loop .close .opened,
        .join .created, .join .created, .loop .stop .null, .join .joined]) ∧
      ¬ HorsemanHandles.SoundLife ([smoothCycle].flatMap HorsemanCycle.calls ++ [.free]) := by
  -- Both uses of the free are improper.
  refine ⟨⟨_, rfl, rfl⟩, fun sound => ?_⟩
  have proper := (HorsemanHandles.soundLife_iff rfl).mp sound
  exact absurd proper (by decide)

end Ichabod
