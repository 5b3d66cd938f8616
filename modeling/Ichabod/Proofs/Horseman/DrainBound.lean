import Mathlib.Data.Nat.Find
import Ichabod.Proofs.Horseman.Transition

/-! The drain loop of `horseman_stop` ends only when it finds the count at zero. -/

namespace Ichabod

open Interleaving Threads

/-- The loop ends after the given number of calls of `usleep`. -/
def DrainEnds (workCounts : Nat → Int) (slept : Nat) : Prop :=
  ∃ fuel, drainLoop workCounts 0 fuel 0 = some slept

section Loop

variable {workCounts : Nat → Int} {fuel slept turns : Nat}

/-- A loop that ends has found the count at zero, and never before. -/
theorem drainLoop_some (ended : drainLoop workCounts 0 fuel slept = some turns) :
    slept ≤ turns ∧ workCounts turns ≤ 0 ∧
      ∀ poll, slept ≤ poll → poll < turns → 0 < workCounts poll := by
  -- The bound is always met, so each turn is decided by the count alone.
  induction fuel generalizing slept with
  | zero => simp [drainLoop] at ended
  | succ fuel ih =>
    rw [drainLoop] at ended
    split at ended
    · rename_i busy
      obtain ⟨later, drained, before⟩ := ih ended
      refine ⟨by omega, drained, fun poll here below => ?_⟩
      rcases Nat.eq_or_lt_of_le here with rfl | after
      · exact busy.1
      · exact before poll after below
    · rename_i drained
      obtain rfl : slept = turns := Option.some.inj ended
      refine ⟨Nat.le_refl _, by omega, fun poll here below => ?_⟩
      omega

/-- Enough fuel brings the loop to the first count that is not positive. -/
theorem drainLoop_reaches (drained : workCounts (slept + fuel) ≤ 0)
    (before : ∀ poll, slept ≤ poll → poll < slept + fuel → 0 < workCounts poll) :
    drainLoop workCounts 0 (fuel + 1) slept = some (slept + fuel) := by
  -- The induction is on the number of turns that are still to come.
  induction fuel generalizing slept with
  | zero =>
    rw [drainLoop, if_neg (by rw [Nat.add_zero] at drained; omega)]
    rfl
  | succ fuel ih =>
    have busy := before slept (Nat.le_refl _) (by omega)
    have shift : slept + (fuel + 1) = slept + 1 + fuel := by omega
    rw [shift] at drained before ⊢
    rw [drainLoop, if_pos ⟨busy, by omega⟩]
    exact ih drained fun poll here below => before poll (by omega) below

/-- The loop ends exactly at the first count that is not positive. -/
theorem drainEnds_iff : DrainEnds workCounts turns ↔
    workCounts turns ≤ 0 ∧ ∀ poll, poll < turns → 0 < workCounts poll := by
  constructor
  · intro ends
    obtain ⟨fuel, ended⟩ := ends
    obtain ⟨_, drained, before⟩ := drainLoop_some ended
    exact ⟨drained, fun poll below => before poll (Nat.zero_le _) below⟩
  · intro first
    obtain ⟨drained, before⟩ := first
    have reached : drainLoop workCounts 0 (turns + 1) 0 = some (0 + turns) :=
      drainLoop_reaches (by rwa [Nat.zero_add]) fun poll _ below => before poll (by omega)
    rw [Nat.zero_add] at reached
    exact ⟨turns + 1, reached⟩

end Loop

/--
The drain loop ends within its thousand turns if and only if one of the first 1001 calls of
`get_work_count` finds no job, and it ends at all if and only if one of all the calls does.
-/
theorem drain_ends_iff_drained (workCounts : Nat → Int) :
    ((∃ turns ≤ 1000, DrainEnds workCounts turns) ↔ ∃ poll ≤ 1000, workCounts poll ≤ 0) ∧
      ((∃ turns, DrainEnds workCounts turns) ↔ ∃ poll, workCounts poll ≤ 0) := by
  -- The first call that finds no job is the one that ends the loop.
  have first : ∀ poll, workCounts poll ≤ 0 → ∃ turns ≤ poll, DrainEnds workCounts turns := by
    intro poll drained
    have drains : ∃ call, workCounts call ≤ 0 := ⟨poll, drained⟩
    refine ⟨Nat.find drains, Nat.find_min' drains drained, drainEnds_iff.mpr ?_⟩
    refine ⟨Nat.find_spec drains, fun call before => ?_⟩
    have busy := Nat.find_min drains before
    omega
  constructor
  · constructor
    · intro ends
      obtain ⟨turns, within, ended⟩ := ends
      exact ⟨turns, within, (drainEnds_iff.mp ended).1⟩
    · intro drains
      obtain ⟨poll, within, drained⟩ := drains
      obtain ⟨turns, before, ended⟩ := first poll drained
      exact ⟨turns, Nat.le_trans before within, ended⟩
  · constructor
    · intro ends
      obtain ⟨turns, ended⟩ := ends
      exact ⟨turns, (drainEnds_iff.mp ended).1⟩
    · intro drains
      obtain ⟨poll, drained⟩ := drains
      obtain ⟨turns, _, ended⟩ := first poll drained
      exact ⟨turns, ended⟩

section Run

variable {Double : Type} [Zero Double] {poolSize : Nat} {atof : Bytes → Double}

/-- The drain loop of `horseman_stop` has ended. -/
def StopPc.drained : StopPc → Bool
  | .closing | .nulling | .joiningZmq | .joiningLoop | .returned => true
  | .idle | .interrupting | .clearing | .draining _ => false

/-- The counts that the drain loop finds in a run of all threads. -/
def polled (poolSize : Nat) (atof : Bytes → Double) :
    Threads Double → List ThreadAction → List Int
  | _, [] => []
  | s, action :: rest =>
    match s.step poolSize atof action with
    | none => []
    | some next =>
      if action = .stop ∧ s.stopper = .draining 0 then
        s.horseman.getWorkCount :: polled poolSize atof next rest
      else polled poolSize atof next rest

/-- The loop is not entered again. -/
theorem drained_step {s t : Threads Double} {action : ThreadAction}
    (drained : s.stopper.drained = true) (taken : s.step poolSize atof action = some t) :
    t.stopper.drained = true := by
  -- Only `horseman_stop` itself moves on, and it does not go back.
  obtain ⟨_, transition⟩ := step_transition taken
  cases transition <;> simp_all [StopPc.drained]

/-- In the loop, only a step of `horseman_stop` that finds no job moves on. -/
theorem draining_step {s t : Threads Double} {action : ThreadAction}
    (draining : s.stopper = .draining 0) (taken : s.step poolSize atof action = some t) :
    t.stopper = if action = .stop ∧ s.horseman.getWorkCount ≤ 0 then .closing else .draining 0 := by
  obtain ⟨_, transition⟩ := step_transition taken
  cases transition <;> simp_all

/-- Nothing is found by a loop that has ended. -/
theorem polled_drained {s t : Threads Double} {actions : List ThreadAction}
    (drained : s.stopper.drained = true) (ran : run (step poolSize atof) s actions = some t) :
    t.stopper.drained = true ∧ polled poolSize atof s actions = [] := by
  -- The induction consumes the actions, none of which is a step of the loop.
  induction actions generalizing s with
  | nil =>
    obtain rfl : s = t := Option.some.inj ran
    exact ⟨drained, rfl⟩
  | cons action rest ih =>
    obtain ⟨next, taken, ran⟩ := run_cons_iff.mp ran
    obtain ⟨final, nothing⟩ := ih (drained_step drained taken) ran
    have outside : ¬ (action = .stop ∧ s.stopper = .draining 0) := by
      intro both
      obtain ⟨_, inside⟩ := both
      simp [inside, StopPc.drained] at drained
    rw [polled, taken]
    exact ⟨final, (if_neg outside).trans nothing⟩

/-- In every run of all threads, `horseman_stop` does what the loop does on the counts it finds. -/
theorem drainLoop_polled {s t : Threads Double} {actions : List ThreadAction}
    (workCounts : Nat → Int) (slept : Nat) (draining : s.stopper = .draining 0)
    (ran : run (step poolSize atof) s actions = some t)
    (agrees : ∀ poll count, (polled poolSize atof s actions)[poll]? = some count →
      workCounts (slept + poll) = count) :
    (t.stopper = .draining 0 ∧
        drainLoop workCounts 0 (polled poolSize atof s actions).length slept = none) ∨
      (t.stopper.drained = true ∧ ∃ turns,
        drainLoop workCounts 0 (polled poolSize atof s actions).length slept = some turns) := by
  -- Each step of `horseman_stop` in the loop is one turn, and the other steps are none.
  induction actions generalizing s slept with
  | nil =>
    obtain rfl : s = t := Option.some.inj ran
    exact .inl ⟨draining, rfl⟩
  | cons action rest ih =>
    obtain ⟨next, taken, ran⟩ := run_cons_iff.mp ran
    have stands := draining_step draining taken
    by_cases stops : action = .stop
    · have found : polled poolSize atof s (action :: rest) =
          s.horseman.getWorkCount :: polled poolSize atof next rest := by
        rw [polled, taken]
        exact if_pos ⟨stops, draining⟩
      rw [found] at agrees ⊢
      have first : workCounts slept = s.horseman.getWorkCount := agrees 0 _ rfl
      rw [List.length_cons, drainLoop, first]
      by_cases drained : s.horseman.getWorkCount ≤ 0
      · rw [if_pos ⟨stops, drained⟩] at stands
        obtain ⟨final, _⟩ := polled_drained (by rw [stands]; rfl) ran
        rw [if_neg (by omega)]
        exact .inr ⟨final, slept, rfl⟩
      · rw [if_neg (fun both => drained both.2)] at stands
        rw [if_pos (by omega)]
        apply ih (slept + 1) stands ran
        intro poll count later
        rw [Nat.add_assoc, Nat.add_comm 1 poll]
        exact agrees (poll + 1) count later
    · have found : polled poolSize atof s (action :: rest) = polled poolSize atof next rest := by
        rw [polled, taken]
        exact if_neg fun both => stops both.1
      rw [if_neg (fun both => stops both.1)] at stands
      rw [found] at agrees ⊢
      exact ih slept stands ran agrees

end Run

/-- With one job that never completes, the loop does not end at all. -/
theorem oneJob_never_drained : ¬ ∃ turns, DrainEnds (fun _ => 1) turns := by
  intro ends
  obtain ⟨turns, ended⟩ := ends
  have drained := (drainEnds_iff.mp ended).1
  exact absurd drained (by decide)

end Ichabod
