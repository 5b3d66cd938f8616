import Ichabod.Lib.Fifo
import Ichabod.Proofs.Horseman.Transition

/-! Effects on the screencast source happen in receive order as long as no job is overtaken. -/

namespace Ichabod

open Interleaving Threads

variable {Double : Type}

/-- Whether the effect of the job is one on the screencast source: an image or the end of stream. -/
def Work.isFrame (work : Work Double) : Bool :=
  work.record.isFrame

/-- Accepted records as jobs, each numbered by its place. -/
def numbered (records : List (MsgDispatch Double)) : List (Work Double) :=
  records.mapIdx fun number record => ⟨number, record⟩

/-- The jobs with effects on the screencast source, in the order of the effects so far. -/
def Threads.sourceEffects (s : Threads Double) : List (Work Double) :=
  s.performed.filter Work.isFrame

/-- The jobs with effects on the screencast source, in the order in which they were queued. -/
def Threads.sourceJobs (s : Threads Double) : List (Work Double) :=
  (numbered s.accepted).filter Work.isFrame

/--
The effects so far are those of the jobs queued first, in that order.

An end of stream has then taken effect only behind every image that was queued before it.
-/
def InReceiveOrder (s : Threads Double) : Prop :=
  s.sourceEffects <+: s.sourceJobs

instance [DecidableEq Double] (s : Threads Double) : Decidable (InReceiveOrder s) :=
  inferInstanceAs (Decidable (s.sourceEffects <+: s.sourceJobs))

/-- A worker runs the callback of a frame only if no earlier frame is still in a worker's hands. -/
def OvertakesNone (s : Threads Double) (action : ThreadAction) : Prop :=
  ∀ slot work, action = .worker (.perform slot) → s.executing[slot]? = some work →
    work.isFrame = true → ∀ other ∈ s.executing, other.isFrame = true → work.number ≤ other.number

/-- Where the accepted jobs are: the queue holds the last ones, and workers took the others. -/
def QueueSplit (s : Threads Double) : Prop :=
  ∃ taken, numbered s.accepted = taken ++ s.pending ∧ (s.performed ++ s.executing).Perm taken

/-- A newly accepted record becomes the last job. -/
theorem numbered_concat (records : List (MsgDispatch Double)) (record : MsgDispatch Double) :
    numbered (records ++ [record]) = numbered records ++ [⟨records.length, record⟩] := by
  simp [numbered, List.mapIdx_concat]

/-- Jobs are numbered in increasing order. -/
theorem numbered_increasing (records : List (MsgDispatch Double)) :
    (numbered records).Pairwise fun a b => a.number < b.number := by
  -- The number of a job is its index in the list.
  rw [List.pairwise_iff_getElem]
  intro i j within bound before
  simpa [numbered] using before

variable [Zero Double] {poolSize : Nat} {atof : Bytes → Double}

/-- Every step keeps the accepted jobs split between queue and workers. -/
theorem queueSplit_step (s : Threads Double) (action : ThreadAction) (t : Threads Double)
    (split : QueueSplit s) (taken : s.step poolSize atof action = some t) : QueueSplit t := by
  obtain ⟨_, transition⟩ := step_transition taken
  obtain ⟨front, jobs, parts⟩ := split
  cases transition with
  | accept asyncMsg stands there =>
    -- The new job is behind everything else in the queue.
    refine ⟨front, ?_, parts⟩
    rw [numbered_concat, jobs, List.append_assoc]
  | take work rest queued idle =>
    -- The head of the queue is the first job that no worker had taken.
    refine ⟨front ++ [work], ?_, ?_⟩
    · rw [jobs, queued, List.append_assoc, List.singleton_append]
    · rw [← List.append_assoc]
      exact parts.append_right [work]
  | perform slot work held =>
    -- The job moves from the workers to the effects.
    refine ⟨front, jobs, ?_⟩
    have moved := Fifo.perm_cons_eraseIdx held
    rw [List.append_assoc, List.singleton_append]
    exact (parts.symm.trans (moved.append_left s.performed)).symm
  | _ => exact ⟨front, jobs, parts⟩

/-- An effect is in receive order exactly if it overtakes no frame that another worker holds. -/
theorem inReceiveOrder_step (s : Threads Double) (action : ThreadAction) (t : Threads Double)
    (split : QueueSplit s) (ordered : InReceiveOrder s)
    (taken : s.step poolSize atof action = some t) :
    InReceiveOrder t ↔ OvertakesNone s action := by
  obtain ⟨_, transition⟩ := step_transition taken
  obtain ⟨front, jobs, parts⟩ := split
  cases transition with
  | accept asyncMsg stands there =>
    -- A longer queue leaves the effects where they are.
    constructor
    · rintro _ slot work ⟨⟩
    · intro _
      refine List.IsPrefix.trans ordered ?_
      simp only [sourceJobs, numbered_concat, List.filter_append]
      exact List.prefix_append _ _
  | perform slot work held =>
    have member : work ∈ s.executing := List.mem_of_getElem? held
    by_cases frame : work.isFrame = true
    · -- The frames in hand and in effect are the frames taken from the queue.
      have increasing := List.pairwise_append.mp (jobs ▸ numbered_increasing s.accepted)
      have frames : (s.sourceEffects ++ s.executing.filter Work.isFrame).Perm
          (front.filter Work.isFrame) := by
        simpa [sourceEffects] using parts.filter Work.isFrame
      have source : s.sourceJobs =
          front.filter Work.isFrame ++ s.pending.filter Work.isFrame := by
        rw [sourceJobs, jobs, List.filter_append]
      have inOrder : s.sourceEffects <+: s.sourceJobs := ordered
      have due := Fifo.next_due_iff (increasing.1.sublist List.filter_sublist) frames
        (source ▸ inOrder) (List.mem_filter.mpr ⟨member, frame⟩)
      have effects : (s.performed ++ [work]).filter Work.isFrame = s.sourceEffects ++ [work] := by
        simp [sourceEffects, frame]
      have stands : InReceiveOrder { s with
          executing := s.executing.eraseIdx slot
          performed := s.performed ++ [work]
          reporting := s.reporting ++ [work] } ↔ s.sourceEffects ++ [work] <+: s.sourceJobs := by
        rw [← effects]
        rfl
      rw [stands, source, due]
      constructor
      · intro least otherSlot otherWork same otherHeld _ other inside otherFrame
        cases same
        obtain rfl : work = otherWork := Option.some.inj (held.symm.trans otherHeld)
        exact least other (List.mem_filter.mpr ⟨inside, otherFrame⟩)
      · intro overtakes other inside
        obtain ⟨inside, otherFrame⟩ := List.mem_filter.mp inside
        exact overtakes slot work rfl held frame other inside otherFrame
    · -- An output request has no effect on the source.
      constructor
      · intro _ otherSlot otherWork same otherHeld otherFrame
        cases same
        obtain rfl : work = otherWork := Option.some.inj (held.symm.trans otherHeld)
        exact absurd otherFrame frame
      · intro _
        simpa [InReceiveOrder, sourceEffects, sourceJobs, frame] using ordered
  | _ =>
    constructor
    · rintro _ slot work ⟨⟩
    · exact fun _ => ordered

/--
The effects on the screencast source happen in receive order throughout a run precisely if no
worker of the run pushes a frame, or the end of stream, past an earlier one in another worker's
hands.
-/
theorem effects_in_receive_order_iff (poolSize : Nat) (atof : Bytes → Double)
    (actions : List ThreadAction) :
    Along (step poolSize atof) InReceiveOrder start actions ↔
      Guarded (step poolSize atof) OvertakesNone start actions := by
  -- The split of the accepted jobs holds in every state, so one step decides the order.
  refine along_iff_guarded QueueSplit queueSplit_step inReceiveOrder_step ?_ ?_
  · exact ⟨[], rfl, List.Perm.refl []⟩
  · exact List.nil_prefix

/-- Two images and the end of stream are queued, and the worker of the first image is slow. -/
def overtakingWorkers : List ThreadAction :=
  let dispatch (args : List Bytes) : List ThreadAction :=
    [.receiver .test, .receiver (.receive (.message ⟨CString.ascii "frame", args⟩)),
      .receiver .parse]
  [.receiver (.connect 0)] ++
    dispatch [CString.ascii "AAAA", CString.ascii "1"] ++
    [.receiver .increment, .receiver (.queueWork 0)] ++
    dispatch [CString.ascii "BBBB", CString.ascii "2"] ++
    [.receiver .increment, .receiver (.queueWork 0)] ++
    dispatch [CString.ascii "EOS"] ++
    [.receiver .interrupt, .receiver .increment, .receiver (.queueWork 0)] ++
    [.worker .take, .worker .take, .worker (.perform 1), .worker (.report 0), .worker .take,
      .worker (.perform 1), .worker (.perform 0)]

/-- With two workers, an image and the end of stream both overtake the image received first. -/
theorem end_of_stream_overtakes_frame :
    ∃ final : Threads Nat, run (step 2 fun _ => 0) start overtakingWorkers = some final ∧
      final.accepted.map MsgDispatch.isEos = [false, false, true] ∧
      final.performed.map (fun work => work.number) = [1, 2, 0] ∧
      final.pending = [] ∧ final.executing = [] ∧ ¬ InReceiveOrder final := by
  -- The second worker performs two jobs while the first one holds its image.
  exact run_ends (by decide)

end Ichabod
