import Ichabod.Proofs.Horseman.Order

/-! Every accepted job is performed once and completed once, and overtakes only a few others. -/

namespace Ichabod

open Interleaving Threads

variable {Double : Type} {s : Threads Double}

/-- The jobs whose after callback has begun: those reported before the ones still finished. -/
def CompletedBy (completions : Nat) (s : Threads Double) : Prop :=
  ∃ completed, s.reported = completed ++ s.finished ∧ completed.length = completions

/-- Each performed job is reported, or it is still to be reported by its worker. -/
def ReportSplit (s : Threads Double) : Prop :=
  (s.reported ++ s.reporting).Perm s.performed

/-- Numbering the accepted records changes nothing else about them. -/
theorem map_record_numbered (records : List (MsgDispatch Double)) :
    (numbered records).map Work.record = records := by
  apply List.ext_getElem?
  intro place
  simp [numbered, Function.comp_def]

/-- No two accepted jobs have the same number. -/
theorem numbered_nodup (records : List (MsgDispatch Double)) :
    ((numbered records).map Work.number).Nodup := by
  -- Numbers increase along the list.
  rw [List.Nodup, List.pairwise_map]
  apply (numbered_increasing records).imp
  intro first second before same
  omega

/-- The split of the accepted jobs, read as one list of all of them. -/
theorem QueueSplit.perm (split : QueueSplit s) :
    (s.performed ++ s.executing ++ s.pending).Perm (numbered s.accepted) := by
  obtain ⟨front, jobs, parts⟩ := split
  rw [jobs]
  exact parts.append_right s.pending

variable [Zero Double] {poolSize : Nat} {atof : Bytes → Double}

/-- One more after callback has begun exactly where the loop thread takes up a finished job. -/
theorem completedBy_step (past : List ThreadAction) (s : Threads Double) (action : ThreadAction)
    (t : Threads Double) (now : CompletedBy (past.count (.loop .complete)) s)
    (taken : s.step poolSize atof action = some t) :
    CompletedBy ((past ++ [action]).count (.loop .complete)) t := by
  -- Reported jobs are appended at the end of both lists, and taken up at the front of the second.
  obtain ⟨_, transition⟩ := step_transition taken
  obtain ⟨completed, reported, counted⟩ := now
  rw [List.count_append, ← counted]
  cases transition with
  | report slot work held =>
    refine ⟨completed, ?_, ?_⟩
    · show s.reported ++ [work] = completed ++ (s.finished ++ [work])
      rw [reported, List.append_assoc]
    · simp
  | complete work rest stands done =>
    refine ⟨completed ++ [work], ?_, ?_⟩
    · show s.reported = completed ++ [work] ++ rest
      rw [reported, done, List.append_assoc]
      rfl
    · simp
  | _ => exact ⟨completed, reported, by simp⟩

/-- A job moves to those still to be reported with its effect, and on from there with its report. -/
theorem reportSplit_step (s : Threads Double) (action : ThreadAction) (t : Threads Double)
    (split : ReportSplit s) (taken : s.step poolSize atof action = some t) : ReportSplit t := by
  -- The effect appends to both sides, and the report only exchanges two parts of the left one.
  obtain ⟨_, transition⟩ := step_transition taken
  cases transition with
  | perform slot work held =>
    show (s.reported ++ (s.reporting ++ [work])).Perm (s.performed ++ [work])
    rw [← List.append_assoc]
    exact split.append_right [work]
  | report slot work held =>
    show (s.reported ++ [work] ++ s.reporting.eraseIdx slot).Perm s.performed
    rw [List.append_assoc, List.singleton_append]
    exact ((Fifo.perm_cons_eraseIdx held).append_left s.reported).symm.trans split
  | _ => exact split

/-- Accepted jobs are queued, in hand or performed, and the first ones reported are completed. -/
theorem jobs_accounted (poolSize : Nat) (atof : Bytes → Double) (actions : List ThreadAction)
    (final : Threads Double) (ran : run (step poolSize atof) start actions = some final) :
    (final.performed ++ final.executing ++ final.pending).Perm (numbered final.accepted) ∧
      ReportSplit final ∧ CompletedBy (actions.count (.loop .complete)) final := by
  -- Nothing was accepted at the start, and every step keeps the three accounts.
  have initial : QueueSplit (start : Threads Double) := ⟨[], rfl, List.Perm.refl []⟩
  have silent : ReportSplit (start : Threads Double) := List.Perm.refl []
  have nothing : CompletedBy (([] : List ThreadAction).count (.loop .complete))
      (start : Threads Double) := ⟨[], rfl, rfl⟩
  have completed := run_history_invariant
    (fun past s => CompletedBy (past.count (.loop .complete)) s) completedBy_step nothing ran
  rw [List.nil_append] at completed
  exact ⟨(run_invariant QueueSplit queueSplit_step initial ran).perm,
    run_invariant ReportSplit reportSplit_step silent ran, completed⟩

/--
In every state of every run, each accepted job is in exactly one of three places: performed, in a
worker's hands, or in the queue. Each performed job is reported once or still to be reported, in
whatever order the workers come to it, and exactly the jobs reported first have had their after
callback called, one call for each of them and in the order of the reports.
-/
theorem jobs_performed_once (poolSize : Nat) (atof : Bytes → Double) (actions : List ThreadAction)
    (final : Threads Double) (ran : run (step poolSize atof) start actions = some final) :
    (final.performed ++ final.executing ++ final.pending).Perm (numbered final.accepted) ∧
      ((final.performed ++ final.executing ++ final.pending).map Work.number).Nodup ∧
      (final.reported ++ final.reporting).Perm final.performed ∧
      ∃ completed, final.reported = completed ++ final.finished ∧
        completed.length = actions.count (.loop .complete) := by
  obtain ⟨places, reports, completed⟩ := jobs_accounted poolSize atof actions final ran
  refine ⟨places, ?_, reports, completed⟩
  -- The numbers of all jobs are distinct, in whatever order the jobs are listed.
  exact ((places.map Work.number).nodup_iff).mpr (numbered_nodup final.accepted)

/-- The last two of three effects are reported in the other order, and one of them is completed. -/
def reportsExchanged : List ThreadAction :=
  overtakingWorkers ++ [.worker (.report 1), .worker (.report 0), .loop .test, .loop .enter,
    .loop .complete, .loop .decrement, .loop .complete]

/-- Three jobs are performed by two workers, and two of them are completed in the order reported. -/
theorem reportsExchanged_performed_once :
    ∃ final : Threads Nat, run (step 2 fun _ => 0) start reportsExchanged = some final ∧
      final.performed.map Work.number = [1, 2, 0] ∧
      final.reported.map Work.number = [1, 0, 2] ∧
      final.finished.map Work.number = [2] ∧
      (final.performed ++ final.executing ++ final.pending).Perm (numbered final.accepted) ∧
      ((final.performed ++ final.executing ++ final.pending).map Work.number).Nodup ∧
      (final.reported ++ final.reporting).Perm final.performed ∧
      ∃ completed, final.reported = completed ++ final.finished ∧
        completed.length = reportsExchanged.count (.loop .complete) := by
  -- The effects come in the order 1, 2, 0, and the last two are reported the other way round.
  obtain ⟨final, ran, effects, reports, rest⟩ : ∃ final : Threads Nat,
      run (step 2 fun _ => 0) start reportsExchanged = some final ∧
        final.performed.map Work.number = [1, 2, 0] ∧
        final.reported.map Work.number = [1, 0, 2] ∧
        final.finished.map Work.number = [2] := run_ends (by decide)
  exact ⟨final, ran, effects, reports, rest,
    jobs_performed_once 2 (fun _ => 0) reportsExchanged final ran⟩

end Ichabod
