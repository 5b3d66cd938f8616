import Ichabod.Bin.Preroll
import Ichabod.Lib.Interleaving
import Ichabod.Lib.Mutex

/-! The valves are opened once, and only when both sources are live. -/

namespace Ichabod

open Interleaving Preroll

/-- The steps of the bin, with what each one requires and changes. -/
inductive PrerollTransition (s : Preroll) : PrerollAction → Preroll → Prop where
  | buffer (source : MediaSource) (stands : s.probes source = .away) :
      PrerollTransition s (.buffer source) (s.goTo source .locking)
  | lock (source : MediaSource) (stands : s.probes source = .locking) (free : s.lock = none) :
      PrerollTransition s (.probe source) { s.goTo source .marking with lock := some source }
  | mark (source : MediaSource) (stands : s.probes source = .marking) :
      PrerollTransition s (.probe source)
        { s.goTo source .testing with ready := Function.update s.ready source true }
  -- Both sources are live, and the valves have not been opened yet.
  | pass (source : MediaSource) (stands : s.probes source = .testing)
      (live : ∀ other, s.ready other = true) (first : s.pipeOpenRequested = false) :
      PrerollTransition s (.probe source) (s.goTo source .requesting)
  | fail (source : MediaSource) (stands : s.probes source = .testing)
      (reason : (∀ other, s.ready other = true) → s.pipeOpenRequested = true) :
      PrerollTransition s (.probe source) (s.goTo source .unlocking)
  | request (source : MediaSource) (stands : s.probes source = .requesting) :
      PrerollTransition s (.probe source)
        { s.goTo source .openingVideo with
          pipeOpenRequested := true
          opens := s.opens + 1 }
  | openVideo (source : MediaSource) (stands : s.probes source = .openingVideo) :
      PrerollTransition s (.probe source)
        { s.goTo source .openingAudio with drop := Function.update s.drop .video false }
  | openAudio (source : MediaSource) (stands : s.probes source = .openingAudio) :
      PrerollTransition s (.probe source)
        { s.goTo source .unlocking with drop := Function.update s.drop .audio false }
  | unlock (source : MediaSource) (stands : s.probes source = .unlocking) :
      PrerollTransition s (.probe source) { s.goTo source .away with lock := none }
  | attachOutput (attachment : Attachment) (bin : IchabodBin)
      (called : s.pipeline.bin.attach attachment = some bin) :
      PrerollTransition s (.attachOutput attachment)
        { s with pipeline := { s.pipeline with bin := bin } }
  | attachRelay (attachment : RtpAttachment) (links : List ElementLink)
      (called : attachRtp s.pipeline.relays.length attachment = some links) :
      PrerollTransition s (.attachRelay attachment)
        { s with pipeline := { s.pipeline with relays := s.pipeline.relays ++ [links] } }

/-- Both sources are live exactly if both fields are set. -/
theorem both_ready_iff (ready : MediaSource → Bool) :
    (ready .audio && ready .video) = true ↔ ∀ source, ready source = true := by
  rw [Bool.and_eq_true]
  constructor
  · intro both source
    cases source with
    | audio => exact both.1
    | video => exact both.2
  · exact fun all => ⟨all .audio, all .video⟩

section Steps

variable {s t : Preroll} {action : PrerollAction} {source other : MediaSource}

/-- Every step is one of the transitions. -/
theorem step_prerollTransition (taken : s.step action = some t) :
    PrerollTransition s action t := by
  -- The branches of the step function are split once, here.
  cases action with
  | buffer source =>
    rw [Preroll.step] at taken
    split at taken
    · rename_i stands
      obtain rfl := Option.some.inj taken
      exact .buffer source stands
    · simp at taken
  | probe source =>
    rw [Preroll.step, probeOf_eq, onLive] at taken
    split at taken
    · simp at taken
    · rename_i stands
      split at taken
      · rename_i free
        obtain rfl := Option.some.inj taken
        exact .lock source stands free
      · simp at taken
    · rename_i stands
      obtain rfl := Option.some.inj taken
      exact .mark source stands
    · rename_i stands
      -- The test passes, or the probe has nothing left to do.
      split at taken
      · rename_i test
        rw [Bool.and_eq_true, both_ready_iff] at test
        obtain rfl := Option.some.inj taken
        exact .pass source stands test.1 (by simpa using test.2)
      · rename_i test
        rw [Bool.and_eq_true, both_ready_iff] at test
        obtain rfl := Option.some.inj taken
        exact .fail source stands fun live => by simpa [live] using test
    · rename_i stands
      obtain rfl := Option.some.inj taken
      exact .request source stands
    · rename_i stands
      obtain rfl := Option.some.inj taken
      exact .openVideo source stands
    · rename_i stands
      obtain rfl := Option.some.inj taken
      exact .openAudio source stands
    · rename_i stands
      obtain rfl := Option.some.inj taken
      exact .unlock source stands
  | attachOutput attachment =>
    simp only [Preroll.step, Option.bind_eq_bind, Option.bind_eq_some_iff] at taken
    obtain ⟨bin, called, same⟩ := taken
    obtain rfl := Option.some.inj same
    exact .attachOutput attachment bin called
  | attachRelay attachment =>
    simp only [Preroll.step, Option.bind_eq_bind, Option.bind_eq_some_iff] at taken
    obtain ⟨links, called, same⟩ := taken
    obtain rfl := Option.some.inj same
    exact .attachRelay attachment links called

/-- The thread that goes on stands where it has gone to. -/
@[simp] theorem goTo_self (s : Preroll) (source : MediaSource) (pc : ProbePc) :
    (s.goTo source pc).probes source = pc := by
  simp only [goTo, Function.update_self]

/-- The other thread stays where it is. -/
theorem goTo_other {pc : ProbePc} (apart : other ≠ source) :
    (s.goTo source pc).probes other = s.probes other := by
  simp only [goTo, Function.update_of_ne apart]

/-- What holds of all places holds behind a move if it holds of the new place. -/
theorem goTo_all (holds : ProbePc → Prop) {pc : ProbePc} (all : ∀ other, holds (s.probes other))
    (here : holds pc) : ∀ other, holds ((s.goTo source pc).probes other) := by
  -- Only one thread has moved.
  intro other
  by_cases same : other = source
  · rw [same, goTo_self]
    exact here
  · rw [goTo_other same]
    exact all other

/-- A thread that stands somewhere stays there while a thread moves that stands elsewhere. -/
theorem goTo_stands (holds : ProbePc → Prop) {pc : ProbePc}
    (there : ∃ other, holds (s.probes other)) (elsewhere : ¬ holds (s.probes source)) :
    ∃ other, holds ((s.goTo source pc).probes other) := by
  obtain ⟨other, stands⟩ := there
  have apart : other ≠ source := fun same => elsewhere (same ▸ stands)
  refine ⟨other, ?_⟩
  rw [goTo_other apart]
  exact stands

end Steps

/-- The places between locking and unlocking the mutex. -/
def ProbePc.Critical (pc : ProbePc) : Prop :=
  pc ≠ .away ∧ pc ≠ .locking

/-- The places between the note of a live source and the last open valve. -/
def ProbePc.Deciding (pc : ProbePc) : Prop :=
  pc = .testing ∨ pc = .requesting ∨ pc = .openingVideo ∨ pc = .openingAudio

/-- The places in `open_pipeline_valves`. -/
def ProbePc.Opening (pc : ProbePc) : Prop :=
  pc = .openingVideo ∨ pc = .openingAudio

/-- The thread that holds the mutex is the one between locking and unlocking it. -/
def Preroll.LockHeld (s : Preroll) : Prop :=
  Mutex.Excludes s.lock fun source => (s.probes source).Critical

/-- How the valves depend on the fields of the bin, and on where the threads stand. -/
structure ValvesInv (s : Preroll) : Prop where
  live : s.pipeOpenRequested = true → ∀ source, s.ready source = true
  /-- Who has passed the test is the first one to do so. -/
  first : ∀ source, s.probes source = .requesting →
    s.pipeOpenRequested = false ∧ ∀ other, s.ready other = true
  opening : ∀ source, (s.probes source).Opening → s.pipeOpenRequested = true
  closed : s.pipeOpenRequested = false → s.opens = 0 ∧ ∀ media, s.drop media = true
  once : s.pipeOpenRequested = true → s.opens = 1
  videoOpen : s.pipeOpenRequested = true →
    s.drop .video = false ∨ ∃ source, s.probes source = .openingVideo
  audioOpen : s.pipeOpenRequested = true →
    s.drop .audio = false ∨ ∃ source, (s.probes source).Opening
  /-- The video valve is opened first. -/
  passed : ∀ source, s.probes source = .openingAudio → s.drop .video = false
  ordered : s.drop .audio = false → s.drop .video = false
  pending : (∀ source, s.ready source = true) → s.pipeOpenRequested = true ∨
    ∃ source, s.probes source = .testing ∨ s.probes source = .requesting

section Invariants

variable {s t : Preroll} {action : PrerollAction} {source : MediaSource}

/-- The mutex is held as it should be behind every step. -/
theorem lockHeld_step (held : s.LockHeld) (trans : PrerollTransition s action t) :
    t.LockHeld := by
  -- A step of one thread leaves the places of the other one alone.
  have others : ∀ (source : MediaSource) (pc : ProbePc) (other : MediaSource), other ≠ source →
      (((s.goTo source pc).probes other).Critical ↔ (s.probes other).Critical) := by
    intro source pc other apart
    rw [goTo_other apart]
  have here : ∀ (source : MediaSource) (pc : ProbePc),
      ((s.goTo source pc).probes source).Critical ↔ pc.Critical := by
    intro source pc
    rw [goTo_self]
  have inside : ∀ (source : MediaSource) (pc : ProbePc), (s.probes source).Critical →
      pc.Critical → (s.goTo source pc).LockHeld :=
    fun source pc before after => Mutex.Excludes.inside held before ((here source pc).mpr after)
      (others source pc)
  cases trans with
  | buffer source stands =>
    apply Mutex.Excludes.outside held
    intro other
    by_cases same : other = source
    · rw [same, here, stands]
      simp [ProbePc.Critical]
    · exact others source .locking other same
  | lock source stands free =>
    have unheld : Mutex.Excludes none fun source => (s.probes source).Critical := free ▸ held
    exact unheld.acquire ((here source .marking).mpr (by simp [ProbePc.Critical]))
      (others source .marking)
  | mark source stands =>
    exact inside source .testing (by simp [stands, ProbePc.Critical]) (by simp [ProbePc.Critical])
  | pass source stands =>
    exact inside source .requesting (by simp [stands, ProbePc.Critical])
      (by simp [ProbePc.Critical])
  | fail source stands =>
    exact inside source .unlocking (by simp [stands, ProbePc.Critical])
      (by simp [ProbePc.Critical])
  | request source stands =>
    exact inside source .openingVideo (by simp [stands, ProbePc.Critical])
      (by simp [ProbePc.Critical])
  | openVideo source stands =>
    exact inside source .openingAudio (by simp [stands, ProbePc.Critical])
      (by simp [ProbePc.Critical])
  | openAudio source stands =>
    exact inside source .unlocking (by simp [stands, ProbePc.Critical])
      (by simp [ProbePc.Critical])
  | unlock source stands =>
    have before : (s.probes source).Critical := by simp [stands, ProbePc.Critical]
    refine Mutex.Excludes.release held before ?_ (others source .away)
    rw [here]
    simp [ProbePc.Critical]
  | attachOutput attachment bin called => exact held
  | attachRelay attachment links called => exact held

/-- A thread that decides nothing, before its move and behind it, leaves the valves alone. -/
theorem ValvesInv.idle (inv : ValvesInv s) {pc : ProbePc} {lock : Option MediaSource}
    (before : ¬ (s.probes source).Deciding) (after : ¬ pc.Deciding) :
    ValvesInv { s.goTo source pc with lock := lock } := by
  -- Whoever is on the way to the valves stays there.
  simp only [ProbePc.Deciding, not_or] at before after
  exact {
    live := inv.live
    first := goTo_all (fun pc => pc = .requesting →
      s.pipeOpenRequested = false ∧ ∀ other, s.ready other = true) inv.first
      fun there => absurd there after.2.1
    opening := goTo_all (fun pc => pc.Opening → s.pipeOpenRequested = true) inv.opening
      fun there => absurd there (by simp [ProbePc.Opening, after])
    closed := inv.closed
    once := inv.once
    videoOpen := fun requested => (inv.videoOpen requested).imp_right fun there =>
      goTo_stands (fun pc => pc = .openingVideo) there before.2.2.1
    audioOpen := fun requested => (inv.audioOpen requested).imp_right fun there =>
      goTo_stands ProbePc.Opening there (by simp [ProbePc.Opening, before])
    passed := goTo_all (fun pc => pc = .openingAudio → s.drop .video = false) inv.passed
      fun there => absurd there after.2.2.2
    ordered := inv.ordered
    pending := fun ready => (inv.pending ready).imp_right fun there =>
      goTo_stands (fun pc => pc = .testing ∨ pc = .requesting) there (by simp [before]) }

/-- Behind the note of a live source there is somebody who will test it. -/
theorem ValvesInv.mark (inv : ValvesInv s) (stands : s.probes source = .marking) :
    ValvesInv { s.goTo source .testing with ready := Function.update s.ready source true } := by
  -- What was noted before is still noted.
  have still : ∀ other, s.ready other = true →
      Function.update s.ready source true other = true := by
    intro other ready
    by_cases same : other = source
    · rw [same, Function.update_self]
    · rw [Function.update_of_ne same]
      exact ready
  exact {
    live := fun requested other => still other (inv.live requested other)
    first := goTo_all (fun pc => pc = .requesting → s.pipeOpenRequested = false ∧
      ∀ other, Function.update s.ready source true other = true)
      (fun other there => ⟨(inv.first other there).1,
        fun ready => still ready ((inv.first other there).2 ready)⟩) (by simp)
    opening := goTo_all (fun pc => pc.Opening → s.pipeOpenRequested = true) inv.opening
      (by simp [ProbePc.Opening])
    closed := inv.closed
    once := inv.once
    videoOpen := fun requested => (inv.videoOpen requested).imp_right fun there =>
      goTo_stands (fun pc => pc = .openingVideo) there (by simp [stands])
    audioOpen := fun requested => (inv.audioOpen requested).imp_right fun there =>
      goTo_stands ProbePc.Opening there (by simp [ProbePc.Opening, stands])
    passed := goTo_all (fun pc => pc = .openingAudio → s.drop .video = false) inv.passed (by simp)
    ordered := inv.ordered
    pending := fun _ => .inr ⟨source, .inl (goTo_self s source .testing)⟩ }

/-- A test that passes leads to the note that the valves are opened. -/
theorem ValvesInv.pass (inv : ValvesInv s) (live : ∀ other, s.ready other = true)
    (first : s.pipeOpenRequested = false) : ValvesInv (s.goTo source .requesting) := by
  -- Nobody is on the way to the valves yet.
  have unasked : ∀ asked : s.pipeOpenRequested = true, False := by simp [first]
  exact {
    live := inv.live
    first := goTo_all (fun pc => pc = .requesting →
      s.pipeOpenRequested = false ∧ ∀ other, s.ready other = true) inv.first
      fun _ => ⟨first, live⟩
    opening := goTo_all (fun pc => pc.Opening → s.pipeOpenRequested = true) inv.opening
      (by simp [ProbePc.Opening])
    closed := inv.closed
    once := inv.once
    videoOpen := fun requested => (unasked requested).elim
    audioOpen := fun requested => (unasked requested).elim
    passed := goTo_all (fun pc => pc = .openingAudio → s.drop .video = false) inv.passed (by simp)
    ordered := inv.ordered
    pending := fun _ => .inr ⟨source, .inr (goTo_self s source .requesting)⟩ }

/-- A test that fails has a reason not to open the valves. -/
theorem ValvesInv.fail (inv : ValvesInv s) (stands : s.probes source = .testing)
    (reason : (∀ other, s.ready other = true) → s.pipeOpenRequested = true) :
    ValvesInv (s.goTo source .unlocking) := by
  exact {
    live := inv.live
    first := goTo_all (fun pc => pc = .requesting →
      s.pipeOpenRequested = false ∧ ∀ other, s.ready other = true) inv.first (by simp)
    opening := goTo_all (fun pc => pc.Opening → s.pipeOpenRequested = true) inv.opening
      (by simp [ProbePc.Opening])
    closed := inv.closed
    once := inv.once
    videoOpen := fun requested => (inv.videoOpen requested).imp_right fun there =>
      goTo_stands (fun pc => pc = .openingVideo) there (by simp [stands])
    audioOpen := fun requested => (inv.audioOpen requested).imp_right fun there =>
      goTo_stands ProbePc.Opening there (by simp [ProbePc.Opening, stands])
    passed := goTo_all (fun pc => pc = .openingAudio → s.drop .video = false) inv.passed (by simp)
    ordered := inv.ordered
    -- Nobody has to test again what this test has seen.
    pending := fun ready => .inl (reason ready) }

/-- The first thread that passes the test is the only one, as it holds the mutex. -/
theorem ValvesInv.request (inv : ValvesInv s) (held : s.LockHeld)
    (stands : s.probes source = .requesting) :
    ValvesInv { s.goTo source .openingVideo with
      pipeOpenRequested := true
      opens := s.opens + 1 } := by
  obtain ⟨first, live⟩ := inv.first source stands
  obtain ⟨none, _⟩ := inv.closed first
  -- The other thread is outside its own critical section.
  have alone : ∀ other, other ≠ source → ¬ (s.probes other).Critical := by
    intro other apart critical
    have mine : (s.probes source).Critical := by simp [stands, ProbePc.Critical]
    exact apart (Mutex.Excludes.alone held critical mine)
  have opening : ∃ other, (s.goTo source .openingVideo).probes other = .openingVideo :=
    ⟨source, goTo_self s source .openingVideo⟩
  exact {
    live := fun _ => live
    first := by
      intro other there
      by_cases same : other = source
      · have here := there
        rw [same] at here
        simp at here
      · have waiting : s.probes other = .requesting := (goTo_other same).symm.trans there
        exact absurd (by simp [waiting, ProbePc.Critical]) (alone other same)
    opening := fun _ _ => rfl
    closed := fun wrong => by simp at wrong
    once := fun _ => by simp [none]
    videoOpen := fun _ => .inr opening
    audioOpen := fun _ => .inr (opening.imp fun _ there => .inl there)
    passed := goTo_all (fun pc => pc = .openingAudio → s.drop .video = false) inv.passed (by simp)
    ordered := inv.ordered
    pending := fun _ => .inl rfl }

/-- The video valve is opened by a thread that goes on to the audio valve. -/
theorem ValvesInv.openVideo (inv : ValvesInv s) (stands : s.probes source = .openingVideo) :
    ValvesInv { s.goTo source .openingAudio with
      drop := Function.update s.drop .video false } := by
  have requested : s.pipeOpenRequested = true :=
    inv.opening source (by simp [stands, ProbePc.Opening])
  have opened : Function.update s.drop .video false .video = false :=
    Function.update_self MediaSource.video false s.drop
  exact {
    live := inv.live
    first := goTo_all (fun pc => pc = .requesting →
      s.pipeOpenRequested = false ∧ ∀ other, s.ready other = true) inv.first (by simp)
    opening := fun _ _ => requested
    closed := fun wrong => absurd (requested.symm.trans wrong) (by simp)
    once := inv.once
    videoOpen := fun _ => .inl opened
    audioOpen := fun _ => .inr ⟨source, .inr (goTo_self s source .openingAudio)⟩
    passed := fun _ _ => opened
    ordered := fun _ => opened
    pending := fun _ => .inl requested }

/-- The audio valve is opened behind the video valve. -/
theorem ValvesInv.openAudio (inv : ValvesInv s) (stands : s.probes source = .openingAudio) :
    ValvesInv { s.goTo source .unlocking with
      drop := Function.update s.drop .audio false } := by
  have requested : s.pipeOpenRequested = true :=
    inv.opening source (by simp [stands, ProbePc.Opening])
  have opened : Function.update s.drop .audio false .video = false :=
    inv.passed source stands
  exact {
    live := inv.live
    first := goTo_all (fun pc => pc = .requesting →
      s.pipeOpenRequested = false ∧ ∀ other, s.ready other = true) inv.first (by simp)
    opening := fun _ _ => requested
    closed := fun wrong => absurd (requested.symm.trans wrong) (by simp)
    once := inv.once
    videoOpen := fun _ => .inl opened
    audioOpen := fun _ => .inl (Function.update_self MediaSource.audio false s.drop)
    passed := fun _ _ => opened
    ordered := fun _ => opened
    pending := fun _ => .inl requested }

/-- The mutex and the valves are kept by every step. -/
theorem preroll_step (held : s.LockHeld) (inv : ValvesInv s)
    (trans : PrerollTransition s action t) : t.LockHeld ∧ ValvesInv t := by
  refine ⟨lockHeld_step held trans, ?_⟩
  cases trans with
  | buffer source stands =>
    exact inv.idle (by simp [stands, ProbePc.Deciding]) (by simp [ProbePc.Deciding])
  | lock source stands free =>
    exact inv.idle (by simp [stands, ProbePc.Deciding]) (by simp [ProbePc.Deciding])
  | mark source stands => exact inv.mark stands
  | pass source stands live first => exact inv.pass live first
  | fail source stands reason => exact inv.fail stands reason
  | request source stands => exact inv.request held stands
  | openVideo source stands => exact inv.openVideo stands
  | openAudio source stands => exact inv.openAudio stands
  | unlock source stands =>
    exact inv.idle (by simp [stands, ProbePc.Deciding]) (by simp [ProbePc.Deciding])
  -- The pipeline has no part in it.
  | attachOutput attachment bin called => exact { inv with }
  | attachRelay attachment links called => exact { inv with }

/-- Which sources have delivered a buffer, as far as the bin knows of it. -/
structure Heard (past : List PrerollAction) (s : Preroll) : Prop where
  delivered : ∀ source, s.probes source ≠ .away ∨ s.ready source = true → .buffer source ∈ past
  noted : ∀ source, .buffer source ∈ past →
    s.ready source = true ∨ s.probes source = .locking ∨ s.probes source = .marking

variable {past : List PrerollAction}

/-- Behind the note of a source, its thread only knows what it knew before. -/
theorem Heard.move (heard : Heard past s) (source : MediaSource) (pc : ProbePc)
    (inside : s.probes source ≠ .away) (known : s.ready source = true ∨ pc = .marking) :
    Heard (past ++ [.probe source]) (s.goTo source pc) := by
  constructor
  · intro other there
    apply List.mem_append_left
    apply heard.delivered
    by_cases same : other = source
    · exact .inl (same ▸ inside)
    · rwa [goTo_other same] at there
  · intro other member
    have before : .buffer other ∈ past := by simpa using member
    by_cases same : other = source
    · rw [same, goTo_self]
      exact known.imp id .inr
    · rw [goTo_other same]
      exact heard.noted other before

/-- A thread that has passed its note has noted its source. -/
theorem Heard.ready (heard : Heard past s) (source : MediaSource)
    (inside : s.probes source ≠ .away) (locked : s.probes source ≠ .locking)
    (behind : s.probes source ≠ .marking) : s.ready source = true := by
  rcases heard.noted source (heard.delivered source (.inl inside)) with ready | there | there
  · exact ready
  · exact absurd there locked
  · exact absurd there behind

/-- Every step brings what the bin knows of its sources up to date. -/
theorem heard_step (heard : Heard past s) (trans : PrerollTransition s action t) :
    Heard (past ++ [action]) t := by
  -- Steps that are not about buffers leave what is known as it is.
  have quiet : ∀ action, (∀ source, action ≠ .buffer source) → Heard (past ++ [action]) s := by
    intro action other
    refine ⟨fun source there => List.mem_append_left _ (heard.delivered source there),
      fun source member => heard.noted source ?_⟩
    rcases List.mem_append.mp member with before | now
    · exact before
    · exact absurd (List.mem_singleton.mp now).symm (other source)
  cases trans with
  | buffer source stands =>
    constructor
    · intro other there
      by_cases same : other = source
      · rw [same]
        exact List.mem_append_right _ (List.mem_singleton.mpr rfl)
      · rw [goTo_other same] at there
        exact List.mem_append_left _ (heard.delivered other there)
    · intro other member
      by_cases same : other = source
      · rw [same, goTo_self]
        exact .inr (.inl rfl)
      · rw [goTo_other same]
        apply heard.noted
        simpa [same] using member
  | lock source stands free =>
    have moved := heard.move source .marking (by simp [stands]) (.inr rfl)
    exact ⟨moved.delivered, moved.noted⟩
  | mark source stands =>
    -- The thread notes what its own buffer has told it.
    constructor
    · intro other there
      apply List.mem_append_left
      by_cases same : other = source
      · rw [same]
        exact heard.delivered source (.inl (by simp [stands]))
      · apply heard.delivered
        simpa [goTo_other same, Function.update_of_ne same] using there
    · intro other member
      by_cases same : other = source
      · rw [same]
        exact .inl (Function.update_self source true s.ready)
      · have before := heard.noted other (by simpa using member)
        simpa [goTo_other same, Function.update_of_ne same] using before
  | pass source stands live first =>
    exact heard.move source .requesting (by simp [stands]) (.inl (live source))
  | fail source stands reason =>
    have ready := heard.ready source (by simp [stands]) (by simp [stands]) (by simp [stands])
    exact heard.move source .unlocking (by simp [stands]) (.inl ready)
  | request source stands =>
    have ready := heard.ready source (by simp [stands]) (by simp [stands]) (by simp [stands])
    have moved := heard.move source .openingVideo (by simp [stands]) (.inl ready)
    exact ⟨moved.delivered, moved.noted⟩
  | openVideo source stands =>
    have ready := heard.ready source (by simp [stands]) (by simp [stands]) (by simp [stands])
    have moved := heard.move source .openingAudio (by simp [stands]) (.inl ready)
    exact ⟨moved.delivered, moved.noted⟩
  | openAudio source stands =>
    have ready := heard.ready source (by simp [stands]) (by simp [stands]) (by simp [stands])
    have moved := heard.move source .unlocking (by simp [stands]) (.inl ready)
    exact ⟨moved.delivered, moved.noted⟩
  | unlock source stands =>
    have ready := heard.ready source (by simp [stands]) (by simp [stands]) (by simp [stands])
    have moved := heard.move source .away (by simp [stands]) (.inl ready)
    exact ⟨moved.delivered, moved.noted⟩
  | attachOutput attachment bin called =>
    have same := quiet (.attachOutput attachment) (by simp)
    exact ⟨same.delivered, same.noted⟩
  | attachRelay attachment links called =>
    have same := quiet (.attachRelay attachment) (by simp)
    exact ⟨same.delivered, same.noted⟩

end Invariants

section Runs

variable {setupLinks : List ElementLink} {actions : List PrerollAction} {final : Preroll}

/-- A new bin has closed valves, a free mutex and no live source. -/
theorem preroll_alloc (setupLinks : List ElementLink) :
    (alloc setupLinks).LockHeld ∧ ValvesInv (alloc setupLinks) ∧
      Heard [] (alloc setupLinks) := by
  refine ⟨?_, ?_, ?_⟩
  · apply Mutex.excludes_free
    intro source
    simp [alloc, ProbePc.Critical]
  · constructor <;> try simp [alloc, ProbePc.Opening]
    exact ⟨.audio⟩
  · constructor <;> simp [alloc]

/-- The mutex, the valves and what is known of the sources are right after every run. -/
theorem preroll_run (ran : run Preroll.step (alloc setupLinks) actions = some final) :
    final.LockHeld ∧ ValvesInv final ∧ Heard actions final := by
  -- The three of them are carried along together, with the actions so far.
  obtain ⟨held, inv, heard⟩ := preroll_alloc setupLinks
  have kept := run_history_invariant
    (fun past state => state.LockHeld ∧ ValvesInv state ∧ Heard past state)
    (fun past state action next now taken => by
      obtain ⟨held, inv, heard⟩ := now
      have trans := step_prerollTransition taken
      obtain ⟨held', inv'⟩ := preroll_step held inv trans
      exact ⟨held', inv', heard_step heard trans⟩)
    ⟨held, inv, heard⟩ ran
  simpa using kept

/-- A valve that is open stays open. -/
theorem open_step {s t : Preroll} {action : PrerollAction} (media : MediaSource)
    (now : s.drop media = false) (taken : s.step action = some t) : t.drop media = false := by
  -- Only two of the steps touch the valves, and they open one.
  have opened : ∀ other, Function.update s.drop other false media = false := by
    intro other
    by_cases same : media = other
    · rw [same, Function.update_self]
    · rw [Function.update_of_ne same]
      exact now
  cases step_prerollTransition taken with
  | openVideo source stands => exact opened .video
  | openAudio source stands => exact opened .audio
  | _ => exact now

/-- An open valve means that both sources have delivered a buffer. -/
theorem delivered_of_open (ran : run Preroll.step (alloc setupLinks) actions = some final)
    {media : MediaSource} (now : final.drop media = false) (source : MediaSource) :
    .buffer source ∈ actions := by
  obtain ⟨_, inv, heard⟩ := preroll_run ran
  -- Valves are closed until somebody asks for them to be opened.
  cases requested : final.pipeOpenRequested with
  | true => exact heard.delivered source (.inr (inv.live requested source))
  | false =>
    have closed := (inv.closed requested).2 media
    rw [now] at closed
    simp at closed

/-- Where no probe is running, the valves are open as soon as both sources have delivered. -/
theorem open_of_delivered (ran : run Preroll.step (alloc setupLinks) actions = some final)
    (idle : ∀ source, final.probes source = .away) (all : ∀ source, .buffer source ∈ actions) :
    final.pipeOpenRequested = true ∧ ∀ media, final.drop media = false := by
  obtain ⟨_, inv, heard⟩ := preroll_run ran
  have ready : ∀ source, final.ready source = true := by
    intro source
    rcases heard.noted source (all source) with ready | there | there
    · exact ready
    · simp [idle source] at there
    · simp [idle source] at there
  -- Nobody is left who could still open them.
  have requested : final.pipeOpenRequested = true := by
    rcases inv.pending ready with requested | ⟨source, there⟩
    · exact requested
    · simp [idle source] at there
  refine ⟨requested, fun media => ?_⟩
  cases media with
  | audio =>
    rcases inv.audioOpen requested with now | ⟨source, there⟩
    · exact now
    · simp [idle source, ProbePc.Opening] at there
  | video =>
    rcases inv.videoOpen requested with now | ⟨source, there⟩
    · exact now
    · simp [idle source] at there

/--
A valve is only open once both sources have delivered a buffer.

Whenever no probe is running, each valve is open exactly if both sources have delivered one.
-/
theorem valves_open_iff_delivered
    (ran : run Preroll.step (alloc setupLinks) actions = some final) :
    (∀ media, final.drop media = false → ∀ source, .buffer source ∈ actions) ∧
      ((∀ source, final.probes source = .away) → ∀ media,
        (final.drop media = false ↔ ∀ source, .buffer source ∈ actions)) := by
  refine ⟨fun media now source => delivered_of_open ran now source, fun idle media => ?_⟩
  constructor
  · exact fun now source => delivered_of_open ran now source
  · exact fun all => (open_of_delivered ran idle all).2 media

/-- The audio comes first, and the video is tested while the audio thread is away again. -/
def audioThenVideo : List PrerollAction :=
  [.buffer .audio, .buffer .video, .probe .audio, .probe .audio, .probe .audio, .probe .audio] ++
    List.replicate 7 (.probe .video)

/-- Behind both probes, both valves are open. -/
theorem audioThenVideo_opens :
    ∃ final, run Preroll.step (alloc []) audioThenVideo = some final ∧
      ∀ media, final.drop media = false := by
  -- The run is evaluated once, and says that both threads are away.
  have ended : ∃ final, run Preroll.step (alloc []) audioThenVideo = some final ∧
      final.probes .audio = .away ∧ final.probes .video = .away := run_ends (by decide)
  obtain ⟨final, ran, audioAway, videoAway⟩ := ended
  have idle : ∀ source, final.probes source = .away := by
    intro source
    cases source with
    | audio => exact audioAway
    | video => exact videoAway
  refine ⟨final, ran, fun media => ?_⟩
  refine ((valves_open_iff_delivered ran).2 idle media).mpr fun source => ?_
  cases source <;> simp [audioThenVideo]

/--
The two threads call `open_pipeline_valves` at most once between them, and never block each other.

The video valve is opened first, no valve is closed again, and as long as a probe is running some
probe can make its next step.
-/
theorem valves_opened_once (ran : run Preroll.step (alloc setupLinks) actions = some final) :
    final.opens ≤ 1 ∧ (final.drop .audio = false → final.drop .video = false) ∧
      (∀ media more later, final.drop media = false →
        run Preroll.step final more = some later → later.drop media = false) ∧
      ((∃ source, final.probes source ≠ .away) →
        ∃ source, (final.step (.probe source)).isSome = true) := by
  obtain ⟨held, inv, _⟩ := preroll_run ran
  refine ⟨?_, inv.ordered, ?_, fun running => ?_⟩
  · cases requested : final.pipeOpenRequested with
    | true => rw [inv.once requested]
    | false =>
      rw [(inv.closed requested).1]
      exact Nat.zero_le 1
  · intro media more later now ranOn
    exact run_invariant (fun state => state.drop media = false)
      (fun state action next => open_step media) now ranOn
  · -- The owner of the mutex can go on, and a free mutex can be taken.
    cases owner : final.lock with
    | some source =>
      have inside : (final.probes source).Critical := (held source).mpr owner
      refine ⟨source, ?_⟩
      cases stands : final.probes source with
      | away => simp [stands, ProbePc.Critical] at inside
      | locking => simp [stands, ProbePc.Critical] at inside
      | testing =>
        simp only [Preroll.step, probeOf_eq, onLive, stands]
        split <;> rfl
      | _ => simp [Preroll.step, probeOf_eq, onLive, stands]
    | none =>
      obtain ⟨source, inside⟩ := running
      refine ⟨source, ?_⟩
      have outside : ¬ (final.probes source).Critical := by
        intro critical
        simpa [owner] using (held source).mp critical
      have waiting : final.probes source = .locking := by
        simpa [ProbePc.Critical, inside] using outside
      simp [Preroll.step, probeOf_eq, onLive, waiting, owner]

/-- The audio thread is left waiting for the mutex that the video thread holds. -/
def audioWaits : List PrerollAction :=
  [.buffer .audio, .buffer .video, .probe .video, .probe .video]

/-- Behind these steps some thread can still go on. -/
theorem audioWaits_goes_on :
    ∃ final, run Preroll.step (alloc []) audioWaits = some final ∧
      (final.step (.probe .audio)).isSome = false ∧
      ∃ source, (final.step (.probe source)).isSome = true := by
  have ended : ∃ final, run Preroll.step (alloc []) audioWaits = some final ∧
      final.probes .audio ≠ .away ∧ (final.step (.probe .audio)).isSome = false :=
    run_ends (by decide)
  obtain ⟨final, ran, running, blocked⟩ := ended
  exact ⟨final, ran, blocked, (valves_opened_once ran).2.2.2 ⟨.audio, running⟩⟩

end Runs

end Ichabod
