import Ichabod.Bin.Pipeline
import Mathlib.Logic.Function.Basic

/-! The probes at the two sources, which open the valves once both of them are live. -/

namespace Ichabod

/-- Where the streaming thread of a source is in `on_audio_live` or `on_video_live`. -/
inductive ProbePc where
  /-- Outside the probe. -/
  | away
  /-- About to lock the mutex. -/
  | locking
  /-- About to note that its source is ready. -/
  | marking
  /-- About to test whether the valves are to be opened. -/
  | testing
  /-- About to note that the valves are opened, and to call `open_pipeline_valves`. -/
  | requesting
  /-- In `open_pipeline_valves`, about to open the video valve. -/
  | openingVideo
  /-- In `open_pipeline_valves`, about to open the audio valve. -/
  | openingAudio
  /-- About to unlock the mutex. -/
  | unlocking
deriving DecidableEq

/-- The fields of `struct ichabod_bin_s` that the probes share, and its pipeline. -/
structure Preroll where
  pipeline : IchabodPipeline
  /-- The source whose streaming thread holds the mutex. -/
  lock : Option MediaSource
  /-- The fields `audio_ready` and `video_ready`. -/
  ready : MediaSource → Bool
  pipeOpenRequested : Bool
  /-- The properties `drop` of the two valves. -/
  drop : MediaSource → Bool
  /-- How often `open_pipeline_valves` has been called. -/
  opens : Nat
  probes : MediaSource → ProbePc

/-- What happens to the bin, in any order. -/
inductive PrerollAction where
  /-- A buffer comes to the source pad of a source, which calls the probe. -/
  | buffer (source : MediaSource)
  /-- The streaming thread of a source makes its next step in the probe. -/
  | probe (source : MediaSource)
  /-- A file or RTMP output is attached. -/
  | attachOutput (attachment : Attachment)
  /-- An RTP relay is attached. -/
  | attachRelay (attachment : RtpAttachment)

namespace Preroll

/-- A bin that `ichabod_bin_alloc` has given, with the links that `setup_bin` has made. -/
def alloc (setupLinks : List ElementLink) : Preroll where
  pipeline := ⟨setupLinks, .alloc, []⟩
  lock := none
  ready := fun _ => false
  pipeOpenRequested := false
  -- The flows are blocked from the outputs until both sources are live.
  drop := fun _ => true
  opens := 0
  probes := fun _ => .away

/-- The streaming thread of a source goes on to the given place. -/
def goTo (state : Preroll) (source : MediaSource) (pc : ProbePc) : Preroll :=
  { state with probes := Function.update state.probes source pc }

/-- What `on_audio_live` and `on_video_live` do, which only differ in the field that they set. -/
def onLive (state : Preroll) (source : MediaSource) : Option Preroll :=
  match state.probes source with
  | .away => none
  | .locking =>
    -- The mutex is waited for until it is free.
    if state.lock = none then some { state.goTo source .marking with lock := some source }
    else none
  | .marking =>
    some { state.goTo source .testing with ready := Function.update state.ready source true }
  | .testing =>
    if state.ready .audio && state.ready .video && !state.pipeOpenRequested then
      some (state.goTo source .requesting)
    else some (state.goTo source .unlocking)
  | .requesting =>
    some { state.goTo source .openingVideo with
      pipeOpenRequested := true
      opens := state.opens + 1 }
  | .openingVideo =>
    some { state.goTo source .openingAudio with drop := Function.update state.drop .video false }
  | .openingAudio =>
    some { state.goTo source .unlocking with drop := Function.update state.drop .audio false }
  | .unlocking => some { state.goTo source .away with lock := none }

/-- `on_audio_live`. -/
def onAudioLive (state : Preroll) : Option Preroll :=
  state.onLive .audio

/-- `on_video_live`. -/
def onVideoLive (state : Preroll) : Option Preroll :=
  state.onLive .video

/-- The probe that `setup_bin` has added to the source pad of a source. -/
def probeOf (state : Preroll) : MediaSource → Option Preroll
  | .audio => state.onAudioLive
  | .video => state.onVideoLive

/-- One step of the bin, if it is enabled. -/
def step (state : Preroll) : PrerollAction → Option Preroll
  | .buffer source =>
    -- The streaming thread brings its next buffer when the probe has returned.
    if state.probes source = .away then some (state.goTo source .locking) else none
  | .probe source => state.probeOf source
  | .attachOutput attachment => do
    let bin ← state.pipeline.bin.attach attachment
    some { state with pipeline := { state.pipeline with bin := bin } }
  | .attachRelay attachment => do
    let links ← attachRtp state.pipeline.relays.length attachment
    some { state with
      pipeline := { state.pipeline with relays := state.pipeline.relays ++ [links] } }

/-- The two probes follow one text. -/
theorem probeOf_eq (state : Preroll) (source : MediaSource) :
    state.probeOf source = state.onLive source := by
  cases source <;> rfl

/-- Whether an element lets pass what comes to it. -/
def passes (state : Preroll) : Element → Prop
  | .videoOutValve => state.drop .video = false
  | .audioOutValve => state.drop .audio = false
  | _ => True

end Preroll

end Ichabod
