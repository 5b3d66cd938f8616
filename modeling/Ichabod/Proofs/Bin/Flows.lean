import Ichabod.Lib.FlowGraph
import Ichabod.Proofs.Bin.Wiring

/-! Which media comes to the outputs and to the relays, and not before both sources are live. -/

namespace Ichabod

open FlowGraph Interleaving Preroll

/-- The element that a source is. -/
def MediaSource.element : MediaSource → Element
  | .audio => .asource
  | .video => .vsource

/-- What a source delivers can come to the element, by the links that are in place. -/
def Preroll.Flows (state : Preroll) (media : MediaSource) (target : Element) : Prop :=
  Reaches (fun source target => (source, target) ∈ state.pipeline.links) state.passes
    media.element target

/-- The elements that no media comes to without passing a valve. -/
def BehindValves : Element → Prop
  | .videoTee | .audioEncTee | .mqueue _ _ | .mux _ | .sink _ => True
  | .vencQueue _ | .h264Pay _ | .rtpSession _ .video => True
  -- The udpsink of the video is the first one that a relay creates.
  | .udpSink _ number => number = 0
  | _ => False

/-- The source that feeds an element, for the elements that are only fed from one of them. -/
def Element.fedBy : Element → Option MediaSource
  | .vsource | .mqueueSrc .video | .imgdec | .vfps | .venc | .videoOutValve | .videoTee
  | .mqueue _ .video | .vencQueue _ | .h264Pay _ | .rtpSession _ .video => some .video
  | .asource | .mqueueSrc .audio | .aconv | .afps | .audioRawTee | .aenc | .audioOutValve
  | .audioEncTee | .mqueue _ .audio | .arawQueue _ | .opusEnc _ | .opusPay _
  | .rtpSession _ .audio => some .audio
  | .mux _ | .sink _ | .udpSink _ _ => none

/-- The link calls of `setup_bin` on the way from a source to the tee of its outputs. -/
def MediaSource.setupCalls : MediaSource → List Nat
  | .video => [0, 1, 2, 3, 4, 5]
  | .audio => [6, 7, 8, 9, 10, 11, 12]

/-- The links of an output on the way from the tee of a source to the sink. -/
def MediaSource.outputLinks : MediaSource → List OutputLink
  | .audio => [.audioTeeToQueue, .queueToAudioMux, .muxToSink]
  | .video => [.videoTeeToQueue, .queueToVideoMux, .muxToSink]

section Wiring

variable {made : Nat → Bool} {outputs : List Attachment} {relays : List RtpAttachment}
  {passes : Element → Prop}

/-- The elements behind the valves are entered through the valves. -/
theorem behindValves_entered :
    EnteredBy (Wired made outputs relays) BehindValves
      (fun gate => gate = .videoOutValve ∨ gate = .audioOutValve) := by
  intro source target wired behind
  cases target with
  | mux output =>
    -- A muxer is behind its two queues, which are behind the tees.
    rcases wired with wired | wired | wired
    · exact wired.elim
    · rcases wired with ⟨rfl, _⟩ | ⟨rfl, _⟩ <;> exact .inl trivial
    · exact wired.elim
  | udpSink relay number =>
    obtain rfl : number = 0 := behind
    rcases wired with wired | wired | wired
    · exact wired.elim
    · exact wired.elim
    · rcases wired with ⟨_, rfl, _⟩ | ⟨wrong, _⟩
      · exact .inl trivial
      · simp at wrong
  | mqueueSrc stream => exact behind.elim
  | rtpSession relay session =>
    cases session with
    | audio => exact behind.elim
    | video =>
      simp only [Wired, SetupWired, OutputWired, RelayWired, false_or] at wired
      exact .inl (wired.1 ▸ trivial)
  | mqueue output stream =>
    cases stream <;> simp only [Wired, SetupWired, OutputWired, RelayWired, false_or, or_false]
      at wired <;> exact .inl (wired.1 ▸ trivial)
  | videoTee =>
    simp only [Wired, SetupWired, OutputWired, RelayWired, or_false] at wired
    exact .inr (.inl wired.1)
  | audioEncTee =>
    simp only [Wired, SetupWired, OutputWired, RelayWired, or_false] at wired
    exact .inr (.inr wired.1)
  | sink output =>
    simp only [Wired, SetupWired, OutputWired, RelayWired, false_or, or_false] at wired
    exact .inl (wired.1 ▸ trivial)
  | vencQueue relay | h264Pay relay =>
    simp only [Wired, SetupWired, OutputWired, RelayWired, false_or] at wired
    exact .inl (wired.1 ▸ trivial)
  | _ => exact behind.elim

/-- An element that is fed from one source is linked behind elements of that source. -/
theorem fedBy_entered (media : MediaSource) :
    EnteredBy (Wired made outputs relays) (fun element => element.fedBy = some media)
      fun _ => False := by
  intro source target wired fed
  left
  cases target with
  | mqueueSrc stream =>
    cases stream <;> simp only [Wired, SetupWired, OutputWired, RelayWired, or_false] at wired <;>
      exact wired.1 ▸ fed
  | mqueue output stream =>
    cases stream <;> simp only [Wired, SetupWired, OutputWired, RelayWired, false_or, or_false]
      at wired <;> exact wired.1 ▸ fed
  | rtpSession relay session =>
    cases session <;> simp only [Wired, SetupWired, OutputWired, RelayWired, false_or]
      at wired <;> exact wired.1 ▸ fed
  -- Muxers, sinks and udpsinks are left out.
  | mux output | sink output | udpSink relay number => cases fed
  | vsource | asource => simp [Wired, SetupWired, OutputWired, RelayWired] at wired
  | _ =>
    simp only [Wired, SetupWired, OutputWired, RelayWired, false_or, or_false] at wired
    exact wired.1 ▸ fed

/-- What comes to an element that is fed from one source has come from that source. -/
theorem source_of_fedBy {media other : MediaSource} {target : Element}
    (flow : Reaches (Wired made outputs relays) passes media.element target)
    (fed : target.fedBy = some other) : media = other := by
  by_contra apart
  -- Nothing enters the elements of the other source from outside.
  refine flow.stays_outside (fedBy_entered other) ?_ fed
  cases media <;> simpa [MediaSource.element, Element.fedBy] using apart

end Wiring

section Runs

variable {created : Element → Bool} {made : Nat → Bool} {setupLinks : List ElementLink}
  {actions : List PrerollAction} {final : Preroll}

/-- Flows follow what the calls have made of the pipeline. -/
theorem flows_iff_wired (setUp : setupBin created made = some setupLinks)
    (ran : run Preroll.step (alloc setupLinks) actions = some final) (media : MediaSource)
    (target : Element) :
    final.Flows media target ↔
      Reaches (Wired made (outputsOf actions) (relaysOf actions)) final.passes media.element
        target := by
  have links := mem_links_iff setUp ran
  constructor
  · exact fun flow => flow.mono fun source target => (links source target).mp
  · exact fun flow => flow.mono fun source target => (links source target).mpr

/--
As long as one of the sources has not delivered a buffer, no media gets behind the valves.

This holds for any part of the links, and so in the middle of every attach call, too.
-/
theorem nothing_behind_valves_early (setUp : setupBin created made = some setupLinks)
    (ran : run Preroll.step (alloc setupLinks) actions = some final) {source : MediaSource}
    (missing : .buffer source ∉ actions) (part : Element → Element → Prop)
    (linked : ∀ source target, part source target → (source, target) ∈ final.pipeline.links)
    (media : MediaSource) (target : Element) (behind : BehindValves target) :
    ¬ Reaches part final.passes media.element target := by
  intro flow
  have wired := flow.mono fun source target there =>
    (mem_links_iff setUp ran source target).mp (linked source target there)
  have outside : ¬ BehindValves media.element := by
    cases media <;> exact fun wrong => wrong
  -- The flow has passed a valve, so this valve is open.
  obtain ⟨gate, valve, passed⟩ := wired.passes_gate behindValves_entered outside behind
  rcases valve with rfl | rfl
  · exact missing (delivered_of_open ran passed source)
  · exact missing (delivered_of_open ran passed source)

/-- An output is attached, and then the video delivers its first buffer. -/
def videoAlone : List PrerollAction :=
  .attachOutput (audioOnly .rtmp) :: .buffer .video :: List.replicate 4 (.probe .video)

/-- Without the audio, nothing comes to the sink of the output. -/
theorem videoAlone_held_back :
    ∃ setupLinks final, setupBin (fun _ => true) (fun _ => true) = some setupLinks ∧
      run Preroll.step (alloc setupLinks) videoAlone = some final ∧
      ∀ media, ¬ final.Flows media (.sink 0) := by
  obtain ⟨setupLinks, setUp⟩ : ∃ setupLinks,
      setupBin (fun _ => true) (fun _ => true) = some setupLinks := ⟨_, rfl⟩
  obtain ⟨final, ran⟩ : ∃ final,
      run Preroll.step (alloc setupLinks) videoAlone = some final := ⟨_, rfl⟩
  have missing : PrerollAction.buffer .audio ∉ videoAlone := by simp [videoAlone]
  refine ⟨setupLinks, final, setUp, ran, fun media => ?_⟩
  exact nothing_behind_valves_early setUp ran missing _ (fun _ _ there => there) media (.sink 0)
    trivial

section Routes

variable {outputs : List Attachment} {relays : List RtpAttachment}

/-- The flow of the video to its tee. -/
theorem reaches_videoTee_iff :
    Reaches (Wired made outputs relays) final.passes .vsource .videoTee ↔
      (∀ call ∈ MediaSource.video.setupCalls, made call = true) ∧ final.drop .video = false := by
  have single : List.IsChain (fun before next => ∀ other, Wired made outputs relays other next →
      Reaches (Wired made outputs relays) final.passes .vsource other → other = before)
      [.vsource, .mqueueSrc .video, .imgdec, .vfps, .venc, .videoOutValve, .videoTee] := by
    simp +contextual [Wired, SetupWired, OutputWired, RelayWired]
  -- The video takes the whole line, and no other way.
  have line := (Reaches.reaches_line_iff (by simp) single).trans (and_iff_right (.here _))
  refine line.trans ?_
  simp [Wired, SetupWired, OutputWired, RelayWired, Preroll.passes, MediaSource.setupCalls]
  tauto

/-- The flow of the audio to the tee in front of its encoder. -/
theorem reaches_audioRawTee_iff :
    Reaches (Wired made outputs relays) final.passes .asource .audioRawTee ↔
      ∀ call ∈ [6, 7, 8, 9], made call = true := by
  have single : List.IsChain (fun before next => ∀ other, Wired made outputs relays other next →
      Reaches (Wired made outputs relays) final.passes .asource other → other = before)
      [.asource, .mqueueSrc .audio, .aconv, .afps, .audioRawTee] := by
    simp +contextual [Wired, SetupWired, OutputWired, RelayWired]
  have line := (Reaches.reaches_line_iff (by simp) single).trans (and_iff_right (.here _))
  refine line.trans ?_
  simp [Wired, SetupWired, OutputWired, RelayWired, Preroll.passes]

/-- The flow of the audio to the tee behind its valve. -/
theorem reaches_audioEncTee_iff :
    Reaches (Wired made outputs relays) final.passes .asource .audioEncTee ↔
      (∀ call ∈ MediaSource.audio.setupCalls, made call = true) ∧ final.drop .audio = false := by
  have single : List.IsChain (fun before next => ∀ other, Wired made outputs relays other next →
      Reaches (Wired made outputs relays) final.passes .asource other → other = before)
      [.audioRawTee, .aenc, .audioOutValve, .audioEncTee] := by
    simp +contextual [Wired, SetupWired, OutputWired, RelayWired]
  -- The line goes on behind the raw tee.
  have line := Reaches.reaches_line_iff (by simp) single
  refine line.trans ?_
  rw [reaches_audioRawTee_iff]
  simp [Wired, SetupWired, OutputWired, RelayWired, Preroll.passes, MediaSource.setupCalls]
  tauto

/-- The flow of a source to the sink of an output. -/
theorem reaches_sink_iff (media : MediaSource) (output : Nat) :
    Reaches (Wired made outputs relays) final.passes media.element (.sink output) ↔
      (∀ call ∈ media.setupCalls, made call = true) ∧ final.drop media = false ∧
        ∀ link ∈ media.outputLinks, OutputMade outputs output link := by
  -- At the muxer the two media come together, and each of them comes through its own queue.
  have mixed : ∀ other, Wired made outputs relays other (.mux output) →
      Reaches (Wired made outputs relays) final.passes media.element other →
        other = .mqueue output media := by
    intro other wired flow
    rcases wired with wired | wired | wired
    · exact wired.elim
    · rcases wired with ⟨rfl, _⟩ | ⟨rfl, _⟩
      · rw [source_of_fedBy flow (show _ = some MediaSource.audio from rfl)]
      · rw [source_of_fedBy flow (show _ = some MediaSource.video from rfl)]
    · exact wired.elim
  cases media with
  | audio =>
    have single : List.IsChain (fun before next => ∀ other, Wired made outputs relays other next →
        Reaches (Wired made outputs relays) final.passes .asource other → other = before)
        [.audioEncTee, .mqueue output .audio, .mux output, .sink output] := by
      refine .cons_cons ?_ (.cons_cons mixed (.cons_cons ?_ (.singleton _))) <;>
        simp +contextual [Wired, SetupWired, OutputWired, RelayWired]
    refine (Reaches.reaches_line_iff (by simp) single).trans ?_
    rw [reaches_audioEncTee_iff]
    simp [Wired, SetupWired, OutputWired, RelayWired, Preroll.passes, MediaSource.outputLinks,
      and_assoc]
  | video =>
    have single : List.IsChain (fun before next => ∀ other, Wired made outputs relays other next →
        Reaches (Wired made outputs relays) final.passes .vsource other → other = before)
        [.videoTee, .mqueue output .video, .mux output, .sink output] := by
      refine .cons_cons ?_ (.cons_cons mixed (.cons_cons ?_ (.singleton _))) <;>
        simp +contextual [Wired, SetupWired, OutputWired, RelayWired]
    refine (Reaches.reaches_line_iff (by simp) single).trans ?_
    rw [reaches_videoTee_iff]
    simp [Wired, SetupWired, OutputWired, RelayWired, Preroll.passes, MediaSource.outputLinks,
      and_assoc]

/-- The flow of the video to the first udpsink of a relay. -/
theorem reaches_videoUdpSink_iff (relay : Nat) :
    Reaches (Wired made outputs relays) final.passes .vsource (.udpSink relay 0) ↔
      (∀ call ∈ MediaSource.video.setupCalls, made call = true) ∧ final.drop .video = false ∧
        RelaySends relays relay := by
  have single : List.IsChain (fun before next => ∀ other, Wired made outputs relays other next →
      Reaches (Wired made outputs relays) final.passes .vsource other → other = before)
      [.videoTee, .vencQueue relay, .h264Pay relay, .rtpSession relay .video,
        .udpSink relay 0] := by
    simp +contextual [Wired, SetupWired, OutputWired, RelayWired]
  refine (Reaches.reaches_line_iff (by simp) single).trans ?_
  rw [reaches_videoTee_iff]
  simp [Wired, SetupWired, OutputWired, RelayWired, Preroll.passes, and_assoc]

/-- The flow of the audio to the third udpsink of a relay. -/
theorem reaches_audioUdpSink_iff (relay : Nat) :
    Reaches (Wired made outputs relays) final.passes .asource (.udpSink relay 2) ↔
      (∀ call ∈ [6, 7, 8, 9], made call = true) ∧ RelayEncodes relays relay := by
  have single : List.IsChain (fun before next => ∀ other, Wired made outputs relays other next →
      Reaches (Wired made outputs relays) final.passes .asource other → other = before)
      [.audioRawTee, .arawQueue relay, .opusEnc relay, .opusPay relay, .rtpSession relay .audio,
        .udpSink relay 2] := by
    simp +contextual [Wired, SetupWired, OutputWired, RelayWired]
  refine (Reaches.reaches_line_iff (by simp) single).trans ?_
  rw [reaches_audioRawTee_iff]
  -- A relay that encodes also sends.
  have sends : RelayEncodes relays relay → RelaySends relays relay := by
    intro encodes
    obtain ⟨attachment, given, send, _⟩ := encodes
    exact ⟨attachment, given, send⟩
  simp [Wired, SetupWired, OutputWired, RelayWired, Preroll.passes]
  tauto

/-- A udpsink that media comes to is the one for this media. -/
theorem udpSink_of_reaches {media : MediaSource} {relay number : Nat}
    (flow : Reaches (Wired made outputs relays) final.passes media.element
      (.udpSink relay number)) :
    (media = .video ∧ number = 0) ∨ (media = .audio ∧ number = 2) := by
  rcases flow.last with same | ⟨before, front, _, wired | wired | wired⟩
  · cases media <;> cases same
  · exact wired.elim
  · exact wired.elim
  · rcases wired with ⟨rfl, rfl, _⟩ | ⟨rfl, rfl, _⟩
    · exact .inl ⟨source_of_fedBy front rfl, rfl⟩
    · exact .inr ⟨source_of_fedBy front rfl, rfl⟩

end Routes

/--
Where no probe is running, the sink of an output is fed from a source precisely if everything is in
place for it.

Both sources have delivered a buffer, all link calls of `setup_bin` on the way have succeeded, and
so have the three links of the output on the way.
-/
theorem output_fed_iff (setUp : setupBin created made = some setupLinks)
    (ran : run Preroll.step (alloc setupLinks) actions = some final)
    (idle : ∀ source, final.probes source = .away) (media : MediaSource) (output : Nat) :
    final.Flows media (.sink output) ↔
      (∀ source, .buffer source ∈ actions) ∧
        (∀ call ∈ media.setupCalls, made call = true) ∧
        ∃ attachment, (outputsOf actions)[output]? = some attachment ∧
          ∀ link ∈ media.outputLinks, attachment.makes link = true := by
  have valve : final.drop media = false ↔ ∀ source, .buffer source ∈ actions :=
    ⟨fun now source => delivered_of_open ran now source,
      fun all => (open_of_delivered ran idle all).2 media⟩
  -- The three links belong to one attachment.
  have together : (∀ link ∈ media.outputLinks, OutputMade (outputsOf actions) output link) ↔
      ∃ attachment, (outputsOf actions)[output]? = some attachment ∧
        ∀ link ∈ media.outputLinks, attachment.makes link = true := by
    constructor
    · intro all
      obtain ⟨attachment, given, _⟩ := all .muxToSink (by cases media <;> decide)
      refine ⟨attachment, given, fun link member => ?_⟩
      obtain ⟨other, also, makes⟩ := all link member
      obtain rfl := Option.some.inj (given.symm.trans also)
      exact makes
    · intro found link member
      obtain ⟨attachment, given, all⟩ := found
      exact ⟨attachment, given, all link member⟩
  rw [flows_iff_wired setUp ran, reaches_sink_iff, valve, together]
  tauto

/-- An output that refuses the video is attached, and then both sources deliver. -/
def outputThenSources : List PrerollAction :=
  .attachOutput (audioOnly .file) :: audioThenVideo

/-- The sink of this output is fed with the audio, and with the audio only. -/
theorem outputThenSources_feeds_audio :
    ∃ setupLinks final, setupBin (fun _ => true) (fun _ => true) = some setupLinks ∧
      run Preroll.step (alloc setupLinks) outputThenSources = some final ∧
      final.Flows .audio (.sink 0) ∧ ¬ final.Flows .video (.sink 0) := by
  obtain ⟨setupLinks, setUp⟩ : ∃ setupLinks,
      setupBin (fun _ => true) (fun _ => true) = some setupLinks := ⟨_, rfl⟩
  have ended : ∃ final, run Preroll.step (alloc setupLinks) outputThenSources = some final ∧
      final.probes .audio = .away ∧ final.probes .video = .away := ⟨_, rfl, rfl, rfl⟩
  obtain ⟨final, ran, audioAway, videoAway⟩ := ended
  have idle : ∀ source, final.probes source = .away := by
    intro source
    cases source with
    | audio => exact audioAway
    | video => exact videoAway
  have outputs : outputsOf outputThenSources = [audioOnly .file] := rfl
  refine ⟨setupLinks, final, setUp, ran, ?_, fun flow => ?_⟩
  · refine (output_fed_iff setUp ran idle .audio 0).mpr ⟨?_, by simp, audioOnly .file, ?_, ?_⟩
    · intro source
      cases source <;> simp [outputThenSources, audioThenVideo]
    · rw [outputs]
      rfl
    · decide
  · obtain ⟨_, _, attachment, given, makes⟩ := (output_fed_iff setUp ran idle .video 0).mp flow
    rw [outputs] at given
    obtain rfl := Option.some.inj given
    exact absurd (makes .queueToVideoMux (by decide)) (by decide)

/--
What a relay sends: its video waits for both sources, but its audio does not.

The video comes to the first udpsink of a sending relay through the video valve, and the audio to
its third one around the valves, if the unchecked link in the relay was made. The other udpsinks get
no media.
-/
theorem relay_fed_iff (setUp : setupBin created made = some setupLinks)
    (ran : run Preroll.step (alloc setupLinks) actions = some final) (media : MediaSource)
    (relay number : Nat) :
    final.Flows media (.udpSink relay number) ↔
      (media = .video ∧ number = 0 ∧ final.drop .video = false ∧
        (∀ call ∈ [0, 1, 2, 3, 4, 5], made call = true) ∧
        ∃ attachment, (relaysOf actions)[relay]? = some attachment ∧
          attachment.config.sendEnabled = true) ∨
      (media = .audio ∧ number = 2 ∧ (∀ call ∈ [6, 7, 8, 9], made call = true) ∧
        ∃ attachment, (relaysOf actions)[relay]? = some attachment ∧
          attachment.config.sendEnabled = true ∧ attachment.encoded = true) := by
  rw [flows_iff_wired setUp ran]
  constructor
  · intro flow
    rcases udpSink_of_reaches flow with ⟨rfl, rfl⟩ | ⟨rfl, rfl⟩
    · obtain ⟨calls, now, sends⟩ := (reaches_videoUdpSink_iff relay).mp flow
      exact .inl ⟨rfl, rfl, now, calls, sends⟩
    · obtain ⟨calls, encodes⟩ := (reaches_audioUdpSink_iff relay).mp flow
      exact .inr ⟨rfl, rfl, calls, encodes⟩
  · intro either
    rcases either with ⟨rfl, rfl, now, calls, sends⟩ | ⟨rfl, rfl, calls, encodes⟩
    · exact (reaches_videoUdpSink_iff relay).mpr ⟨calls, now, sends⟩
    · exact (reaches_audioUdpSink_iff relay).mpr ⟨calls, encodes⟩

/-- A relay for two hosts, of which every link is made. -/
def eightPortsAttached : RtpAttachment where
  config := eightPorts
  bound := fun _ => true
  linkRet := fun _ => 0
  videoTeeRet := .ok
  videoPayRet := .ok
  videoGhostRet := .ok
  audioTeeRet := .ok
  encoded := true
  audioPayRet := .ok
  audioGhostRet := .ok

/-- The relay sends the audio before any source is live, but not the video. -/
theorem eightPortsAttached_sends_audio :
    ∃ setupLinks final, setupBin (fun _ => true) (fun _ => true) = some setupLinks ∧
      run Preroll.step (alloc setupLinks) [.attachRelay eightPortsAttached] = some final ∧
      final.Flows .audio (.udpSink 0 2) ∧ ¬ final.Flows .video (.udpSink 0 0) := by
  obtain ⟨setupLinks, setUp⟩ : ∃ setupLinks,
      setupBin (fun _ => true) (fun _ => true) = some setupLinks := ⟨_, rfl⟩
  have ended : ∃ final, run Preroll.step (alloc setupLinks) [.attachRelay eightPortsAttached] =
      some final ∧ final.drop .video = true := ⟨_, rfl, rfl⟩
  obtain ⟨final, ran, closed⟩ := ended
  refine ⟨setupLinks, final, setUp, ran, ?_, fun flow => ?_⟩
  · refine (relay_fed_iff setUp ran .audio 0 2).mpr (.inr ⟨rfl, rfl, by simp, ?_⟩)
    exact ⟨eightPortsAttached, rfl, rfl, rfl⟩
  · rcases (relay_fed_iff setUp ran .video 0 0).mp flow with ⟨_, _, now, _⟩ | ⟨wrong, _⟩
    · rw [closed] at now
      cases now
    · cases wrong

end Runs

end Ichabod
