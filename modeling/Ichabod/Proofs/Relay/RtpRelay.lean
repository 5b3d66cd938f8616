import Ichabod.Lib.Interleaving
import Ichabod.Relay.RtpRelay

/-! The webrtc relay is created once both kinds of pads are there, and keeps what it was given. -/

namespace Ichabod

open Interleaving

/-- The media that an rtpbin session carries. -/
inductive StreamKind where
  | video
  | audio
deriving DecidableEq

/-- The decimal digits of a number. -/
def decimal (number : Nat) : Bytes :=
  CString.ascii (toString number)

/-- The name that the rtpbin gives to the pad of a received stream. -/
def StreamKind.padName (kind : StreamKind) (ssrc pt : Nat) : Bytes :=
  CString.ascii (match kind with | .video => "recv_rtp_src_0" | .audio => "recv_rtp_src_1") ++
    CString.ascii "_" ++ decimal ssrc ++ CString.ascii "_" ++ decimal pt

/-- A received stream for which a pad is added. -/
structure StreamAdded where
  kind : StreamKind
  ssrc : Nat
  pt : Nat
  newPad : Nat
  link : Int
  videoLinked : Bool
  audioLinked : Bool
deriving DecidableEq

/-- The signal that reports the pad. -/
def StreamAdded.event (stream : StreamAdded) : PadAdded where
  name := stream.kind.padName stream.ssrc stream.pt
  newPad := stream.newPad
  link := stream.link
  videoLinked := stream.videoLinked
  audioLinked := stream.audioLinked

/-- Handles the pad of one stream. -/
def addStream (pthis : RtpRelay) (stream : StreamAdded) : Option RtpRelay :=
  pthis.onRtpbinPadAdded stream.event

/-- The streams of one kind. -/
def ofKind (kind : StreamKind) (streams : List StreamAdded) : List StreamAdded :=
  streams.filter (·.kind = kind)

/-- The source pad of the most recently added video stream, which ends the last chain built. -/
def lastVideoSrc (streams : List StreamAdded) : Option RelayPad :=
  match (ofKind .video streams).length with
  | 0 => none
  | chains + 1 => some (.packetizerSrc chains)

/-- The source pad of the most recently added audio stream. -/
def lastAudioSrc (streams : List StreamAdded) : Option RelayPad :=
  (ofKind .audio streams).getLast?.map fun stream => .rtpbin stream.newPad

/-- Whether streams of both kinds have been added. -/
def Paired (streams : List StreamAdded) : Prop :=
  (∃ stream ∈ streams, stream.kind = .video) ∧ ∃ stream ∈ streams, stream.kind = .audio

/-- The streams up to the one that made the pair complete. -/
structure Completes (streams first : List StreamAdded) : Prop where
  begins : first <+: streams
  paired : Paired first
  /-- Without its last stream, one kind was still missing. -/
  least : ¬ Paired first.dropLast

section Handler

variable {pthis next : RtpRelay} {stream : StreamAdded}

/-- The pads of video streams are recognized by their names. -/
theorem videoName_begins (ssrc pt : Nat) :
    (CString.ascii "recv_rtp_src_0").isPrefixOf (StreamKind.video.padName ssrc pt) = true := by
  -- The session number is the last character of the prefix that is tested.
  rw [List.isPrefixOf_iff_prefix]
  simp only [StreamKind.padName, List.append_assoc]
  exact List.prefix_append _ _

/-- The pads of audio streams are recognized by their names. -/
theorem audioName_begins (ssrc pt : Nat) :
    (CString.ascii "recv_rtp_src_1").isPrefixOf (StreamKind.audio.padName ssrc pt) = true := by
  rw [List.isPrefixOf_iff_prefix]
  simp only [StreamKind.padName, List.append_assoc]
  exact List.prefix_append _ _

/-- No pad of an audio stream is taken for one of a video stream. -/
theorem audioName_not_video (ssrc pt : Nat) :
    ¬ (CString.ascii "recv_rtp_src_0").isPrefixOf (StreamKind.audio.padName ssrc pt) = true := by
  -- The two prefixes are equally long and differ in the session number.
  rw [List.isPrefixOf_iff_prefix]
  intro video
  have audio := List.isPrefixOf_iff_prefix.mp (audioName_begins ssrc pt)
  have same := (List.prefix_of_prefix_length_le video audio (by decide)).eq_of_length (by decide)
  exact absurd same (by decide)

/-- What the relay holds of its pads, whether or not they have been relayed. -/
structure HoldsPads (streams : List StreamAdded) (pthis : RtpRelay) : Prop where
  chains : pthis.chains = (ofKind .video streams).length
  video : pthis.videoRecvSrc = lastVideoSrc streams
  audio : pthis.audioRecvSrc = lastAudioSrc streams

/-- The handler notes the new pad, and only then sees whether a webrtc relay is due. -/
theorem addStream_notes {streams : List StreamAdded} (holds : HoldsPads streams pthis)
    (added : addStream pthis stream = some next) :
    ∃ noted : RtpRelay, HoldsPads (streams ++ [stream]) noted ∧
      noted.webrtcRelay = pthis.webrtcRelay ∧ noted.calls = pthis.calls ∧
      noted.maybeCreateWebrtcRelay stream.event = some next := by
  -- The name alone decides which branch of the handler is taken.
  obtain ⟨chains, video, audio⟩ := holds
  cases kind : stream.kind with
  | video =>
    have name : stream.event.name = StreamKind.video.padName stream.ssrc stream.pt := by
      rw [StreamAdded.event, kind]
    rw [addStream, RtpRelay.onRtpbinPadAdded, name, if_pos (videoName_begins _ _)] at added
    simp only [RtpRelay.createH264RecvChain] at added
    split at added
    · cases added
    · -- The new chain is the one that the new pad is linked to.
      refine ⟨_, ⟨?_, ?_, ?_⟩, ?_, ?_, added⟩
      · simp [ofKind, kind, chains]
      · simp [lastVideoSrc, ofKind, kind, chains]
      · simp [lastAudioSrc, ofKind, kind, audio]
      · rfl
      · rfl
  | audio =>
    have name : stream.event.name = StreamKind.audio.padName stream.ssrc stream.pt := by
      rw [StreamAdded.event, kind]
    rw [addStream, RtpRelay.onRtpbinPadAdded, name, if_neg (audioName_not_video _ _),
      if_pos (audioName_begins _ _)] at added
    simp only at added
    split at added
    · cases added
    · refine ⟨_, ⟨?_, ?_, ?_⟩, ?_, ?_, added⟩
      · simp [ofKind, kind, chains]
      · simp [lastVideoSrc, ofKind, kind, video]
      · simp [lastAudioSrc, ofKind, kind, StreamAdded.event]
      · rfl
      · rfl

/-- What `maybe_create_webrtc_relay` does with the pads it finds. -/
theorem maybeCreateWebrtcRelay_cases {event : PadAdded}
    (created : pthis.maybeCreateWebrtcRelay event = some next) :
    next.chains = pthis.chains ∧ next.videoRecvSrc = pthis.videoRecvSrc ∧
      next.audioRecvSrc = pthis.audioRecvSrc ∧
      ((next.webrtcRelay = pthis.webrtcRelay ∧ next.calls = pthis.calls ∧
          (pthis.webrtcRelay = none →
            pthis.videoRecvSrc = none ∨ pthis.audioRecvSrc = none)) ∨
        ∃ config : WebrtcRelayConfig, pthis.webrtcRelay = none ∧
          pthis.videoRecvSrc = some config.videoRtpSrc ∧
          pthis.audioRecvSrc = some config.audioRtpSrc ∧
          next.webrtcRelay = some config ∧
          next.calls = pthis.calls ++ [.alloc, .config config]) := by
  simp only [RtpRelay.maybeCreateWebrtcRelay] at created
  split at created
  · rename_i audio video hasAudio hasVideo fresh
    simp only [RtpRelay.webrtcRelayConfig] at created
    split at created
    · cases created
    · split at created
      · cases created
      · cases created
        exact ⟨rfl, rfl, rfl, .inr ⟨_, fresh, hasVideo, hasAudio, rfl, by simp⟩⟩
  · rename_i other
    cases created
    refine ⟨rfl, rfl, rfl, .inl ⟨rfl, rfl, fun fresh => ?_⟩⟩
    -- The first branch would have applied, had both pads been there.
    cases video : pthis.videoRecvSrc with
    | none => exact .inl rfl
    | some videoPad =>
      cases audio : pthis.audioRecvSrc with
      | none => exact .inr rfl
      | some audioPad => exact (other _ _ audio video fresh).elim

end Handler

/-- Streams of both kinds have been added exactly if there is a source pad of each kind. -/
theorem paired_iff (streams : List StreamAdded) :
    Paired streams ↔ lastVideoSrc streams ≠ none ∧ lastAudioSrc streams ≠ none := by
  -- There is a pad of a kind as soon as there is one stream of it.
  have video : lastVideoSrc streams ≠ none ↔ ∃ stream ∈ streams, stream.kind = .video := by
    have counted : lastVideoSrc streams = none ↔ (ofKind .video streams).length = 0 := by
      unfold lastVideoSrc
      split <;> simp_all
    rw [Ne, counted, List.length_eq_zero_iff, ofKind, List.filter_eq_nil_iff]
    simp
  have audio : lastAudioSrc streams ≠ none ↔ ∃ stream ∈ streams, stream.kind = .audio := by
    rw [Ne, lastAudioSrc, Option.map_eq_none_iff, List.getLast?_eq_none_iff, ofKind,
      List.filter_eq_nil_iff]
    simp
  rw [Paired, video, audio]

/-- What has become of the webrtc relay after the given streams were added. -/
def RelaySettled (streams : List StreamAdded) (pthis : RtpRelay) : Prop :=
  (¬ Paired streams ∧ pthis.webrtcRelay = none ∧ pthis.calls = []) ∨
    ∃ (first : List StreamAdded) (config : WebrtcRelayConfig), Completes streams first ∧
      pthis.webrtcRelay = some config ∧ pthis.calls = [.alloc, .config config] ∧
      lastVideoSrc first = some config.videoRtpSrc ∧ lastAudioSrc first = some config.audioRtpSrc

/-- A pair stays complete when another stream is added. -/
theorem Completes.concat {streams first : List StreamAdded} (completes : Completes streams first)
    (stream : StreamAdded) : Completes (streams ++ [stream]) first :=
  ⟨completes.begins.trans (List.prefix_append _ _), completes.paired, completes.least⟩

/-- A longer history has every kind of stream that it had before. -/
theorem Paired.mono {streams first : List StreamAdded} (paired : Paired first)
    (begins : first <+: streams) : Paired streams := by
  obtain ⟨⟨video, videoMember, isVideo⟩, audio, audioMember, isAudio⟩ := paired
  exact ⟨⟨video, begins.subset videoMember, isVideo⟩, audio, begins.subset audioMember, isAudio⟩

/-- Adding one more stream keeps the pads current and the webrtc relay settled. -/
theorem addStream_step (streams : List StreamAdded) (pthis : RtpRelay) (stream : StreamAdded)
    (next : RtpRelay) (now : HoldsPads streams pthis ∧ RelaySettled streams pthis)
    (added : addStream pthis stream = some next) :
    HoldsPads (streams ++ [stream]) next ∧ RelaySettled (streams ++ [stream]) next := by
  -- The handler first notes the pad, and what it then does depends on the pads alone.
  obtain ⟨holds, settled⟩ := now
  obtain ⟨noted, notedHolds, sameRelay, sameCalls, created⟩ := addStream_notes holds added
  obtain ⟨chains, video, audio, outcome⟩ := maybeCreateWebrtcRelay_cases created
  refine ⟨⟨chains ▸ notedHolds.chains, video ▸ notedHolds.video, audio ▸ notedHolds.audio⟩, ?_⟩
  rw [sameRelay, sameCalls, notedHolds.video, notedHolds.audio] at outcome
  rcases outcome with ⟨relay, calls, missing⟩ | ⟨config, fresh, hasVideo, hasAudio, relay, calls⟩
  · rcases settled with ⟨_, absent, quiet⟩ | ⟨first, config, completes, present, made, rest⟩
    · -- No relay was due, because one kind is still missing.
      refine .inl ⟨?_, relay.trans absent, calls.trans quiet⟩
      rw [paired_iff]
      rcases missing absent with noVideo | noAudio
      · exact fun both => both.1 noVideo
      · exact fun both => both.2 noAudio
    · exact .inr ⟨first, config, completes.concat stream, relay.trans present,
        calls.trans made, rest⟩
  · rcases settled with ⟨unpaired, _, quiet⟩ | ⟨first, other, completes, present, _⟩
    · -- This stream has made the pair complete.
      have paired : Paired (streams ++ [stream]) := by
        rw [paired_iff, hasVideo, hasAudio]
        simp
      have least : ¬ Paired (streams ++ [stream]).dropLast := by
        rwa [List.dropLast_concat]
      refine .inr ⟨streams ++ [stream], config, ⟨List.prefix_refl _, paired, least⟩, relay, ?_,
        hasVideo, hasAudio⟩
      rw [calls, quiet, List.nil_append]
    · rw [fresh] at present
      cases present

/--
The webrtc relay exists exactly when a pad of each kind has been added, and is created and
configured once, with the pads that were current at the moment its pair became complete.

The relay's own two fields always hold the pads that are current now.
-/
theorem webrtcRelay_keeps_completing_pads (audioCaps : Option RtpCaps)
    (streams : List StreamAdded) (final : RtpRelay)
    (ran : run addStream (.configured audioCaps) streams = some final) :
    (final.webrtcRelay.isSome = true ↔ Paired streams) ∧
      final.calls = (match final.webrtcRelay with
        | none => []
        | some config => [.alloc, .config config]) ∧
      final.videoRecvSrc = lastVideoSrc streams ∧ final.audioRecvSrc = lastAudioSrc streams ∧
      ∀ config, final.webrtcRelay = some config → ∃ first, Completes streams first ∧
        lastVideoSrc first = some config.videoRtpSrc ∧
        lastAudioSrc first = some config.audioRtpSrc := by
  -- What is settled about the relay is carried along the whole run.
  have initial : HoldsPads [] (.configured audioCaps) ∧ RelaySettled [] (.configured audioCaps) :=
    ⟨⟨rfl, rfl, rfl⟩, .inl ⟨by simp [Paired], rfl, rfl⟩⟩
  have settled : HoldsPads streams final ∧ RelaySettled streams final :=
    run_history_invariant (fun past state => HoldsPads past state ∧ RelaySettled past state)
      addStream_step initial ran
  obtain ⟨holds, relay⟩ := settled
  rcases relay with ⟨unpaired, absent, quiet⟩ | ⟨first, config, completes, present, made, pads⟩
  · rw [absent]
    have never : (none : Option WebrtcRelayConfig).isSome = true ↔ Paired streams :=
      ⟨fun wrong => (nomatch wrong), fun paired => absurd paired unpaired⟩
    exact ⟨never, quiet, holds.video, holds.audio, fun config wrong => nomatch wrong⟩
  · rw [present]
    -- The relay was created for the first streams, among which both kinds are found.
    have paired : Paired streams := completes.paired.mono completes.begins
    refine ⟨⟨fun _ => paired, fun _ => rfl⟩, made, holds.video, holds.audio, ?_⟩
    intro other same
    cases same
    exact ⟨first, completes, pads⟩

/-- Every link of these streams succeeds. -/
def linkedStream (kind : StreamKind) (ssrc newPad : Nat) : StreamAdded :=
  ⟨kind, ssrc, 96, newPad, 0, true, true⟩

/-- A video stream, an audio stream, and the video stream again under a new source. -/
def videoReappears : List StreamAdded :=
  [linkedStream .video 11 0, linkedStream .audio 22 1, linkedStream .video 33 2]

/-- The relay is created for the first two streams, whose pads it is configured with. -/
theorem relay_after_videoReappears :
    ∃ final, run addStream (.configured none) videoReappears = some final ∧
      final.webrtcRelay.isSome = true ∧
      ∀ config, final.webrtcRelay = some config → ∃ first, Completes videoReappears first ∧
        lastVideoSrc first = some config.videoRtpSrc ∧
        lastAudioSrc first = some config.audioRtpSrc := by
  -- All links succeed, so the run goes through.
  have ended : ∃ final, run addStream (.configured none) videoReappears = some final ∧
      final.webrtcRelay.isSome = true := run_ends (by decide)
  obtain ⟨final, ran, created⟩ := ended
  have settled := webrtcRelay_keeps_completing_pads none videoReappears final ran
  exact ⟨final, ran, created, settled.2.2.2.2⟩

/-- The webrtc relay still has the pad of the first video stream when the second one is current. -/
theorem reappeared_video_not_relayed :
    ∃ final, run addStream (.configured none) videoReappears = some final ∧
      final.webrtcRelay.map WebrtcRelayConfig.videoRtpSrc = some (.packetizerSrc 0) ∧
      final.videoRecvSrc = some (.packetizerSrc 1) ∧
      lastVideoSrc videoReappears = some (.packetizerSrc 1) := by
  -- The third pad is noted, but the guard keeps it from the relay.
  exact run_ends (by decide)

end Ichabod
