import Ichabod.Lib.FlowGraph
import Ichabod.Lib.History
import Ichabod.Proofs.Relay.RtpRelay
import Mathlib.Data.List.Nodup

/-! Which of the streams that a relay receives come to its webrtcbin. -/

namespace Ichabod

open FlowGraph History Interleaving

/-- Where the packets of a received stream can be. -/
inductive RelayNode where
  | pad (pad : RelayPad)
  | webrtcbin
deriving DecidableEq

/--
What packets pass on from: the links of pads, the video chains, and the two links of the webrtcbin.

Nobody looks at whether the six elements of a chain were linked, so `chained` tells it.
-/
def StreamWired (chained : Nat → Bool) (pthis : RtpRelay) : RelayNode → RelayNode → Prop
  | .pad src, .pad sink =>
    (src, sink) ∈ pthis.links ∨
      ∃ chain, src = .queueSink chain ∧ sink = .packetizerSrc chain ∧ chained chain = true
  | .pad src, .webrtcbin =>
    ∃ config, pthis.webrtcRelay = some config ∧
      (src = config.videoRtpSrc ∨ src = config.audioRtpSrc)
  | .webrtcbin, _ => False

/-- The packets of a stream come from its pad to the webrtcbin. -/
def Relayed (chained : Nat → Bool) (pthis : RtpRelay) (stream : StreamAdded) : Prop :=
  Reaches (StreamWired chained pthis) (fun _ => True) (.pad (.rtpbin stream.newPad)) .webrtcbin

/-- The link for a stream that is added behind the given ones. -/
def linkOf (before : List StreamAdded) (stream : StreamAdded) : RelayPad × RelayPad :=
  (.rtpbin stream.newPad,
    match stream.kind with
    | .video => .queueSink (ofKind .video before).length
    | .audio => .fakesinkSink (ofKind .audio before).length)

/-- The links of a relay: one for each stream, but none for the audio that is relayed. -/
structure Linked (streams : List StreamAdded) (pthis : RtpRelay) : Prop where
  fakesinks : pthis.fakesinks = (ofKind .audio streams).length
  links : ∀ link, link ∈ pthis.links ↔
    (∃ stream, TakenWhen (fun before => linkOf before stream = link) stream streams) ∧
      ∀ config, pthis.webrtcRelay = some config → link.1 ≠ config.audioRtpSrc

section Handler

variable {streams : List StreamAdded} {pthis next : RtpRelay} {stream : StreamAdded}

/-- The handler links the new pad before it sees whether a webrtc relay is due. -/
theorem addStream_links (chains : pthis.chains = (ofKind .video streams).length)
    (fakesinks : pthis.fakesinks = (ofKind .audio streams).length)
    (added : addStream pthis stream = some next) :
    ∃ noted : RtpRelay, noted.links = pthis.links ++ [linkOf streams stream] ∧
      noted.fakesinks = (ofKind .audio (streams ++ [stream])).length ∧
      noted.webrtcRelay = pthis.webrtcRelay ∧
      noted.maybeCreateWebrtcRelay stream.event = some next := by
  -- The name alone decides which branch of the handler is taken.
  cases kind : stream.kind with
  | video =>
    have name : stream.event.name = StreamKind.video.padName stream.ssrc stream.pt := by
      rw [StreamAdded.event, kind]
    rw [addStream, RtpRelay.onRtpbinPadAdded, name, if_pos (videoName_begins _ _)] at added
    simp only [RtpRelay.createH264RecvChain] at added
    split at added
    · cases added
    · refine ⟨_, ?_, ?_, ?_, added⟩
      · simp [linkOf, kind, chains, StreamAdded.event]
      · simp [ofKind, kind, fakesinks]
      · rfl
  | audio =>
    have name : stream.event.name = StreamKind.audio.padName stream.ssrc stream.pt := by
      rw [StreamAdded.event, kind]
    rw [addStream, RtpRelay.onRtpbinPadAdded, name, if_neg (audioName_not_video _ _),
      if_pos (audioName_begins _ _)] at added
    simp only at added
    split at added
    · cases added
    · refine ⟨_, ?_, ?_, ?_, added⟩
      · simp [linkOf, kind, fakesinks, StreamAdded.event]
      · simp [ofKind, kind, fakesinks]
      · rfl

/-- A webrtc relay that is made takes the audio pad away from its fakesink, and no other link. -/
theorem maybeCreateWebrtcRelay_links {event : PadAdded}
    (created : pthis.maybeCreateWebrtcRelay event = some next) :
    next.fakesinks = pthis.fakesinks ∧
      ((next.webrtcRelay = pthis.webrtcRelay ∧ next.links = pthis.links) ∨
        ∃ config, pthis.webrtcRelay = none ∧ next.webrtcRelay = some config ∧
          next.links = pthis.links.filter fun link => link.1 ≠ config.audioRtpSrc) := by
  simp only [RtpRelay.maybeCreateWebrtcRelay] at created
  split at created
  · rename_i audio video _ _ fresh
    simp only [RtpRelay.webrtcRelayConfig] at created
    split at created
    · cases created
    · split at created
      · cases created
      · cases created
        refine ⟨rfl, .inr ⟨_, fresh, rfl, ?_⟩⟩
        -- Without a link of the audio pad, there is nothing to take away.
        dsimp only
        split
        · rfl
        · rename_i unlinked
          refine (List.filter_eq_self.mpr fun link member => ?_).symm
          simp only [ne_eq, decide_not, Bool.not_eq_true', decide_eq_false_iff_not]
          intro same
          exact unlinked (List.any_eq_true.mpr ⟨link, member, by simpa using same⟩)
  · cases created
    exact ⟨rfl, .inl ⟨rfl, rfl⟩⟩

end Handler

/-- The links for a list of streams that grew by one are the old ones and one more. -/
theorem linkOf_concat {streams : List StreamAdded} (stream : StreamAdded)
    (link : RelayPad × RelayPad) :
    (∃ other, TakenWhen (fun before => linkOf before other = link) other (streams ++ [stream])) ↔
      (∃ other, TakenWhen (fun before => linkOf before other = link) other streams) ∨
        link = linkOf streams stream := by
  simp only [takenWhen_concat, exists_or, exists_eq_left', eq_comm (a := link)]

/-- The audio pad of a relay's configuration is the pad of one of the streams. -/
theorem audioRtpSrc_of_first {first : List StreamAdded} {config : WebrtcRelayConfig}
    (audio : lastAudioSrc first = some config.audioRtpSrc) :
    ∃ stream, (ofKind .audio first).getLast? = some stream ∧ stream ∈ first ∧
      config.audioRtpSrc = .rtpbin stream.newPad := by
  obtain ⟨stream, last, same⟩ := Option.map_eq_some_iff.mp audio
  exact ⟨stream, last, (List.mem_filter.mp (List.mem_of_getLast? last)).1, same.symm⟩

/-- What is true of the relay after some streams were added, whose pads are all different. -/
structure StreamsHandled (streams : List StreamAdded) (pthis : RtpRelay) : Prop where
  holds : HoldsPads streams pthis
  settled : RelaySettled streams pthis
  linked : (streams.map StreamAdded.newPad).Nodup → Linked streams pthis

/-- Adding one more stream keeps the links as they should be. -/
theorem streamsHandled_step (streams : List StreamAdded) (pthis : RtpRelay) (stream : StreamAdded)
    (next : RtpRelay) (now : StreamsHandled streams pthis)
    (added : addStream pthis stream = some next) : StreamsHandled (streams ++ [stream]) next := by
  obtain ⟨holds, settled⟩ := addStream_step streams pthis stream next ⟨now.holds, now.settled⟩ added
  refine ⟨holds, settled, fun apart => ?_⟩
  rw [List.map_append, List.nodup_append] at apart
  obtain ⟨apart, _, fresh⟩ := apart
  have linked := now.linked apart
  obtain ⟨noted, links, fakesinks, sameRelay, created⟩ :=
    addStream_links now.holds.chains linked.fakesinks added
  obtain ⟨sameFakesinks, outcome⟩ := maybeCreateWebrtcRelay_links created
  refine ⟨sameFakesinks.trans fakesinks, fun link => ?_⟩
  rw [linkOf_concat]
  rcases outcome with ⟨relay, kept⟩ | ⟨config, none, relay, taken⟩
  · rw [relay, sameRelay, kept, links, List.mem_append, linked.links, List.mem_singleton]
    constructor
    · intro member
      rcases member with ⟨placed, other⟩ | rfl
      · exact ⟨.inl placed, other⟩
      · refine ⟨.inr rfl, fun config present same => ?_⟩
        -- The audio that is relayed came with an earlier stream.
        rcases now.settled with ⟨_, absent, _⟩ | ⟨first, other, completes, made, _, _, audio⟩
        · rw [absent] at present
          cases present
        · obtain rfl := Option.some.inj (made.symm.trans present)
          obtain ⟨earlier, _, member, pad⟩ := audioRtpSrc_of_first audio
          rw [pad] at same
          refine fresh earlier.newPad ?_ stream.newPad (by simp) ?_
          · exact List.mem_map_of_mem (completes.begins.subset member)
          · exact (RelayPad.rtpbin.inj same).symm
    · intro placed
      obtain ⟨placed | rfl, other⟩ := placed
      · exact .inl ⟨placed, other⟩
      · exact .inr rfl
  · -- Before the relay was made, every stream had its link.
    have before : ∀ link, link ∈ noted.links ↔ _ := fun link => by
      rw [links, List.mem_append, linked.links, List.mem_singleton]
    rw [taken, relay, List.mem_filter, before]
    rw [sameRelay] at none
    simp [none]

/-- There is one moment at which the pair becomes complete. -/
theorem Completes.unique {streams first other : List StreamAdded} (one : Completes streams first)
    (two : Completes streams other) : first = other := by
  -- A shorter one would have been complete without the last stream of the longer one.
  have shorter : ∀ {short long : List StreamAdded}, Completes streams short →
      Completes streams long → ¬ short.length < long.length := by
    intro short long small large less
    have begins : short <+: long.dropLast := by
      apply List.prefix_of_prefix_length_le small.begins
      · exact (List.dropLast_prefix long).trans large.begins
      · rw [List.length_dropLast]
        omega
    exact large.least (small.paired.mono begins)
  have same : first.length = other.length := by
    have notLess := shorter one two
    have notMore := shorter two one
    omega
  exact (List.prefix_of_prefix_length_le one.begins two.begins same.le).eq_of_length same

/-- A video stream is the last of a front part of the streams exactly if as many come before it. -/
theorem last_video_iff {streams before after first : List StreamAdded} {stream : StreamAdded}
    (apart : (streams.map StreamAdded.newPad).Nodup)
    (split : streams = before ++ stream :: after) (kind : stream.kind = .video)
    (begins : first <+: streams) :
    (ofKind .video first).getLast? = some stream ↔
      (ofKind .video first).length = (ofKind .video before).length + 1 := by
  have all : ofKind .video streams = ofKind .video before ++ stream :: ofKind .video after := by
    rw [split, ofKind, List.filter_append, List.filter_cons_of_pos (by simp [kind])]
    rfl
  have front : ofKind .video first <+: ofKind .video streams := begins.filter _
  have once : (ofKind .video streams).Nodup := (List.Nodup.of_map _ apart).filter _
  have place : (ofKind .video streams)[(ofKind .video before).length]? = some stream := by
    rw [all, List.getElem?_append_right (Nat.le_refl _), Nat.sub_self, List.getElem?_cons_zero]
  constructor
  · intro last
    have nonempty : ofKind .video first ≠ [] := by
      intro empty
      rw [empty] at last
      cases last
    have positive := List.length_pos_iff.mpr nonempty
    -- The last place of the front part holds the stream, and so does its own place.
    rw [List.getLast?_eq_getElem?] at last
    have there : (ofKind .video streams)[(ofKind .video first).length - 1]? = some stream := by
      rw [List.getElem?_eq_getElem (by omega)] at last
      rw [List.prefix_iff_getElem?.mp front _ (by omega)]
      exact last
    have inside := (List.getElem?_eq_some_iff.mp there).1
    have same := (List.getElem?_inj inside once).mp (there.trans place.symm)
    omega
  · intro counted
    rw [List.getLast?_eq_getElem?, List.getElem?_eq_getElem (by omega),
      ← List.prefix_iff_getElem?.mp front _ (by omega), ← place]
    congr 1
    omega

section Flow

variable {streams : List StreamAdded} {final : RtpRelay} {chained : Nat → Bool}
  {config : WebrtcRelayConfig} {chain pad : Nat} (linked : Linked streams final)
  (present : final.webrtcRelay = some config)
  (video : config.videoRtpSrc = .packetizerSrc chain) (audio : config.audioRtpSrc = .rtpbin pad)

include linked

/-- Every link starts at a pad of the rtpbin. -/
theorem src_of_link {src sink : RelayPad} (member : (src, sink) ∈ final.links) :
    ∃ number, src = .rtpbin number := by
  obtain ⟨⟨stream, before, after, _, same⟩, _⟩ := (linked.links _).mp member
  exact ⟨stream.newPad, (congrArg Prod.fst same).symm⟩

include present video audio

/-- Nothing comes out of a fakesink. -/
theorem fakesink_holds (fakesink : Nat) :
    ¬ Reaches (StreamWired chained final) (fun _ => True) (.pad (.fakesinkSink fakesink))
      .webrtcbin := by
  rw [Reaches.reaches_front_iff (by simp)]
  intro flow
  obtain ⟨_, next, wired, _⟩ := flow
  cases next with
  | pad sink =>
    rcases wired with member | ⟨_, src, _⟩
    · obtain ⟨_, src⟩ := src_of_link linked member
      cases src
    · cases src
  | webrtcbin =>
    -- The webrtcbin is linked to a packetizer and to a pad of the rtpbin.
    obtain ⟨other, made, src⟩ := wired
    obtain rfl := Option.some.inj (present.symm.trans made)
    rw [video, audio] at src
    rcases src with src | src <;> cases src

/-- From the end of a chain, packets come to the webrtcbin if it is the chain that was relayed. -/
theorem packetizer_relays_iff (number : Nat) :
    Reaches (StreamWired chained final) (fun _ => True) (.pad (.packetizerSrc number))
      .webrtcbin ↔ number = chain := by
  rw [Reaches.reaches_front_iff (by simp)]
  constructor
  · intro flow
    obtain ⟨_, next, wired, _⟩ := flow
    cases next with
    | pad sink =>
      -- A packetizer is linked by the webrtc relay alone.
      rcases wired with member | ⟨_, src, _⟩
      · obtain ⟨_, src⟩ := src_of_link linked member
        cases src
      · cases src
    | webrtcbin =>
      obtain ⟨other, made, src⟩ := wired
      obtain rfl := Option.some.inj (present.symm.trans made)
      rw [video, audio] at src
      rcases src with src | src
      · exact RelayPad.packetizerSrc.inj src
      · cases src
  · intro same
    exact ⟨trivial, .webrtcbin, ⟨config, present, .inl (by rw [video, same])⟩, .here _⟩

/-- From the beginning of a chain, they do so if the chain is linked, too. -/
theorem queue_relays_iff (number : Nat) :
    Reaches (StreamWired chained final) (fun _ => True) (.pad (.queueSink number)) .webrtcbin ↔
      chained number = true ∧ number = chain := by
  rw [Reaches.reaches_front_iff (by simp)]
  constructor
  · intro flow
    obtain ⟨_, next, wired, rest⟩ := flow
    cases next with
    | pad sink =>
      rcases wired with member | ⟨_, src, rfl, made⟩
      · obtain ⟨_, src⟩ := src_of_link linked member
        cases src
      · obtain rfl := RelayPad.queueSink.inj src
        exact ⟨made, (packetizer_relays_iff linked present video audio _).mp rest⟩
    | webrtcbin =>
      obtain ⟨other, made, src⟩ := wired
      obtain rfl := Option.some.inj (present.symm.trans made)
      rw [video, audio] at src
      rcases src with src | src <;> cases src
  · intro parts
    obtain ⟨made, same⟩ := parts
    exact ⟨trivial, .pad (.packetizerSrc number), .inr ⟨number, rfl, rfl, made⟩,
      (packetizer_relays_iff linked present video audio _).mpr same⟩

/-- From the pad of a stream, packets take its own link, or are relayed as the audio. -/
theorem stream_relays_iff (stream : StreamAdded) :
    Relayed chained final stream ↔
      stream.newPad = pad ∨ ∃ number, (.rtpbin stream.newPad, .queueSink number) ∈ final.links ∧
        chained number = true ∧ number = chain := by
  rw [Relayed, Reaches.reaches_front_iff (by simp)]
  constructor
  · intro flow
    obtain ⟨_, next, wired, rest⟩ := flow
    cases next with
    | pad sink =>
      rcases wired with member | ⟨_, src, _⟩
      · -- The link leads to a chain or to a fakesink.
        obtain ⟨⟨other, before, after, _, same⟩, _⟩ := (linked.links _).mp member
        have sinks := congrArg Prod.snd same
        simp only [linkOf] at sinks
        split at sinks
        · rw [← sinks] at member rest
          exact .inr ⟨_, member, (queue_relays_iff linked present video audio _).mp rest⟩
        · rw [← sinks] at rest
          exact absurd rest (fakesink_holds linked present video audio _)
      · cases src
    | webrtcbin =>
      obtain ⟨other, made, src⟩ := wired
      obtain rfl := Option.some.inj (present.symm.trans made)
      rw [video, audio] at src
      rcases src with src | src
      · cases src
      · exact .inl (RelayPad.rtpbin.inj src)
  · intro flow
    rcases flow with same | ⟨number, member, relays⟩
    · exact ⟨trivial, .webrtcbin, ⟨config, present, .inr (by rw [audio, same])⟩, .here _⟩
    · exact ⟨trivial, .pad (.queueSink number), .inl member,
        (queue_relays_iff linked present video audio number).mpr relays⟩

end Flow

/-- The video pad of a relay's configuration ends the last of the chains built so far. -/
theorem chain_of_lastVideoSrc {first : List StreamAdded} {pad : RelayPad}
    (video : lastVideoSrc first = some pad) :
    ∃ chain, (ofKind .video first).length = chain + 1 ∧ pad = .packetizerSrc chain := by
  rw [lastVideoSrc] at video
  split at video
  · cases video
  · rename_i chain counted
    exact ⟨chain, counted, (Option.some.inj video).symm⟩

/-- The last of the streams of a kind is a stream of that kind. -/
theorem mem_of_last {kind : StreamKind} {first : List StreamAdded} {stream : StreamAdded}
    (last : (ofKind kind first).getLast? = some stream) : stream ∈ first ∧ stream.kind = kind := by
  have member := List.mem_filter.mp (List.mem_of_getLast? last)
  exact ⟨member.1, by simpa using member.2⟩

/-- The link of a stream's pad was made when that stream was added. -/
theorem link_of_stream {streams : List StreamAdded} {final : RtpRelay} {stream : StreamAdded}
    {sink : RelayPad} (linked : Linked streams final)
    (apart : (streams.map StreamAdded.newPad).Nodup) (received : stream ∈ streams)
    (member : (.rtpbin stream.newPad, sink) ∈ final.links) :
    ∃ before after, streams = before ++ stream :: after ∧ (linkOf before stream).2 = sink := by
  obtain ⟨⟨other, before, after, split, same⟩, _⟩ := (linked.links _).mp member
  have there : other ∈ streams := by
    rw [split]
    exact List.mem_append_right before List.mem_cons_self
  -- No other stream has this pad.
  have pad := RelayPad.rtpbin.inj (congrArg Prod.fst same)
  obtain rfl := List.inj_on_of_nodup_map apart there received pad
  exact ⟨before, after, split, congrArg Prod.snd same⟩

/-- As long as there is no webrtc relay, nothing is relayed. -/
theorem not_relayed_without {final : RtpRelay} (absent : final.webrtcRelay = none)
    (chained : Nat → Bool) (stream : StreamAdded) : ¬ Relayed chained final stream := by
  intro flow
  rcases flow.last with same | ⟨before, _, _, wired⟩
  · cases same
  · cases before with
    | pad src =>
      obtain ⟨config, present, _⟩ := wired
      rw [absent] at present
      cases present
    | webrtcbin => exact wired

section Kinds

variable {streams first : List StreamAdded} {final : RtpRelay} {config : WebrtcRelayConfig}
  {chain : Nat} {stream last : StreamAdded} (linked : Linked streams final)
  (apart : (streams.map StreamAdded.newPad).Nodup) (present : final.webrtcRelay = some config)
  (video : config.videoRtpSrc = .packetizerSrc chain)
  (audio : config.audioRtpSrc = .rtpbin last.newPad) (received : stream ∈ streams)
  (lastReceived : last ∈ streams) (chained : Nat → Bool)

include linked apart present video audio received lastReceived

/-- Of the audio streams, only the one that the webrtcbin was linked to is relayed. -/
theorem audio_relayed_iff (kind : stream.kind = .audio) :
    Relayed chained final stream ↔ stream = last := by
  rw [stream_relays_iff linked present video audio]
  constructor
  · intro flow
    rcases flow with same | ⟨number, member, _⟩
    · exact List.inj_on_of_nodup_map apart received lastReceived same
    · -- No audio stream is linked to a chain.
      obtain ⟨before, _, _, sink⟩ := link_of_stream linked apart received member
      simp [linkOf, kind] at sink
  · intro same
    exact .inl (by rw [same])

/-- Of the video streams, only the one that began the relayed chain is. -/
theorem video_relayed_iff (kind : stream.kind = .video) (lastKind : last.kind = .audio)
    (begins : first <+: streams) (counted : (ofKind .video first).length = chain + 1) :
    Relayed chained final stream ↔
      (ofKind .video first).getLast? = some stream ∧ chained chain = true := by
  have different : stream ≠ last := by
    intro same
    rw [same, lastKind] at kind
    cases kind
  rw [stream_relays_iff linked present video audio]
  constructor
  · intro flow
    rcases flow with same | ⟨number, member, made, rfl⟩
    · exact absurd (List.inj_on_of_nodup_map apart received lastReceived same) different
    · -- The number of its chain tells how many video streams came before it.
      obtain ⟨before, after, split, sink⟩ := link_of_stream linked apart received member
      simp only [linkOf, kind, RelayPad.queueSink.injEq] at sink
      refine ⟨(last_video_iff apart split kind begins).mpr ?_, made⟩
      rw [counted, sink]
  · intro complete
    obtain ⟨isCurrent, made⟩ := complete
    obtain ⟨before, after, split⟩ := List.append_of_mem received
    have placed := (last_video_iff apart split kind begins).mp isCurrent
    have chainOf : (ofKind .video before).length = chain := by omega
    refine .inr ⟨chain, (linked.links _).mpr ⟨⟨stream, before, after, split, ?_⟩, ?_⟩, made, rfl⟩
    · simp [linkOf, kind, chainOf]
    · -- Its pad is not the audio pad of the configuration.
      intro other presentOther same
      obtain rfl := Option.some.inj (present.symm.trans presentOther)
      rw [audio] at same
      have samePad := RelayPad.rtpbin.inj same
      exact different (List.inj_on_of_nodup_map apart received lastReceived samePad)

end Kinds

/--
Of all the streams that a relay has received, exactly those come to the webrtcbin that were the last
of their kind when the pair became complete; the video also needs its chain to be linked.

So nothing is relayed before there is a stream of each kind, at most one stream of a kind ever is,
and one that comes or comes again later is not.
-/
theorem relayed_iff (audioCaps : Option RtpCaps) (streams : List StreamAdded) (final : RtpRelay)
    (ran : run addStream (.configured audioCaps) streams = some final)
    (apart : (streams.map StreamAdded.newPad).Nodup) (chained : Nat → Bool)
    (stream : StreamAdded) (received : stream ∈ streams) :
    Relayed chained final stream ↔
      ∃ first, Completes streams first ∧ (ofKind stream.kind first).getLast? = some stream ∧
        (stream.kind = .video → chained ((ofKind .video first).length - 1) = true) := by
  have initial : StreamsHandled [] (.configured audioCaps) :=
    ⟨⟨rfl, rfl, rfl⟩, .inl ⟨by simp [Paired], rfl, rfl⟩,
      fun _ => ⟨rfl, by simp [RtpRelay.configured, TakenWhen]⟩⟩
  have handled : StreamsHandled streams final :=
    run_history_invariant StreamsHandled streamsHandled_step initial ran
  have linked := handled.linked apart
  rcases handled.settled with ⟨unpaired, absent, _⟩ |
      ⟨first, config, completes, present, _, video, audio⟩
  · refine iff_of_false (not_relayed_without absent chained stream) fun complete => ?_
    obtain ⟨first, completes, _⟩ := complete
    exact unpaired (completes.paired.mono completes.begins)
  · obtain ⟨last, isLast, _, audioPad⟩ := audioRtpSrc_of_first audio
    obtain ⟨chain, counted, videoChain⟩ := chain_of_lastVideoSrc video
    -- The pair became complete at one moment only.
    have moment : (∃ other, Completes streams other ∧
        (ofKind stream.kind other).getLast? = some stream ∧
        (stream.kind = .video → chained ((ofKind .video other).length - 1) = true)) ↔
      (ofKind stream.kind first).getLast? = some stream ∧
        (stream.kind = .video → chained chain = true) := by
      constructor
      · intro complete
        obtain ⟨other, completesOther, rest⟩ := complete
        obtain rfl := completes.unique completesOther
        rwa [counted, Nat.add_sub_cancel] at rest
      · intro rest
        refine ⟨first, completes, ?_⟩
        rwa [counted, Nat.add_sub_cancel]
    rw [moment]
    have lastReceived : last ∈ streams := completes.begins.subset (mem_of_last isLast).1
    have lastKind : last.kind = .audio := (mem_of_last isLast).2
    cases kind : stream.kind with
    | audio =>
      rw [audio_relayed_iff linked apart present videoChain audioPad received lastReceived chained
        kind, isLast]
      simp only [Option.some.injEq, reduceCtorEq, false_implies, and_true]
      exact eq_comm
    | video =>
      rw [video_relayed_iff linked apart present videoChain audioPad received lastReceived chained
        kind lastKind completes.begins counted]
      simp

/-- Of three streams, the video that comes first is relayed, and the one that reappears is not. -/
theorem videoReappears_not_relayed :
    ∃ final, run addStream (.configured none) videoReappears = some final ∧
      Relayed (fun _ => true) final (linkedStream .video 11 0) ∧
      ¬ Relayed (fun _ => true) final (linkedStream .video 33 2) := by
  obtain ⟨final, ran, _⟩ : ∃ final, run addStream (.configured none) videoReappears = some final ∧
      final.webrtcRelay.isSome = true := run_ends (by decide)
  have relayed := relayed_iff none videoReappears final ran (by decide) fun _ => true
  -- The pair became complete with the second stream.
  have both : Paired (videoReappears.take 2) :=
    ⟨⟨linkedStream .video 11 0, by decide, rfl⟩, linkedStream .audio 22 1, by decide, rfl⟩
  have one : ¬ Paired (videoReappears.take 2).dropLast := by
    simp [Paired, videoReappears, linkedStream]
  have second : Completes videoReappears (videoReappears.take 2) :=
    ⟨List.take_prefix _ _, both, one⟩
  refine ⟨final, ran, ?_, fun again => ?_⟩
  · exact (relayed (linkedStream .video 11 0) (by decide)).mpr
      ⟨_, second, by decide, fun _ => rfl⟩
  · obtain ⟨first, completes, last, _⟩ :=
      (relayed (linkedStream .video 33 2) (by decide)).mp again
    obtain rfl := second.unique completes
    exact absurd last (by decide)

end Ichabod
