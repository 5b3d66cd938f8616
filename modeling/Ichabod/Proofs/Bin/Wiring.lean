import Ichabod.Proofs.Bin.Attach
import Ichabod.Proofs.Bin.Preroll
import Ichabod.Proofs.Relay.Endpoints

/-! Which links are in the pipeline, by what its calls were given and what they returned. -/

namespace Ichabod

open Interleaving Preroll

/-- The output that an action attaches, if it does. -/
def PrerollAction.output : PrerollAction → Option Attachment
  | .attachOutput attachment => some attachment
  | _ => none

/-- The relay that an action attaches, if it does. -/
def PrerollAction.relay : PrerollAction → Option RtpAttachment
  | .attachRelay attachment => some attachment
  | _ => none

/-- The file and RTMP outputs that a run attaches, in order. -/
def outputsOf (actions : List PrerollAction) : List Attachment :=
  actions.filterMap PrerollAction.output

/-- The RTP relays that a run attaches, in order. -/
def relaysOf (actions : List PrerollAction) : List RtpAttachment :=
  actions.filterMap PrerollAction.relay

section Sources

variable (made : Nat → Bool) (outputs : List Attachment) (relays : List RtpAttachment)

/-- The attachment of an output has made the given link. -/
def OutputMade (output : Nat) (link : OutputLink) : Prop :=
  ∃ attachment, outputs[output]? = some attachment ∧ attachment.makes link = true

/-- A relay sends what it is given. -/
def RelaySends (relay : Nat) : Prop :=
  ∃ attachment, relays[relay]? = some attachment ∧ attachment.config.sendEnabled = true

/-- A relay sends, and its encoder is linked to its payloader. -/
def RelayEncodes (relay : Nat) : Prop :=
  ∃ attachment, relays[relay]? = some attachment ∧ attachment.config.sendEnabled = true ∧
    attachment.encoded = true

/-- The links into an element that `setup_bin` makes. -/
def SetupWired (source : Element) : Element → Prop
  | .mqueueSrc .video => source = .vsource ∧ made 0 = true
  | .imgdec => source = .mqueueSrc .video ∧ made 1 = true
  | .vfps => source = .imgdec ∧ made 2 = true
  | .venc => source = .vfps ∧ made 3 = true
  | .videoOutValve => source = .venc ∧ made 4 = true
  -- A link in the middle of a chain needs the ones in front of it.
  | .videoTee => source = .videoOutValve ∧ made 4 = true ∧ made 5 = true
  | .mqueueSrc .audio => source = .asource ∧ made 6 = true
  | .aconv => source = .mqueueSrc .audio ∧ made 7 = true
  | .afps => source = .aconv ∧ made 8 = true
  | .audioRawTee => source = .afps ∧ made 9 = true
  | .aenc => source = .audioRawTee ∧ made 9 = true ∧ made 10 = true
  | .audioOutValve => source = .aenc ∧ made 9 = true ∧ made 10 = true ∧ made 11 = true
  | .audioEncTee =>
    source = .audioOutValve ∧ made 9 = true ∧ made 10 = true ∧ made 11 = true ∧ made 12 = true
  | _ => False

/-- The links into an element that the attached outputs have made. -/
def OutputWired (source : Element) : Element → Prop
  | .mqueue output .audio => source = .audioEncTee ∧ OutputMade outputs output .audioTeeToQueue
  | .mqueue output .video => source = .videoTee ∧ OutputMade outputs output .videoTeeToQueue
  | .mux output =>
    (source = .mqueue output .audio ∧ OutputMade outputs output .queueToAudioMux) ∨
      (source = .mqueue output .video ∧ OutputMade outputs output .queueToVideoMux)
  | .sink output => source = .mux output ∧ OutputMade outputs output .muxToSink
  | _ => False

/-- The links into an element that the attached relays have made. -/
def RelayWired (source : Element) : Element → Prop
  | .vencQueue relay => source = .videoTee ∧ RelaySends relays relay
  | .h264Pay relay => source = .vencQueue relay ∧ RelaySends relays relay
  | .arawQueue relay => source = .audioRawTee ∧ RelaySends relays relay
  | .opusEnc relay => source = .arawQueue relay ∧ RelaySends relays relay
  | .opusPay relay => source = .opusEnc relay ∧ RelayEncodes relays relay
  | .rtpSession relay .video => source = .h264Pay relay ∧ RelaySends relays relay
  | .rtpSession relay .audio => source = .opusPay relay ∧ RelaySends relays relay
  | .udpSink relay number =>
    (number = 0 ∧ source = .rtpSession relay .video ∧ RelaySends relays relay) ∨
      (number = 2 ∧ source = .rtpSession relay .audio ∧ RelaySends relays relay)
  | _ => False

/-- All links of the pipeline. -/
def Wired (source target : Element) : Prop :=
  SetupWired made source target ∨ OutputWired outputs source target ∨
    RelayWired relays source target

end Sources

/-- A link call adds its link if it succeeds. -/
theorem mem_gstLink {made : Bool} {source target : Element} {link : ElementLink} :
    link ∈ gstLink made source target ↔ made = true ∧ link = (source, target) := by
  cases made <;> simp [gstLink]

/-- A chain of link calls adds its first link, and goes on, if that call succeeds. -/
theorem mem_gstElementLinkMany {made : Nat → Bool} {call : Nat} {source target : Element}
    {rest : List Element} {link : ElementLink} :
    link ∈ gstElementLinkMany made call (source :: target :: rest) ↔ made call = true ∧
      (link = (source, target) ∨ link ∈ gstElementLinkMany made (call + 1) (target :: rest)) := by
  rw [gstElementLinkMany]
  cases made call <;> simp

/-- A chain of one element has no links. -/
theorem gstElementLinkMany_single (made : Nat → Bool) (call : Nat) (last : Element) :
    gstElementLinkMany made call [last] = [] := by
  rw [gstElementLinkMany]
  simp

/-- The links of a bin that could be allocated. -/
theorem mem_setupBin {created : Element → Bool} {made : Nat → Bool}
    {setupLinks : List ElementLink} (setUp : setupBin created made = some setupLinks)
    (source target : Element) : (source, target) ∈ setupLinks ↔ SetupWired made source target := by
  -- No assertion has failed, so all link calls have been made.
  unfold setupBin at setUp
  split at setUp
  · cases setUp
  · split at setUp
    · cases setUp
    · obtain rfl := Option.some.inj setUp
      simp only [List.mem_append, mem_gstLink, mem_gstElementLinkMany,
        gstElementLinkMany_single, List.not_mem_nil, or_false, Prod.mk.injEq]
      cases target with
      | mqueueSrc stream => cases stream <;> simp [SetupWired, and_comm]
      | _ => simp [SetupWired, and_comm, and_left_comm]

section Relays

open RelayEndpoints

variable {linkRet : Nat → Int32} {config : RtpRelayConfig} {pthis next : RelayEndpoints}

/-- In front of the sending part, there is no link for what is sent. -/
theorem sendLinks_received (before : BeforeSending config pthis) (relay : Nat) :
    pthis.sendLinks relay = [] := by
  rw [sendLinks, List.filterMap_eq_nil_iff]
  intro link member
  obtain ⟨number, src⟩ := before.links link member
  simp [src, UdpPad.sendElement]

/-- A sending part adds one link behind each of the two sessions. -/
theorem configureSend_sends (configured : pthis.configureSend linkRet config = some next)
    (none : pthis.udpSinks = []) (relay : Nat) :
    next.sendLinks relay = pthis.sendLinks relay ++
      [(.rtpSession relay .video, .udpSink relay 0),
        (.rtpSession relay .audio, .udpSink relay 2)] := by
  obtain ⟨_, _, _, links⟩ := configureSend_linked configured
  have videoRtp : (sendSrcPad .video .rtp).sendElement relay = some (.rtpSession relay .video) :=
    rfl
  have videoRtcp : (sendSrcPad .video .rtcp).sendElement relay = .none := rfl
  have audioRtp : (sendSrcPad .audio .rtp).sendElement relay = some (.rtpSession relay .audio) :=
    rfl
  have audioRtcp : (sendSrcPad .audio .rtcp).sendElement relay = .none := rfl
  have sink : ∀ number, (UdpPad.udpSink number).sendElement relay = some (.udpSink relay number) :=
    fun number => rfl
  -- The pads for reports carry no media.
  simp [sendLinks, links, none, List.filterMap_append, videoRtp, videoRtcp, audioRtp, audioRtcp,
    sink]

/-- A relay has links for what it sends only if it is to send. -/
theorem rtpRelayConfig_sends {bound : Nat → Bool} {final : RelayEndpoints}
    (configured : rtpRelayConfig bound linkRet config = some final) (relay : Nat) :
    if config.sendEnabled then
      final.videoSendRtpSink = some (.literal "send_rtp_sink_0") ∧
        final.audioSendRtpSink = some (.literal "send_rtp_sink_1") ∧
        final.sendLinks relay =
          [(.rtpSession relay .video, .udpSink relay 0),
            (.rtpSession relay .audio, .udpSink relay 2)]
    else final.sendLinks relay = [] := by
  obtain ⟨sockets, received, _, receiving, sending⟩ := rtpRelayConfig_parts configured
  obtain ⟨_, before⟩ := received_of_part receiving
  have unsent := sendLinks_received before relay
  cases send : config.sendEnabled with
  | true =>
    rw [send, if_pos rfl] at sending
    obtain ⟨videoPad, audioPad, _⟩ := configureSend_pads sending
    have links := configureSend_sends sending before.sinks relay
    rw [unsent] at links
    exact ⟨videoPad, audioPad, links⟩
  | false =>
    rw [send, if_neg (by simp)] at sending
    obtain rfl := Option.some.inj sending
    exact unsent

/-- A pad link that passes its assertion is there. -/
theorem assertLinked_eq {link : GstPadLinkReturn} {source target : Element}
    {links : List ElementLink} (linked : assertLinked link source target = some links) :
    links = [(source, target)] := by
  unfold assertLinked at linked
  split at linked
  · cases linked
  · exact (Option.some.inj linked).symm

/-- The queue behind the video tee, which its caller is given, is linked to it. -/
theorem createVideoSrc_links {relay : Nat} {caps : List CString} {ret : GstPadLinkReturn}
    {src : Element} {links : List ElementLink}
    (created : createVideoSrc relay caps ret = some (src, links)) :
    src = .vencQueue relay ∧ links = [(.videoTee, .vencQueue relay)] := by
  unfold createVideoSrc at created
  split at created
  · cases created
  · simp only [Option.bind_eq_bind, Option.bind_eq_some_iff, Option.some.injEq,
      Prod.mk.injEq] at created
    obtain ⟨_, linked, rfl, rfl⟩ := created
    exact ⟨rfl, assertLinked_eq linked⟩

/-- The queue behind the raw audio tee, which its caller is given, is linked to it. -/
theorem createAudioSrc_links {relay : Nat} {caps : List CString} {ret : GstPadLinkReturn}
    {src : Element} {links : List ElementLink}
    (created : createAudioSrc relay caps ret = some (src, links)) :
    src = .arawQueue relay ∧ links = [(.audioRawTee, .arawQueue relay)] := by
  unfold createAudioSrc at created
  split at created
  · cases created
  · simp only [Option.bind_eq_bind, Option.bind_eq_some_iff, Option.some.injEq,
      Prod.mk.injEq] at created
    obtain ⟨_, linked, rfl, rfl⟩ := created
    exact ⟨rfl, assertLinked_eq linked⟩

/-- The payloader of the video is linked on both sides. -/
theorem setSendVideoSrc_links {relay : Nat} {videoSrc : Element}
    {payRet ghostRet : GstPadLinkReturn} {links : List ElementLink}
    (pad : pthis.videoSendRtpSink = some (.literal "send_rtp_sink_0"))
    (sent : setSendVideoSrc relay pthis videoSrc payRet ghostRet = some links) :
    links = [(.h264Pay relay, .rtpSession relay .video), (videoSrc, .h264Pay relay)] := by
  have session : sendSession (.literal "send_rtp_sink_0") = some .video := by decide
  simp only [setSendVideoSrc, pad, Option.bind_some, session, Option.bind_eq_bind,
    Option.bind_eq_some_iff, Option.some.injEq] at sent
  obtain ⟨payLinks, paid, ghostLinks, given, rfl⟩ := sent
  rw [assertLinked_eq paid, assertLinked_eq given]
  rfl

/-- The payloader of the audio is linked behind, and its encoder in front. -/
theorem setSendAudioSrc_links {relay : Nat} {audioSrc : Element} {encoded : Bool}
    {payRet ghostRet : GstPadLinkReturn} {links : List ElementLink}
    (pad : pthis.audioSendRtpSink = some (.literal "send_rtp_sink_1"))
    (sent : setSendAudioSrc relay pthis audioSrc encoded payRet ghostRet = some links) :
    links = gstLink encoded (.opusEnc relay) (.opusPay relay) ++
      [(.opusPay relay, .rtpSession relay .audio), (audioSrc, .opusEnc relay)] := by
  have session : sendSession (.literal "send_rtp_sink_1") = some .audio := by decide
  simp only [setSendAudioSrc, pad, Option.bind_some, session, Option.bind_eq_bind,
    Option.bind_eq_some_iff, Option.some.injEq] at sent
  obtain ⟨payLinks, paid, ghostLinks, given, rfl⟩ := sent
  rw [assertLinked_eq paid, assertLinked_eq given, List.append_assoc]
  rfl

/-- The links that the attachment of a relay makes for what is sent. -/
def RelayLinked (relay : Nat) (attachment : RtpAttachment) (source target : Element) : Prop :=
  attachment.config.sendEnabled = true ∧
    ((source, target) ∈ [(.videoTee, .vencQueue relay), (.vencQueue relay, .h264Pay relay),
        (.h264Pay relay, .rtpSession relay .video), (.rtpSession relay .video, .udpSink relay 0),
        (.audioRawTee, .arawQueue relay), (.arawQueue relay, .opusEnc relay),
        (.opusPay relay, .rtpSession relay .audio),
        (Element.rtpSession relay .audio, Element.udpSink relay 2)] ∨
      -- This is the link that nobody checks.
      (attachment.encoded = true ∧ (source, target) = (.opusEnc relay, .opusPay relay)))

/-- The links of a relay that could be attached. -/
theorem mem_attachRtp {relay : Nat} {attachment : RtpAttachment} {links : List ElementLink}
    (called : attachRtp relay attachment = some links) (source target : Element) :
    (source, target) ∈ links ↔ RelayLinked relay attachment source target := by
  simp only [attachRtp, Option.bind_eq_bind, Option.bind_eq_some_iff] at called
  obtain ⟨endpoints, configured, connected⟩ := called
  have sends := rtpRelayConfig_sends configured relay
  cases send : attachment.config.sendEnabled with
  | true =>
    rw [send, if_pos rfl] at sends
    obtain ⟨videoPad, audioPad, sendLinks⟩ := sends
    -- Every function that connects the relay returns.
    simp only [send, if_true, connectRelay, Option.bind_eq_bind, Option.bind_eq_some_iff,
      Option.some.injEq, Prod.exists] at connected
    obtain ⟨all, ⟨videoSrc, videoTeeLinks, videoCreated, videoLinks, videoSent, audioSrc,
      audioTeeLinks, audioCreated, audioLinks, audioSent, rfl⟩, rfl⟩ := connected
    obtain ⟨rfl, rfl⟩ := createVideoSrc_links videoCreated
    obtain ⟨rfl, rfl⟩ := createAudioSrc_links audioCreated
    rw [sendLinks, setSendVideoSrc_links videoPad videoSent,
      setSendAudioSrc_links audioPad audioSent]
    simp only [RelayLinked, send, List.mem_append, mem_gstLink, List.mem_cons, List.not_mem_nil,
      or_false, true_and]
    constructor
    · intro either
      tauto
    · intro either
      tauto
  | false =>
    rw [send, if_neg (by simp)] at sends
    simp only [send, Bool.false_eq_true, if_false, Option.bind_some, Option.some.injEq]
      at connected
    rw [← connected, sends]
    simp [RelayLinked, send]

end Relays

/-- What the pipeline has come to by the calls so far. -/
structure Attached (setupLinks : List ElementLink) (past : List PrerollAction)
    (s : Preroll) : Prop where
  setup : s.pipeline.setupLinks = setupLinks
  outputs : s.pipeline.bin.returns.length = (outputsOf past).length
  made : ∀ output link,
    (output, link) ∈ s.pipeline.bin.links ↔ OutputMade (outputsOf past) output link
  relays : s.pipeline.relays.length = (relaysOf past).length
  sends : ∀ relay : Nat,
    s.pipeline.relays[relay]? = (relaysOf past)[relay]?.bind (attachRtp relay)

section Runs

variable {created : Element → Bool} {made : Nat → Bool} {setupLinks : List ElementLink}
  {past actions : List PrerollAction} {action : PrerollAction} {s t final : Preroll}

/-- An attachment behind the others makes its own links only. -/
theorem outputMade_append {outputs : List Attachment} {attachment : Attachment} {output : Nat}
    {link : OutputLink} :
    OutputMade (outputs ++ [attachment]) output link ↔ OutputMade outputs output link ∨
      (output = outputs.length ∧ attachment.makes link = true) := by
  -- The output is one of the earlier ones, or the one behind them.
  rcases Nat.lt_trichotomy output outputs.length with earlier | rfl | later
  · simp [OutputMade, List.getElem?_append_left earlier, Nat.ne_of_lt earlier]
  · simp [OutputMade]
  · simp only [OutputMade, List.getElem?_append_right (Nat.le_of_lt later),
      List.getElem?_eq_none (Nat.le_of_lt later), List.getElem?_singleton]
    simp [Nat.ne_of_gt later, Nat.sub_ne_zero_of_lt later]

/-- Every step brings the pipeline up to date with the calls. -/
theorem attached_step (attached : Attached setupLinks past s)
    (trans : PrerollTransition s action t) : Attached setupLinks (past ++ [action]) t := by
  -- A step that attaches nothing leaves both lists of calls alone.
  have probes : ∀ action : PrerollAction, action.output = none → action.relay = none →
      Attached setupLinks (past ++ [action]) s := by
    intro action noOutput noRelay
    have outputs : outputsOf (past ++ [action]) = outputsOf past := by
      simp [outputsOf, noOutput]
    have relays : relaysOf (past ++ [action]) = relaysOf past := by
      simp [relaysOf, noRelay]
    constructor
    · exact attached.setup
    · rw [outputs]
      exact attached.outputs
    · rw [outputs]
      exact attached.made
    · rw [relays]
      exact attached.relays
    · rw [relays]
      exact attached.sends
  cases trans with
  | attachOutput attachment bin called =>
    obtain ⟨returns, links, _⟩ := attach_makes called
    have outputs : outputsOf (past ++ [.attachOutput attachment]) =
        outputsOf past ++ [attachment] := by
      simp [outputsOf, PrerollAction.output]
    have relays : relaysOf (past ++ [.attachOutput attachment]) = relaysOf past := by
      simp [relaysOf, PrerollAction.relay]
    constructor
    · exact attached.setup
    · rw [outputs, returns, List.length_append, List.length_append, attached.outputs]
      rfl
    · intro output link
      rw [outputs, outputMade_append, links, attached.made, attached.outputs]
    · rw [relays]
      exact attached.relays
    · rw [relays]
      exact attached.sends
  | attachRelay attachment links called =>
    have outputs : outputsOf (past ++ [.attachRelay attachment]) = outputsOf past := by
      simp [outputsOf, PrerollAction.output]
    have relays : relaysOf (past ++ [.attachRelay attachment]) =
        relaysOf past ++ [attachment] := by
      simp [relaysOf, PrerollAction.relay]
    constructor
    · exact attached.setup
    · rw [outputs]
      exact attached.outputs
    · rw [outputs]
      exact attached.made
    · rw [relays, List.length_append, List.length_append, attached.relays]
      rfl
    · intro relay
      rw [relays]
      -- The new relay stands behind the others, in both lists.
      rcases Nat.lt_trichotomy relay s.pipeline.relays.length with earlier | rfl | later
      · rw [List.getElem?_append_left earlier,
          List.getElem?_append_left (attached.relays ▸ earlier)]
        exact attached.sends relay
      · have behind : (relaysOf past ++ [attachment])[s.pipeline.relays.length]? =
            some attachment := by
          rw [attached.relays]
          simp
        rw [behind, Option.bind_some, called]
        simp
      · have outside : (s.pipeline.relays ++ [links]).length ≤ relay := by
          rw [List.length_append]
          exact later
        have beyond : (relaysOf past ++ [attachment]).length ≤ relay := by
          rw [List.length_append, ← attached.relays]
          exact later
        rw [List.getElem?_eq_none outside, List.getElem?_eq_none beyond]
        rfl
  | buffer source stands =>
    have same := probes (.buffer source) rfl rfl
    exact ⟨same.setup, same.outputs, same.made, same.relays, same.sends⟩
  | lock source | mark source | pass source | fail source | request source | openVideo source
  | openAudio source | unlock source =>
    have same := probes (.probe source) rfl rfl
    exact ⟨same.setup, same.outputs, same.made, same.relays, same.sends⟩

/-- What is attached is right after every run. -/
theorem attached_run (ran : run Preroll.step (alloc setupLinks) actions = some final) :
    Attached setupLinks actions final := by
  have start : Attached setupLinks [] (alloc setupLinks) := by
    constructor <;> simp [alloc, IchabodBin.alloc, outputsOf, relaysOf, OutputMade]
  have kept := run_history_invariant (Attached setupLinks)
    (fun past state action next now taken =>
      attached_step now (step_prerollTransition taken)) start ran
  simpa using kept

/-- The links of all relays are the ones of the calls that attached them. -/
theorem mem_relays_iff (attached : Attached setupLinks past s) (source target : Element) :
    (source, target) ∈ s.pipeline.relays.flatten ↔
      RelayWired (relaysOf past) source target := by
  have called : ∀ (relay : Nat) (attachment : RtpAttachment),
      (relaysOf past)[relay]? = some attachment → ∃ links,
        s.pipeline.relays[relay]? = some links ∧ attachRtp relay attachment = some links := by
    intro relay attachment given
    have inside : relay < s.pipeline.relays.length := by
      rw [attached.relays]
      exact (List.getElem?_eq_some_iff.mp given).1
    have here := List.getElem?_eq_getElem inside
    refine ⟨_, here, ?_⟩
    rw [← here, attached.sends relay, given, Option.bind_some]
  -- A link is looked up by the number of its relay.
  have there : (source, target) ∈ s.pipeline.relays.flatten ↔
      ∃ (relay : Nat) (attachment : RtpAttachment) (links : List ElementLink),
        (relaysOf past)[relay]? = some attachment ∧ attachRtp relay attachment = some links ∧
          (source, target) ∈ links := by
    rw [List.mem_flatten]
    constructor
    · intro found
      obtain ⟨links, member, inside⟩ := found
      obtain ⟨relay, here⟩ := List.mem_iff_getElem?.mp member
      obtain ⟨attachment, given, called⟩ :=
        Option.bind_eq_some_iff.mp ((attached.sends relay).symm.trans here)
      exact ⟨relay, attachment, links, given, called, inside⟩
    · intro found
      obtain ⟨relay, attachment, links, given, linked, inside⟩ := found
      obtain ⟨same, here, also⟩ := called relay attachment given
      obtain rfl := Option.some.inj (linked.symm.trans also)
      exact ⟨links, List.mem_of_getElem? here, inside⟩
  have numbered : (source, target) ∈ s.pipeline.relays.flatten ↔
      ∃ (relay : Nat) (attachment : RtpAttachment), (relaysOf past)[relay]? = some attachment ∧
        RelayLinked relay attachment source target := by
    rw [there]
    refine exists_congr fun relay => exists_congr fun attachment => ?_
    constructor
    · intro found
      obtain ⟨links, given, linked, inside⟩ := found
      exact ⟨given, (mem_attachRtp linked source target).mp inside⟩
    · intro found
      obtain ⟨given, linked⟩ := found
      obtain ⟨links, _, made⟩ := called relay attachment given
      exact ⟨links, given, made, (mem_attachRtp made source target).mpr linked⟩
  rw [numbered]
  -- The number of the relay is the one that the target names.
  cases target with
  | rtpSession relay session =>
    cases session <;> simp [RelayLinked, RelayWired, RelaySends] <;> grind
  | _ => simp [RelayLinked, RelayWired, RelaySends, RelayEncodes] <;> grind

/-- The links of all outputs are the ones of the calls that attached them. -/
theorem mem_outputs_iff (attached : Attached setupLinks past s) (source target : Element) :
    (source, target) ∈ s.pipeline.bin.links.map (fun (output, link) => link.ends output) ↔
      OutputWired (outputsOf past) source target := by
  have numbered : (source, target) ∈
      s.pipeline.bin.links.map (fun (output, link) => link.ends output) ↔
      ∃ output link, OutputMade (outputsOf past) output link ∧
        link.ends output = (source, target) := by
    simp only [List.mem_map, Prod.exists, attached.made]
  rw [numbered]
  constructor
  · intro found
    obtain ⟨output, link, made, ends⟩ := found
    cases link <;> cases ends <;> simp [OutputWired, made]
  · intro wired
    unfold OutputWired at wired
    split at wired
    · exact ⟨_, .audioTeeToQueue, wired.2, by rw [wired.1]; rfl⟩
    · exact ⟨_, .videoTeeToQueue, wired.2, by rw [wired.1]; rfl⟩
    · rcases wired with wired | wired
      · exact ⟨_, .queueToAudioMux, wired.2, by rw [wired.1]; rfl⟩
      · exact ⟨_, .queueToVideoMux, wired.2, by rw [wired.1]; rfl⟩
    · exact ⟨_, .muxToSink, wired.2, by rw [wired.1]; rfl⟩
    · exact wired.elim

/-- The links of the pipeline are what its calls have made of it, in every state of a run. -/
theorem mem_links_iff (setUp : setupBin created made = some setupLinks)
    (ran : run Preroll.step (alloc setupLinks) actions = some final) (source target : Element) :
    (source, target) ∈ final.pipeline.links ↔
      Wired made (outputsOf actions) (relaysOf actions) source target := by
  have attached := attached_run ran
  rw [IchabodPipeline.links, List.mem_append, List.mem_append, attached.setup,
    mem_setupBin setUp, mem_outputs_iff attached, mem_relays_iff attached, or_assoc]
  rfl

end Runs

end Ichabod
