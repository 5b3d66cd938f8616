import Ichabod.Bin.Attach
import Ichabod.Relay.RtpConfig

/-! The elements of the pipeline, and the links that are made between them. -/

namespace Ichabod

/-- The two live sources, each with its own chain of elements. -/
inductive MediaSource where
  | audio
  | video
deriving DecidableEq

/-- An element that media goes through, where a multiqueue has one entry for each of its streams. -/
inductive Element where
  | vsource
  | imgdec
  | vfps
  | venc
  | videoOutValve
  | videoTee
  | asource
  | aconv
  | afps
  | audioRawTee
  | aenc
  | audioOutValve
  | audioEncTee
  /-- Stream zero carries the video, and stream one the audio. -/
  | mqueueSrc (stream : MediaSource)
  /-- The multiqueue of an output. -/
  | mqueue (output : Nat) (stream : MediaSource)
  | mux (output : Nat)
  | sink (output : Nat)
  /-- The queue behind the video tee that a relay is given. -/
  | vencQueue (relay : Nat)
  | h264Pay (relay : Nat)
  /-- The queue behind the raw audio tee that a relay is given. -/
  | arawQueue (relay : Nat)
  | opusEnc (relay : Nat)
  | opusPay (relay : Nat)
  /-- A session of a relay's rtpbin, zero for the video and one for the audio. -/
  | rtpSession (relay : Nat) (session : MediaSource)
  /-- A udpsink of a relay, by the order of creation. -/
  | udpSink (relay number : Nat)
deriving DecidableEq

/-- A link between two elements, source first. -/
abbrev ElementLink := Element × Element

/-- A link call of which the result decides whether the link is there. -/
def gstLink (made : Bool) (source target : Element) : List ElementLink :=
  if made then [(source, target)] else []

/-- `gst_element_link_many`, which stops at the first link that fails. -/
def gstElementLinkMany (made : Nat → Bool) : Nat → List Element → List ElementLink
  | call, source :: target :: rest =>
    if made call then (source, target) :: gstElementLinkMany made (call + 1) (target :: rest)
    else []
  | _, _ => []

/--
The links of `setup_bin`, or no result if `ichabod_bin_alloc` fails its assertion.

The results of the link calls are numbered in order, and none of them is looked at.
-/
def setupBin (created : Element → Bool) (made : Nat → Bool) : Option (List ElementLink) :=
  if !created .vsource || !created .imgdec || !created .venc then none
  else if !created .asource || !created .aconv || !created .aenc then none
  else
    -- The video element chain comes first.
    some (gstLink (made 0) .vsource (.mqueueSrc .video) ++
      gstLink (made 1) (.mqueueSrc .video) .imgdec ++
      gstLink (made 2) .imgdec .vfps ++
      gstLink (made 3) .vfps .venc ++
      gstElementLinkMany made 4 [.venc, .videoOutValve, .videoTee] ++
      gstLink (made 6) .asource (.mqueueSrc .audio) ++
      gstLink (made 7) (.mqueueSrc .audio) .aconv ++
      gstLink (made 8) .aconv .afps ++
      gstElementLinkMany made 9 [.afps, .audioRawTee, .aenc, .audioOutValve, .audioEncTee])

/-- The elements that a link of an output connects. -/
def OutputLink.ends (output : Nat) : OutputLink → ElementLink
  | .audioTeeToQueue => (.audioEncTee, .mqueue output .audio)
  | .queueToAudioMux => (.mqueue output .audio, .mux output)
  | .videoTeeToQueue => (.videoTee, .mqueue output .video)
  | .queueToVideoMux => (.mqueue output .video, .mux output)
  | .muxToSink => (.mux output, .sink output)

/-- The session that a pad for sending belongs to. -/
def sendSession (pad : CString) : Option MediaSource :=
  -- The number at the end of the name is the number of the session.
  if pad = .literal "send_rtp_sink_0" ∨ pad = .literal "send_rtp_src_0" then some .video
  else if pad = .literal "send_rtp_sink_1" ∨ pad = .literal "send_rtp_src_1" then some .audio
  else none

/-- The element that a pad of a relay belongs to, as far as media is sent through it. -/
def UdpPad.sendElement (relay : Nat) : UdpPad → Option Element
  | .rtpbin name => (sendSession name).map (.rtpSession relay)
  | .udpSink number => some (.udpSink relay number)
  | .udpSrc _ => none

/-- The links of a configured relay that carry the media it sends. -/
def RelayEndpoints.sendLinks (pthis : RelayEndpoints) (relay : Nat) : List ElementLink :=
  pthis.links.filterMap fun (src, sink) => do
    let source ← src.sendElement relay
    let target ← sink.sendElement relay
    some (source, target)

/-- A pad link with the assertion behind it. -/
def assertLinked (link : GstPadLinkReturn) (source target : Element) : Option (List ElementLink) :=
  if link.code ≠ 0 then none else some [(source, target)]

/-- `ichabod_bin_create_video_src`, which gives the queue behind a new pad of the video tee. -/
def createVideoSrc (relay : Nat) (caps : List CString) (ret : GstPadLinkReturn) :
    Option (Element × List ElementLink) := do
  if ¬ ∀ name ∈ caps, name = .literal "video/x-h264" then none
  let links ← assertLinked ret .videoTee (.vencQueue relay)
  some (.vencQueue relay, links)

/-- `ichabod_bin_create_audio_src`, which gives the queue behind a new pad of the raw audio tee. -/
def createAudioSrc (relay : Nat) (caps : List CString) (ret : GstPadLinkReturn) :
    Option (Element × List ElementLink) := do
  if ¬ ∀ name ∈ caps, name = .literal "audio/x-raw" then none
  let links ← assertLinked ret .audioRawTee (.arawQueue relay)
  some (.arawQueue relay, links)

/-- `rtp_relay_set_send_video_src`, where a link to a pad that is not there is refused. -/
def setSendVideoSrc (relay : Nat) (pthis : RelayEndpoints) (videoSrc : Element)
    (payRet ghostRet : GstPadLinkReturn) : Option (List ElementLink) := do
  let session ← pthis.videoSendRtpSink.bind sendSession
  let payLinks ← assertLinked payRet (.h264Pay relay) (.rtpSession relay session)
  let ghostLinks ← assertLinked ghostRet videoSrc (.h264Pay relay)
  some (payLinks ++ ghostLinks)

/-- `rtp_relay_set_send_audio_src`, where a link to a pad that is not there is refused. -/
def setSendAudioSrc (relay : Nat) (pthis : RelayEndpoints) (audioSrc : Element) (encoded : Bool)
    (payRet ghostRet : GstPadLinkReturn) : Option (List ElementLink) := do
  -- Nobody looks at the result of the link between the encoder and the payloader.
  let encoderLinks := gstLink encoded (.opusEnc relay) (.opusPay relay)
  let session ← pthis.audioSendRtpSink.bind sendSession
  let payLinks ← assertLinked payRet (.opusPay relay) (.rtpSession relay session)
  let ghostLinks ← assertLinked ghostRet audioSrc (.opusEnc relay)
  some (encoderLinks ++ payLinks ++ ghostLinks)

/-- One call of `ichabod_attach_rtp`, with the result of everything it asks for. -/
structure RtpAttachment where
  config : RtpRelayConfig
  /-- Which of the sockets can be bound. -/
  bound : Nat → Bool
  /-- What the pad links of `rtp_relay_config` return. -/
  linkRet : Nat → Int32
  videoTeeRet : GstPadLinkReturn
  videoPayRet : GstPadLinkReturn
  videoGhostRet : GstPadLinkReturn
  audioTeeRet : GstPadLinkReturn
  /-- What `gst_element_link` returns for the encoder and the payloader. -/
  encoded : Bool
  audioPayRet : GstPadLinkReturn
  audioGhostRet : GstPadLinkReturn

/-- The part of `ichabod_attach_rtp` that connects the tees to a relay that sends. -/
def connectRelay (relay : Nat) (endpoints : RelayEndpoints) (attachment : RtpAttachment) :
    Option (List ElementLink) := do
  let (videoSrc, videoTeeLinks) ←
    createVideoSrc relay [.literal "video/x-h264"] attachment.videoTeeRet
  let videoLinks ← setSendVideoSrc relay endpoints videoSrc attachment.videoPayRet
    attachment.videoGhostRet
  let (audioSrc, audioTeeLinks) ←
    createAudioSrc relay [.literal "audio/x-raw"] attachment.audioTeeRet
  let audioLinks ← setSendAudioSrc relay endpoints audioSrc attachment.encoded
    attachment.audioPayRet attachment.audioGhostRet
  some (videoTeeLinks ++ videoLinks ++ audioTeeLinks ++ audioLinks)

/-- `ichabod_attach_rtp` for a relay with the given number, as far as media is sent through it. -/
def attachRtp (relay : Nat) (attachment : RtpAttachment) : Option (List ElementLink) := do
  let endpoints ← rtpRelayConfig attachment.bound attachment.linkRet attachment.config
  let sourceLinks ← if attachment.config.sendEnabled then
      connectRelay relay endpoints attachment
    else some []
  some (endpoints.sendLinks relay ++ sourceLinks)

/-- The pipeline of the bin, with what every function has linked in it. -/
structure IchabodPipeline where
  setupLinks : List ElementLink
  bin : IchabodBin
  /-- What each call of `ichabod_attach_rtp` has linked. -/
  relays : List (List ElementLink)

/-- All links of the pipeline. -/
def IchabodPipeline.links (pipeline : IchabodPipeline) : List ElementLink :=
  pipeline.setupLinks ++ pipeline.bin.links.map (fun (output, link) => link.ends output) ++
    pipeline.relays.flatten

end Ichabod
