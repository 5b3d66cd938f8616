import Ichabod.Lib.CString
import Ichabod.Zmq.Receive

/-! How the RTP relay reacts to the pads its rtpbin adds, up to the relay it hands them to. -/

namespace Ichabod

/-- A pad that the relay links or hands on. -/
inductive RelayPad where
  /-- A pad of the rtpbin. -/
  | rtpbin (number : Nat)
  /-- The sink pad of the queue that begins a video chain. -/
  | queueSink (chain : Nat)
  /-- The source pad of the packetizer that ends a video chain. -/
  | packetizerSrc (chain : Nat)
  /-- The sink pad of a fakesink. -/
  | fakesinkSink (fakesink : Nat)
deriving DecidableEq

/-- The fields of the `application/x-rtp` caps that the relay sets. -/
structure RtpCaps where
  media : CString
  encodingName : CString
  clockRate : Nat
  payload : Option Nat
deriving DecidableEq

/-- `struct webrtc_relay_config_s`. -/
structure WebrtcRelayConfig where
  videoRtpSrc : RelayPad
  audioRtpSrc : RelayPad
  videoCaps : Option RtpCaps
  audioCaps : Option RtpCaps
deriving DecidableEq

/-- A call into the webrtc relay. -/
inductive WebrtcRelayCall where
  | alloc
  | config (config : WebrtcRelayConfig)
deriving DecidableEq

/-- The state of `struct rtp_relay_s` that adding pads reads or changes. -/
structure RtpRelay where
  videoRecvSrc : Option RelayPad
  audioRecvSrc : Option RelayPad
  videoSendCaps : Option RtpCaps
  audioCaps : Option RtpCaps
  /-- What the webrtc relay was configured with, if there is one. -/
  webrtcRelay : Option WebrtcRelayConfig
  /-- How many video chains have been built. -/
  chains : Nat
  /-- How many fakesinks have been built. -/
  fakesinks : Nat
  /-- The pad links made so far, source first. -/
  links : List (RelayPad × RelayPad)
  /-- The calls into webrtc relays so far. -/
  calls : List WebrtcRelayCall
deriving DecidableEq

/-- One emission of the pad-added signal, with the results of the links its handler makes. -/
structure PadAdded where
  name : Bytes
  /-- The number of the new pad among the pads of the rtpbin. -/
  newPad : Nat
  /-- What `gst_pad_link` returns for the new pad. -/
  link : Int
  /-- What `gst_element_link_filtered` returns for the video source of a webrtc relay. -/
  videoLinked : Bool
  /-- What `gst_element_link_filtered` returns for the audio source of a webrtc relay. -/
  audioLinked : Bool
deriving DecidableEq

namespace RtpRelay

/-- A configured relay without pads. -/
def configured (audioCaps : Option RtpCaps) : RtpRelay where
  videoRecvSrc := none
  audioRecvSrc := none
  videoSendCaps := none
  audioCaps := audioCaps
  webrtcRelay := none
  chains := 0
  fakesinks := 0
  links := []
  calls := []

/-- `create_h264_recv_chain`, which returns the sink pad of the new chain. -/
def createH264RecvChain (pthis : RtpRelay) : RtpRelay × RelayPad :=
  ({ pthis with
      chains := pthis.chains + 1
      videoRecvSrc := some (.packetizerSrc pthis.chains)
      videoSendCaps := some {
        media := .literal "video"
        encodingName := .literal "VP8"
        clockRate := 90000
        payload := some 96 } },
    .queueSink pthis.chains)

/-- `webrtc_relay_config`, which has no result if an assertion fails. -/
def webrtcRelayConfig (pthis : RtpRelay) (event : PadAdded) (config : WebrtcRelayConfig) :
    Option RtpRelay :=
  if event.videoLinked = false then none
  else
    -- The audio pad goes to a fakesink until it is relayed.
    let links := if pthis.links.any (·.1 = config.audioRtpSrc) then
        pthis.links.filter (·.1 ≠ config.audioRtpSrc)
      else pthis.links
    if event.audioLinked = false then none
    else
      some { pthis with
        webrtcRelay := some config
        links := links
        calls := pthis.calls ++ [.config config] }

/-- `maybe_create_webrtc_relay`. -/
def maybeCreateWebrtcRelay (pthis : RtpRelay) (event : PadAdded) : Option RtpRelay :=
  match pthis.audioRecvSrc, pthis.videoRecvSrc, pthis.webrtcRelay with
  | some audioRecvSrc, some videoRecvSrc, none =>
    let config : WebrtcRelayConfig := {
      audioCaps := pthis.audioCaps
      videoCaps := pthis.videoSendCaps
      audioRtpSrc := audioRecvSrc
      videoRtpSrc := videoRecvSrc }
    let pthis : RtpRelay := { pthis with calls := pthis.calls ++ [.alloc] }
    pthis.webrtcRelayConfig event config
  | _, _, _ => some pthis

/-- `on_rtpbin_pad_added`, which has no result if an assertion fails. -/
def onRtpbinPadAdded (pthis : RtpRelay) (event : PadAdded) : Option RtpRelay :=
  -- The signal is connected to the relay's own rtpbin only.
  if (CString.ascii "recv_rtp_src_0").isPrefixOf event.name then
    let (pthis, sink) := pthis.createH264RecvChain
    if event.link ≠ 0 then none
    else
      let pthis : RtpRelay :=
        { pthis with links := pthis.links ++ [(.rtpbin event.newPad, sink)] }
      pthis.maybeCreateWebrtcRelay event
  else if (CString.ascii "recv_rtp_src_1").isPrefixOf event.name then
    -- RTP is received to a fakesink until the webrtc relay can take over.
    let fakepad : RelayPad := .fakesinkSink pthis.fakesinks
    let pthis : RtpRelay := { pthis with
      audioRecvSrc := some (.rtpbin event.newPad)
      fakesinks := pthis.fakesinks + 1 }
    if event.link ≠ 0 then none
    else
      let pthis : RtpRelay :=
        { pthis with links := pthis.links ++ [(.rtpbin event.newPad, fakepad)] }
      pthis.maybeCreateWebrtcRelay event
  else some pthis

end RtpRelay

end Ichabod
