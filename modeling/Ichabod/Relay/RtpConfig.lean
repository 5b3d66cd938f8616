import Ichabod.Relay.RtpRelay

/-! How a configuration is turned into sockets, UDP elements and links to the rtpbin. -/

namespace Ichabod

/-- The fields of `struct rtp_relay_config_s` that `rtp_relay_config` reads. -/
structure RtpRelayConfig where
  sendEnabled : Bool
  recvEnabled : Bool
  audioSendRtpHost : Option CString
  audioSendRtpPort : Int32
  audioRecvRtpPort : Int32
  audioSendRtcpPort : Int32
  audioRecvRtcpPort : Int32
  videoSendRtpHost : Option CString
  videoSendRtpPort : Int32
  videoRecvRtpPort : Int32
  videoSendRtcpPort : Int32
  videoRecvRtcpPort : Int32
deriving DecidableEq

/-- A `GSocket`, identified by the order of creation. -/
structure LocalSocket where
  number : Nat
  port : UInt16
deriving DecidableEq

/-- The four sockets of `struct rtp_relay_s`. -/
structure RelaySockets where
  videoRtpSocket : LocalSocket
  videoRtcpSocket : LocalSocket
  audioRtpSocket : LocalSocket
  audioRtcpSocket : LocalSocket
deriving DecidableEq

/-- What a udpsrc announces its packets as. -/
inductive UdpCaps where
  | rtp (caps : RtpCaps)
  /-- `application/x-rtcp`. -/
  | rtcp
deriving DecidableEq

/-- The values that the property of a port takes. -/
def IsPort (value : Int32) : Prop :=
  0 ≤ value ∧ value ≤ 65535

instance (value : Int32) : Decidable (IsPort value) :=
  inferInstanceAs (Decidable (_ ∧ _))

/-- `g_object_set` of a port, which only warns of any other value and keeps what was there. -/
def portProperty (kept value : Int32) : Int32 :=
  if IsPort value then value else kept

/-- A udpsrc, which reads its socket whatever its port says. -/
structure UdpSrc where
  port : Int32
  socket : LocalSocket
  caps : UdpCaps
deriving DecidableEq

/-- A udpsink, which sends from its socket whatever its bind port says. -/
structure UdpSink where
  host : Option CString
  port : Int32
  bindPort : Int32
  socket : LocalSocket
deriving DecidableEq

/-- A pad that `rtp_relay_config` links. -/
inductive UdpPad where
  | rtpbin (name : CString)
  /-- The source pad of a udpsrc. -/
  | udpSrc (number : Nat)
  /-- The sink pad of a udpsink. -/
  | udpSink (number : Nat)
deriving DecidableEq

/-- What `rtp_relay_config` makes of the relay and its bin. -/
structure RelayEndpoints where
  sockets : RelaySockets
  videoRecvCaps : Option RtpCaps
  audioCaps : Option RtpCaps
  videoSendRtpSink : Option CString
  audioSendRtpSink : Option CString
  udpSrcs : List UdpSrc
  udpSinks : List UdpSink
  /-- The pad links made so far, source first. -/
  links : List (UdpPad × UdpPad)
deriving DecidableEq

/-- `local_socket_new`, which has no result if the port cannot be bound. -/
def localSocketNew (bound : Bool) (number : Nat) (port : Int32) : Option LocalSocket :=
  -- An address takes the low sixteen bits of the port.
  if bound then some ⟨number, port.toUInt32.toUInt16⟩ else none

/-- `create_udp_sockets`, where `bound` tells which of the sockets can be bound. -/
def createUdpSockets (bound : Nat → Bool) (config : RtpRelayConfig) : Option RelaySockets := do
  let videoRtpSocket ← localSocketNew (bound 0) 0 config.videoRecvRtpPort
  let videoRtcpSocket ← localSocketNew (bound 1) 1 config.videoRecvRtcpPort
  let audioRtpSocket ← localSocketNew (bound 2) 2 config.audioRecvRtpPort
  let audioRtcpSocket ← localSocketNew (bound 3) 3 config.audioRecvRtcpPort
  some ⟨videoRtpSocket, videoRtcpSocket, audioRtpSocket, audioRtcpSocket⟩

namespace RelayEndpoints

/-- `gst_pad_link` with the assertion behind it, where `linkRet` has the results of the calls. -/
def padLink (linkRet : Nat → Int32) (pthis : RelayEndpoints) (src sink : UdpPad) :
    Option RelayEndpoints :=
  if linkRet pthis.links.length ≠ 0 then none
  else some { pthis with links := pthis.links ++ [(src, sink)] }

/-- `create_udp_src`, with the caps set on the element and its source pad linked to the rtpbin. -/
def addUdpSrc (linkRet : Nat → Int32) (pthis : RelayEndpoints) (port : Int32)
    (socket : LocalSocket) (caps : UdpCaps) (pad : CString) : Option RelayEndpoints :=
  let src : UdpPad := .udpSrc pthis.udpSrcs.length
  let pthis : RelayEndpoints :=
    { pthis with udpSrcs := pthis.udpSrcs ++ [⟨portProperty 5004 port, socket, caps⟩] }
  pthis.padLink linkRet src (.rtpbin pad)

/-- `create_udp_sink`, which returns the sink pad of the new element. -/
def createUdpSink (pthis : RelayEndpoints) (host : Option CString) (port bind : Int32)
    (socket : LocalSocket) : RelayEndpoints × UdpPad :=
  -- A new udpsink has the port 5004, and no port to bind to.
  ({ pthis with
      udpSinks := pthis.udpSinks ++ [⟨host, portProperty 5004 port, portProperty 0 bind, socket⟩] },
    .udpSink pthis.udpSinks.length)

/-- The part of `rtp_relay_config` for a relay that receives. -/
def configureRecv (linkRet : Nat → Int32) (config : RtpRelayConfig) (pthis : RelayEndpoints) :
    Option RelayEndpoints := do
  let videoRecvCaps : RtpCaps := ⟨.literal "video", .literal "H264", 90000, none⟩
  let audioCaps : RtpCaps := ⟨.literal "audio", .literal "OPUS", 48000, none⟩
  let pthis : RelayEndpoints :=
    { pthis with videoRecvCaps := some videoRecvCaps, audioCaps := some audioCaps }
  let pthis ← pthis.addUdpSrc linkRet config.videoRecvRtpPort pthis.sockets.videoRtpSocket
    (.rtp videoRecvCaps) (.literal "recv_rtp_sink_0")
  let pthis ← pthis.addUdpSrc linkRet config.videoRecvRtcpPort pthis.sockets.videoRtpSocket
    .rtcp (.literal "recv_rtcp_sink_0")
  let pthis ← pthis.addUdpSrc linkRet config.audioRecvRtpPort pthis.sockets.audioRtpSocket
    (.rtp audioCaps) (.literal "recv_rtp_sink_1")
  pthis.addUdpSrc linkRet config.audioRecvRtcpPort pthis.sockets.audioRtcpSocket
    .rtcp (.literal "recv_rtcp_sink_1")

/-- The part of `rtp_relay_config` for a relay that sends. -/
def configureSend (linkRet : Nat → Int32) (config : RtpRelayConfig) (pthis : RelayEndpoints) :
    Option RelayEndpoints := do
  let pthis : RelayEndpoints :=
    { pthis with videoSendRtpSink := some (.literal "send_rtp_sink_0") }
  let (pthis, udpVideoRtpSendSink) := pthis.createUdpSink config.videoSendRtpHost
    config.videoSendRtpPort config.videoRecvRtpPort pthis.sockets.videoRtpSocket
  let (pthis, udpVideoRtcpSendSink) := pthis.createUdpSink config.videoSendRtpHost
    config.videoSendRtcpPort config.videoRecvRtcpPort pthis.sockets.videoRtcpSocket
  let (pthis, udpAudioSendSink) := pthis.createUdpSink config.audioSendRtpHost
    config.audioSendRtpPort config.audioRecvRtpPort pthis.sockets.audioRtpSocket
  let (pthis, udpAudioRtcpSendSink) := pthis.createUdpSink config.audioSendRtpHost
    config.audioSendRtcpPort config.audioRecvRtcpPort pthis.sockets.audioRtcpSocket
  let pthis ← pthis.padLink linkRet (.rtpbin (.literal "send_rtp_src_0")) udpVideoRtpSendSink
  let pthis ← pthis.padLink linkRet (.rtpbin (.literal "send_rtcp_src_0")) udpVideoRtcpSendSink
  let pthis : RelayEndpoints :=
    { pthis with audioSendRtpSink := some (.literal "send_rtp_sink_1") }
  let pthis ← pthis.padLink linkRet (.rtpbin (.literal "send_rtp_src_1")) udpAudioSendSink
  pthis.padLink linkRet (.rtpbin (.literal "send_rtcp_src_1")) udpAudioRtcpSendSink

end RelayEndpoints

/-- `rtp_relay_config` on a new relay, which returns zero, or not at all if an assertion fails. -/
def rtpRelayConfig (bound : Nat → Bool) (linkRet : Nat → Int32) (config : RtpRelayConfig) :
    Option RelayEndpoints := do
  let sockets ← createUdpSockets bound config
  let pthis : RelayEndpoints := ⟨sockets, none, none, none, none, [], [], []⟩
  let pthis ← if config.recvEnabled then pthis.configureRecv linkRet config else some pthis
  if config.sendEnabled then pthis.configureSend linkRet config else some pthis

end Ichabod
