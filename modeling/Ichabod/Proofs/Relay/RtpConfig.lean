import Ichabod.Relay.RtpConfig

/-! Which endpoints a configured relay wires to the sockets and pads they belong to. -/

namespace Ichabod

/-- The media that a relay carries. -/
inductive RelayMedia where
  | video
  | audio
deriving DecidableEq

/-- The protocols that each of them is carried with. -/
inductive RelayProtocol where
  | rtp
  | rtcp
deriving DecidableEq

/-- The socket of an endpoint. -/
def RelaySockets.socket (sockets : RelaySockets) : RelayMedia → RelayProtocol → LocalSocket
  | .video, .rtp => sockets.videoRtpSocket
  | .video, .rtcp => sockets.videoRtcpSocket
  | .audio, .rtp => sockets.audioRtpSocket
  | .audio, .rtcp => sockets.audioRtcpSocket

namespace RtpRelayConfig

/-- The local port of an endpoint. -/
def recvPort (config : RtpRelayConfig) : RelayMedia → RelayProtocol → Int32
  | .video, .rtp => config.videoRecvRtpPort
  | .video, .rtcp => config.videoRecvRtcpPort
  | .audio, .rtp => config.audioRecvRtpPort
  | .audio, .rtcp => config.audioRecvRtcpPort

/-- The port that an endpoint sends to. -/
def sendPort (config : RtpRelayConfig) : RelayMedia → RelayProtocol → Int32
  | .video, .rtp => config.videoSendRtpPort
  | .video, .rtcp => config.videoSendRtcpPort
  | .audio, .rtp => config.audioSendRtpPort
  | .audio, .rtcp => config.audioSendRtcpPort

/-- The host that an endpoint sends to. -/
def sendHost (config : RtpRelayConfig) : RelayMedia → Option CString
  | .video => config.videoSendRtpHost
  | .audio => config.audioSendRtpHost

end RtpRelayConfig

/-- The rtpbin pad that takes the packets received at an endpoint. -/
def recvSinkPad : RelayMedia → RelayProtocol → UdpPad
  | .video, .rtp => .rtpbin (.literal "recv_rtp_sink_0")
  | .video, .rtcp => .rtpbin (.literal "recv_rtcp_sink_0")
  | .audio, .rtp => .rtpbin (.literal "recv_rtp_sink_1")
  | .audio, .rtcp => .rtpbin (.literal "recv_rtcp_sink_1")

/-- The rtpbin pad that gives the packets to be sent from an endpoint. -/
def sendSrcPad : RelayMedia → RelayProtocol → UdpPad
  | .video, .rtp => .rtpbin (.literal "send_rtp_src_0")
  | .video, .rtcp => .rtpbin (.literal "send_rtcp_src_0")
  | .audio, .rtp => .rtpbin (.literal "send_rtp_src_1")
  | .audio, .rtcp => .rtpbin (.literal "send_rtcp_src_1")

namespace RelayEndpoints

/-- The udpsrcs that read a socket. -/
def readers (pthis : RelayEndpoints) (socket : LocalSocket) : List Nat :=
  (List.range pthis.udpSrcs.length).filter fun number =>
    (pthis.udpSrcs[number]?.map UdpSrc.socket) = some socket

/-- The pads that a pad is linked to. -/
def fed (pthis : RelayEndpoints) (src : UdpPad) : List UdpPad :=
  (pthis.links.filter fun link => link.1 = src).map Prod.snd

/-- What arrives at the endpoint's port is read once, and goes to the endpoint's own pad only. -/
def ReceivesOwn (pthis : RelayEndpoints) (config : RtpRelayConfig) (media : RelayMedia)
    (protocol : RelayProtocol) : Prop :=
  (pthis.sockets.socket media protocol).port =
      (config.recvPort media protocol).toUInt32.toUInt16 ∧
    ∃ number, pthis.readers (pthis.sockets.socket media protocol) = [number] ∧
      pthis.fed (.udpSrc number) = [recvSinkPad media protocol]

/-- The endpoint's pad is sent from the endpoint's own socket, to its host and the given port. -/
def SendsTo (pthis : RelayEndpoints) (config : RtpRelayConfig) (media : RelayMedia)
    (protocol : RelayProtocol) (port : Int32) : Prop :=
  ∃ number sink, pthis.fed (sendSrcPad media protocol) = [.udpSink number] ∧
    pthis.udpSinks[number]? = some sink ∧
    sink.socket = pthis.sockets.socket media protocol ∧
    sink.host = config.sendHost media ∧ sink.port = port

/-- The endpoint's pad is sent from the endpoint's own socket, to its host and port. -/
def SendsOwn (pthis : RelayEndpoints) (config : RtpRelayConfig) (media : RelayMedia)
    (protocol : RelayProtocol) : Prop :=
  pthis.SendsTo config media protocol (config.sendPort media protocol)

/-- An endpoint sends to one port only. -/
theorem SendsTo.port_unique {pthis : RelayEndpoints} {config : RtpRelayConfig} {media : RelayMedia}
    {protocol : RelayProtocol} {port other : Int32}
    (sends : pthis.SendsTo config media protocol port)
    (sendsOther : pthis.SendsTo config media protocol other) : port = other := by
  obtain ⟨number, sink, fed, stored, _, _, rfl⟩ := sends
  obtain ⟨_, _, fedOther, storedOther, _, _, rfl⟩ := sendsOther
  -- Both of them speak of the only udpsink behind the endpoint's pad.
  have same := fed.symm.trans fedOther
  simp only [List.cons.injEq, UdpPad.udpSink.injEq, and_true] at same
  rw [← same] at storedOther
  rw [Option.some.inj (stored.symm.trans storedOther)]

/-- Every endpoint receives and sends its own packets. -/
def WiredAsConfigured (pthis : RelayEndpoints) (config : RtpRelayConfig) : Prop :=
  ∀ media protocol,
    pthis.ReceivesOwn config media protocol ∧ pthis.SendsOwn config media protocol

/-- A link call that returns has made its link. -/
theorem padLink_linked {linkRet : Nat → Int32} {pthis next : RelayEndpoints} {src sink : UdpPad}
    (linked : pthis.padLink linkRet src sink = some next) :
    next = { pthis with links := pthis.links ++ [(src, sink)] } := by
  unfold padLink at linked
  split at linked
  · cases linked
  · exact (Option.some.inj linked).symm

/-- A udpsink that was given the port of its endpoint sends to it exactly if it is a port. -/
theorem sendsOwn_iff {pthis : RelayEndpoints} {config : RtpRelayConfig} {media : RelayMedia}
    {protocol : RelayProtocol}
    (sends : pthis.SendsTo config media protocol
      (portProperty 5004 (config.sendPort media protocol))) :
    pthis.SendsOwn config media protocol ↔ IsPort (config.sendPort media protocol) := by
  -- Any other number leaves the default of the element in place, which is a port itself.
  constructor
  · intro own
    have kept := sends.port_unique own
    by_contra noPort
    rw [portProperty, if_neg noPort] at kept
    rw [← kept] at noPort
    exact noPort (by decide)
  · intro isPort
    rw [portProperty, if_pos isPort] at sends
    exact sends

end RelayEndpoints

/-- The sockets of a configuration are numbered in order, and bound to its local ports. -/
theorem createUdpSockets_bound {bound : Nat → Bool} {config : RtpRelayConfig}
    {sockets : RelaySockets} (created : createUdpSockets bound config = some sockets) :
    sockets = {
      videoRtpSocket := ⟨0, config.videoRecvRtpPort.toUInt32.toUInt16⟩
      videoRtcpSocket := ⟨1, config.videoRecvRtcpPort.toUInt32.toUInt16⟩
      audioRtpSocket := ⟨2, config.audioRecvRtpPort.toUInt32.toUInt16⟩
      audioRtcpSocket := ⟨3, config.audioRecvRtcpPort.toUInt32.toUInt16⟩ } := by
  -- Each of the four ports is bound, or there is no result.
  cases first : bound 0 <;> cases second : bound 1 <;> cases third : bound 2 <;>
    cases fourth : bound 3 <;>
    simp [createUdpSockets, localSocketNew, first, second, third, fourth] at created
  exact created.symm

namespace RelayEndpoints

section Links

variable {linkRet : Nat → Int32} {config : RtpRelayConfig} {pthis next : RelayEndpoints}

/-- A receiving part that returns has added four udpsrcs, and linked them in order. -/
theorem configureRecv_linked (configured : pthis.configureRecv linkRet config = some next) :
    next.sockets = pthis.sockets ∧ next.udpSinks = pthis.udpSinks ∧
      next.udpSrcs.map UdpSrc.socket = pthis.udpSrcs.map UdpSrc.socket ++
        [pthis.sockets.videoRtpSocket, pthis.sockets.videoRtpSocket,
          pthis.sockets.audioRtpSocket, pthis.sockets.audioRtcpSocket] ∧
      next.links = pthis.links ++
        [(.udpSrc pthis.udpSrcs.length, recvSinkPad .video .rtp),
          (.udpSrc (pthis.udpSrcs.length + 1), recvSinkPad .video .rtcp),
          (.udpSrc (pthis.udpSrcs.length + 2), recvSinkPad .audio .rtp),
          (.udpSrc (pthis.udpSrcs.length + 3), recvSinkPad .audio .rtcp)] := by
  -- Each of the four additions passes its assertion, or there is no result.
  simp only [configureRecv, addUdpSrc, Option.bind_eq_bind, Option.bind_eq_some_iff] at configured
  obtain ⟨first, linked, second, linkedSecond, third, linkedThird, linkedFourth⟩ := configured
  obtain rfl := padLink_linked linked
  obtain rfl := padLink_linked linkedSecond
  obtain rfl := padLink_linked linkedThird
  obtain rfl := padLink_linked linkedFourth
  simp [recvSinkPad]

/-- A sending part that returns has added four udpsinks, and linked them in order. -/
theorem configureSend_linked (configured : pthis.configureSend linkRet config = some next) :
    next.sockets = pthis.sockets ∧ next.udpSrcs = pthis.udpSrcs ∧
      next.udpSinks = pthis.udpSinks ++
        [⟨config.videoSendRtpHost, portProperty 5004 config.videoSendRtpPort,
            portProperty 0 config.videoRecvRtpPort, pthis.sockets.videoRtpSocket⟩,
          ⟨config.videoSendRtpHost, portProperty 5004 config.videoSendRtcpPort,
            portProperty 0 config.videoRecvRtcpPort, pthis.sockets.videoRtcpSocket⟩,
          ⟨config.audioSendRtpHost, portProperty 5004 config.audioSendRtpPort,
            portProperty 0 config.audioRecvRtpPort, pthis.sockets.audioRtpSocket⟩,
          ⟨config.audioSendRtpHost, portProperty 5004 config.audioSendRtcpPort,
            portProperty 0 config.audioRecvRtcpPort, pthis.sockets.audioRtcpSocket⟩] ∧
      next.links = pthis.links ++
        [(sendSrcPad .video .rtp, .udpSink pthis.udpSinks.length),
          (sendSrcPad .video .rtcp, .udpSink (pthis.udpSinks.length + 1)),
          (sendSrcPad .audio .rtp, .udpSink (pthis.udpSinks.length + 2)),
          (sendSrcPad .audio .rtcp, .udpSink (pthis.udpSinks.length + 3))] := by
  -- The four links go through one after the other, and the sinks are there before them.
  simp only [configureSend, createUdpSink, Option.bind_eq_bind, Option.bind_eq_some_iff]
    at configured
  obtain ⟨first, linked, second, linkedSecond, third, linkedThird, linkedFourth⟩ := configured
  obtain rfl := padLink_linked linked
  obtain rfl := padLink_linked linkedSecond
  obtain rfl := padLink_linked linkedThird
  obtain rfl := padLink_linked linkedFourth
  simp [sendSrcPad]

end Links

end RelayEndpoints

section Configured

variable {bound : Nat → Bool} {linkRet : Nat → Int32} {config : RtpRelayConfig}
  {final : RelayEndpoints}

/-- A relay that receives and sends has four udpsrcs and four udpsinks, with eight links. -/
theorem rtpRelayConfig_linked (recv : config.recvEnabled = true) (send : config.sendEnabled = true)
    (configured : rtpRelayConfig bound linkRet config = some final) :
    createUdpSockets bound config = some final.sockets ∧
      final.udpSrcs.map UdpSrc.socket =
        [final.sockets.videoRtpSocket, final.sockets.videoRtpSocket,
          final.sockets.audioRtpSocket, final.sockets.audioRtcpSocket] ∧
      final.udpSinks =
        [⟨config.videoSendRtpHost, portProperty 5004 config.videoSendRtpPort,
            portProperty 0 config.videoRecvRtpPort, final.sockets.videoRtpSocket⟩,
          ⟨config.videoSendRtpHost, portProperty 5004 config.videoSendRtcpPort,
            portProperty 0 config.videoRecvRtcpPort, final.sockets.videoRtcpSocket⟩,
          ⟨config.audioSendRtpHost, portProperty 5004 config.audioSendRtpPort,
            portProperty 0 config.audioRecvRtpPort, final.sockets.audioRtpSocket⟩,
          ⟨config.audioSendRtpHost, portProperty 5004 config.audioSendRtcpPort,
            portProperty 0 config.audioRecvRtcpPort, final.sockets.audioRtcpSocket⟩] ∧
      final.links =
        [(.udpSrc 0, recvSinkPad .video .rtp), (.udpSrc 1, recvSinkPad .video .rtcp),
          (.udpSrc 2, recvSinkPad .audio .rtp), (.udpSrc 3, recvSinkPad .audio .rtcp),
          (sendSrcPad .video .rtp, .udpSink 0), (sendSrcPad .video .rtcp, .udpSink 1),
          (sendSrcPad .audio .rtp, .udpSink 2), (sendSrcPad .audio .rtcp, .udpSink 3)] := by
  -- Both parts are entered, one behind the other.
  simp only [rtpRelayConfig, recv, send, if_true, Option.bind_eq_bind, Option.bind_eq_some_iff]
    at configured
  obtain ⟨sockets, created, received, receiving, sending⟩ := configured
  obtain ⟨recvSockets, recvSinks, recvSrcs, recvLinks⟩ :=
    RelayEndpoints.configureRecv_linked receiving
  obtain ⟨sendSockets, sendSrcs, sendSinks, sendLinks⟩ :=
    RelayEndpoints.configureSend_linked sending
  rw [sendSockets, sendSrcs, sendSinks, sendLinks, recvLinks, recvSrcs, recvSinks, recvSockets]
  exact ⟨created, rfl, rfl, rfl⟩

/-- The numbers of the udpsrcs that read each of the sockets. -/
theorem rtpRelayConfig_readers (recv : config.recvEnabled = true)
    (send : config.sendEnabled = true)
    (configured : rtpRelayConfig bound linkRet config = some final) :
    final.readers final.sockets.videoRtpSocket = [0, 1] ∧
      final.readers final.sockets.videoRtcpSocket = [] ∧
      final.readers final.sockets.audioRtpSocket = [2] ∧
      final.readers final.sockets.audioRtcpSocket = [3] := by
  obtain ⟨created, sockets, _, _⟩ := rtpRelayConfig_linked recv send configured
  have count : final.udpSrcs.length = 4 := by simpa using congrArg List.length sockets
  -- The sockets are told apart by their numbers, whatever their ports are.
  rw [createUdpSockets_bound created] at sockets ⊢
  simp [RelayEndpoints.readers, ← List.getElem?_map, sockets, count, List.range_succ]

/-- What each udpsrc feeds, and what each rtpbin pad is sent through. -/
theorem rtpRelayConfig_fed (recv : config.recvEnabled = true) (send : config.sendEnabled = true)
    (configured : rtpRelayConfig bound linkRet config = some final) :
    (final.fed (.udpSrc 2) = [recvSinkPad .audio .rtp] ∧
      final.fed (.udpSrc 3) = [recvSinkPad .audio .rtcp]) ∧
      final.fed (sendSrcPad .video .rtp) = [.udpSink 0] ∧
      final.fed (sendSrcPad .video .rtcp) = [.udpSink 1] ∧
      final.fed (sendSrcPad .audio .rtp) = [.udpSink 2] ∧
      final.fed (sendSrcPad .audio .rtcp) = [.udpSink 3] := by
  -- The links do not depend on the configuration.
  obtain ⟨_, _, _, links⟩ := rtpRelayConfig_linked recv send configured
  simp only [RelayEndpoints.fed, links]
  decide

/--
A relay that receives and sends is wired wrongly, whatever its configuration is.

Both udpsrcs for video read the RTP socket, so neither video endpoint receives its own packets, but
both audio endpoints do, and all four endpoints send from their own sockets to their own hosts, and
to their own ports if these are ports at all.
-/
theorem rtpRelayConfig_miswires_video (recv : config.recvEnabled = true)
    (send : config.sendEnabled = true)
    (configured : rtpRelayConfig bound linkRet config = some final) :
    ¬ final.WiredAsConfigured config ∧
      (∀ media protocol, final.ReceivesOwn config media protocol ↔ media = .audio) ∧
      ∀ media protocol,
        final.SendsOwn config media protocol ↔ IsPort (config.sendPort media protocol) := by
  obtain ⟨created, _, sinks, _⟩ := rtpRelayConfig_linked recv send configured
  obtain ⟨videoRtp, videoRtcp, audioRtp, audioRtcp⟩ := rtpRelayConfig_readers recv send configured
  obtain ⟨⟨fedRtp, fedRtcp⟩, sentVideoRtp, sentVideoRtcp, sentAudioRtp, sentAudioRtcp⟩ :=
    rtpRelayConfig_fed recv send configured
  have ports := createUdpSockets_bound created
  -- A video socket has two readers or none.
  have receives : ∀ media protocol, final.ReceivesOwn config media protocol ↔ media = .audio := by
    intro media protocol
    cases media with
    | video =>
      refine iff_of_false (fun own => ?_) (by simp)
      obtain ⟨_, number, single, _⟩ := own
      cases protocol with
      | rtp =>
        have two := videoRtp.symm.trans single
        simp at two
      | rtcp =>
        have none := videoRtcp.symm.trans single
        simp at none
    | audio =>
      refine iff_of_true ?_ rfl
      cases protocol with
      | rtp => exact ⟨by rw [ports]; rfl, 2, audioRtp, fedRtp⟩
      | rtcp => exact ⟨by rw [ports]; rfl, 3, audioRtcp, fedRtcp⟩
  refine ⟨fun wired => ?_, receives, fun media protocol => ?_⟩
  · have video := (receives .video .rtp).mp (wired .video .rtp).1
    simp at video
  · apply RelayEndpoints.sendsOwn_iff
    cases media <;> cases protocol
    · exact ⟨0, _, sentVideoRtp, by rw [sinks]; rfl, rfl, rfl, rfl⟩
    · exact ⟨1, _, sentVideoRtcp, by rw [sinks]; rfl, rfl, rfl, rfl⟩
    · exact ⟨2, _, sentAudioRtp, by rw [sinks]; rfl, rfl, rfl, rfl⟩
    · exact ⟨3, _, sentAudioRtcp, by rw [sinks]; rfl, rfl, rfl, rfl⟩

end Configured

/-- A relay for two hosts, with eight different ports. -/
def eightPorts : RtpRelayConfig where
  sendEnabled := true
  recvEnabled := true
  audioSendRtpHost := some (.literal "10.0.0.1")
  audioSendRtpPort := 5000
  audioRecvRtpPort := 6000
  audioSendRtcpPort := 5001
  audioRecvRtcpPort := 6001
  videoSendRtpHost := some (.literal "10.0.0.2")
  videoSendRtpPort := 5002
  videoRecvRtpPort := 6002
  videoSendRtcpPort := 5003
  videoRecvRtcpPort := 6003

/-- All eight links can be made. -/
theorem eightPorts_configured :
    ∃ final, rtpRelayConfig (fun _ => true) (fun _ => 0) eightPorts = some final :=
  ⟨_, rfl⟩

/-- The relay for two hosts is wired wrongly, but sends as it should. -/
theorem eightPorts_miswired :
    ∃ final, rtpRelayConfig (fun _ => true) (fun _ => 0) eightPorts = some final ∧
      ¬ final.WiredAsConfigured eightPorts ∧
      (∀ media protocol, final.ReceivesOwn eightPorts media protocol ↔ media = .audio) ∧
      ∀ media protocol, final.SendsOwn eightPorts media protocol := by
  obtain ⟨final, configured⟩ := eightPorts_configured
  obtain ⟨miswired, receives, sends⟩ := rtpRelayConfig_miswires_video rfl rfl configured
  refine ⟨final, configured, miswired, receives, fun media protocol => ?_⟩
  have isPort : IsPort (eightPorts.sendPort media protocol) := by
    cases media <;> cases protocol <;> decide
  exact (sends media protocol).mpr isPort

/-- Nobody reads the socket that is bound to the video RTCP port. -/
theorem videoRtcp_unread :
    ∃ final, rtpRelayConfig (fun _ => true) (fun _ => 0) eightPorts = some final ∧
      final.sockets.videoRtcpSocket.port = 6003 ∧
      final.readers final.sockets.videoRtcpSocket = [] ∧
      final.readers final.sockets.videoRtpSocket = [0, 1] ∧
      ¬ final.WiredAsConfigured eightPorts := by
  obtain ⟨final, configured⟩ := eightPorts_configured
  obtain ⟨created, _⟩ := rtpRelayConfig_linked rfl rfl configured
  obtain ⟨videoRtp, videoRtcp, _⟩ := rtpRelayConfig_readers rfl rfl configured
  refine ⟨final, configured, ?_, videoRtcp, videoRtp, fun wired => ?_⟩
  · rw [createUdpSockets_bound created]
    decide
  · -- An endpoint without a reader receives nothing.
    obtain ⟨_, number, single, _⟩ := (wired .video .rtcp).1
    have none := videoRtcp.symm.trans single
    simp at none

end Ichabod
