import Ichabod.Proofs.Relay.RtpConfig

/-! The endpoints of a relay that may send, receive, do both, or neither. -/

namespace Ichabod

open RelayEndpoints

section Parts

variable {bound : Nat → Bool} {linkRet : Nat → Int32} {config : RtpRelayConfig}
  {pthis next final : RelayEndpoints}

/-- A relay with its sockets and nothing else. -/
def RelayEndpoints.bare (sockets : RelaySockets) : RelayEndpoints :=
  ⟨sockets, none, none, none, none, [], [], []⟩

/-- A relay is configured in two parts, of which each may be left out. -/
theorem rtpRelayConfig_parts (configured : rtpRelayConfig bound linkRet config = some final) :
    ∃ sockets received, createUdpSockets bound config = some sockets ∧
      (if config.recvEnabled then (bare sockets).configureRecv linkRet config
        else some (bare sockets)) = some received ∧
      (if config.sendEnabled then received.configureSend linkRet config
        else some received) = some final := by
  -- The flag for receiving decides what the second part goes on from.
  cases recv : config.recvEnabled with
  | true =>
    simp only [rtpRelayConfig, recv, if_true, Option.bind_eq_bind, Option.bind_eq_some_iff]
      at configured
    obtain ⟨sockets, created, received, receiving, sending⟩ := configured
    exact ⟨sockets, received, created, receiving, sending⟩
  | false =>
    simp only [rtpRelayConfig, recv, Bool.false_eq_true, if_false, Option.bind_eq_bind,
      Option.bind_some, Option.bind_eq_some_iff] at configured
    obtain ⟨sockets, created, sending⟩ := configured
    exact ⟨sockets, bare sockets, created, rfl, sending⟩

/-- The caps that a receiving part sets. -/
theorem configureRecv_caps (configured : pthis.configureRecv linkRet config = some next) :
    next.videoRecvCaps = some ⟨.literal "video", .literal "H264", 90000, none⟩ ∧
      next.audioCaps = some ⟨.literal "audio", .literal "OPUS", 48000, none⟩ := by
  simp only [configureRecv, addUdpSrc, Option.bind_eq_bind, Option.bind_eq_some_iff] at configured
  obtain ⟨first, linked, second, linkedSecond, third, linkedThird, linkedFourth⟩ := configured
  -- The links behind them leave the caps alone.
  obtain rfl := padLink_linked linked
  obtain rfl := padLink_linked linkedSecond
  obtain rfl := padLink_linked linkedThird
  obtain rfl := padLink_linked linkedFourth
  exact ⟨rfl, rfl⟩

/-- A sending part asks the rtpbin for its two pads, and leaves the caps alone. -/
theorem configureSend_pads (configured : pthis.configureSend linkRet config = some next) :
    next.videoSendRtpSink = some (.literal "send_rtp_sink_0") ∧
      next.audioSendRtpSink = some (.literal "send_rtp_sink_1") ∧
      next.videoRecvCaps = pthis.videoRecvCaps ∧ next.audioCaps = pthis.audioCaps := by
  simp only [configureSend, createUdpSink, Option.bind_eq_bind, Option.bind_eq_some_iff]
    at configured
  obtain ⟨first, linked, second, linkedSecond, third, linkedThird, linkedFourth⟩ := configured
  -- The links behind the requests leave the pads alone.
  obtain rfl := padLink_linked linked
  obtain rfl := padLink_linked linkedSecond
  obtain rfl := padLink_linked linkedThird
  obtain rfl := padLink_linked linkedFourth
  exact ⟨rfl, rfl, rfl, rfl⟩

/-- What a relay has before it is told to send. -/
structure BeforeSending (config : RtpRelayConfig) (received : RelayEndpoints) : Prop where
  sinks : received.udpSinks = []
  /-- Its links start at udpsrcs. -/
  links : ∀ link ∈ received.links, ∃ number, link.1 = .udpSrc number
  caps : received.videoRecvCaps =
      (if config.recvEnabled then some ⟨.literal "video", .literal "H264", 90000, none⟩
        else none) ∧
    received.audioCaps =
      if config.recvEnabled then some ⟨.literal "audio", .literal "OPUS", 48000, none⟩ else none
  srcs : received.udpSrcs.map UdpSrc.socket =
    if config.recvEnabled then
      [received.sockets.videoRtpSocket, received.sockets.videoRtpSocket,
        received.sockets.audioRtpSocket, received.sockets.audioRtcpSocket]
    else []

/-- The first part of a configuration, whether it receives or not. -/
theorem received_of_part {sockets : RelaySockets} {received : RelayEndpoints}
    (part : (if config.recvEnabled then (bare sockets).configureRecv linkRet config
      else some (bare sockets)) = some received) :
    received.sockets = sockets ∧ BeforeSending config received := by
  cases recv : config.recvEnabled with
  | true =>
    rw [recv, if_pos rfl] at part
    obtain ⟨same, sinks, srcs, links⟩ := configureRecv_linked part
    refine ⟨same, sinks, ?_, ?_, ?_⟩
    · intro link member
      rw [links] at member
      simp only [bare, List.nil_append, List.mem_cons, List.not_mem_nil, or_false] at member
      rcases member with rfl | rfl | rfl | rfl <;> exact ⟨_, rfl⟩
    · rw [recv, if_pos rfl, if_pos rfl]
      exact configureRecv_caps part
    · rw [recv, if_pos rfl, same]
      exact srcs
  | false =>
    rw [recv, if_neg (by simp)] at part
    obtain rfl := Option.some.inj part
    exact ⟨rfl, rfl, by simp [bare], by simp [recv, bare], by simp [recv, bare]⟩

/-- Pads of the rtpbin feed nothing that the links do not say. -/
theorem fed_of_received {received : RelayEndpoints} (rest : List (UdpPad × UdpPad))
    (links : ∀ link ∈ received.links, ∃ number, link.1 = .udpSrc number)
    (all : final.links = received.links ++ rest) (media : RelayMedia) (protocol : RelayProtocol) :
    final.fed (sendSrcPad media protocol) =
      (rest.filter fun link => link.1 = sendSrcPad media protocol).map Prod.snd := by
  have none : received.links.filter (fun link => link.1 = sendSrcPad media protocol) = [] := by
    rw [List.filter_eq_nil_iff]
    intro link member
    obtain ⟨number, src⟩ := links link member
    -- No udpsrc is a pad of the rtpbin.
    rw [src]
    cases media <;> cases protocol <;> simp [sendSrcPad]
  rw [fed, all, List.filter_append, none, List.nil_append]

/-- A relay that sends does so from its own sockets, whether or not it receives. -/
theorem rtpRelayConfig_sendsTo (send : config.sendEnabled = true)
    (configured : rtpRelayConfig bound linkRet config = some final) (media : RelayMedia)
    (protocol : RelayProtocol) :
    final.SendsTo config media protocol (portProperty 5004 (config.sendPort media protocol)) := by
  obtain ⟨sockets, received, _, receiving, sending⟩ := rtpRelayConfig_parts configured
  obtain ⟨_, before⟩ := received_of_part receiving
  rw [send, if_pos rfl] at sending
  obtain ⟨same, _, sinks, links⟩ := configureSend_linked sending
  have fed := fed_of_received _ before.links links media protocol
  rw [before.sinks] at sinks fed
  -- The links of the sending part are told apart by their pads.
  cases media <;> cases protocol
  · exact ⟨0, _, fed.trans (by decide), by rw [sinks]; rfl, by rw [same]; rfl, rfl, rfl⟩
  · exact ⟨1, _, fed.trans (by decide), by rw [sinks]; rfl, by rw [same]; rfl, rfl, rfl⟩
  · exact ⟨2, _, fed.trans (by decide), by rw [sinks]; rfl, by rw [same]; rfl, rfl, rfl⟩
  · exact ⟨3, _, fed.trans (by decide), by rw [sinks]; rfl, by rw [same]; rfl, rfl, rfl⟩

/-- What a relay has once it is configured, and what it lacks. -/
theorem rtpRelayConfig_has (configured : rtpRelayConfig bound linkRet config = some final) :
    createUdpSockets bound config = some final.sockets ∧
      (final.udpSinks = [] ↔ config.sendEnabled = false) ∧
      (final.udpSrcs = [] ↔ config.recvEnabled = false) ∧
      final.videoRecvCaps = (if config.recvEnabled then
        some ⟨.literal "video", .literal "H264", 90000, none⟩ else none) ∧
      final.audioCaps = if config.recvEnabled then
        some ⟨.literal "audio", .literal "OPUS", 48000, none⟩ else none := by
  obtain ⟨sockets, received, created, receiving, sending⟩ := rtpRelayConfig_parts configured
  obtain ⟨rfl, before⟩ := received_of_part receiving
  have noSrcs : received.udpSrcs = [] ↔ config.recvEnabled = false := by
    rw [← List.map_eq_nil_iff, before.srcs]
    cases config.recvEnabled <;> simp
  cases send : config.sendEnabled with
  | true =>
    rw [send, if_pos rfl] at sending
    obtain ⟨sameSockets, sameSrcs, sinks, _⟩ := configureSend_linked sending
    obtain ⟨_, _, sameVideo, sameAudio⟩ := configureSend_pads sending
    -- The sending part adds its udpsinks, and keeps what the receiving part has set.
    rw [sameSockets, sameSrcs, sameVideo, sameAudio]
    exact ⟨created, by simp [sinks], noSrcs, before.caps⟩
  | false =>
    rw [send, if_neg (by simp)] at sending
    obtain rfl := Option.some.inj sending
    exact ⟨created, by simp [before.sinks], noSrcs, before.caps⟩

/-- Every socket is bound to the port that its endpoint receives at. -/
theorem createUdpSockets_port {sockets : RelaySockets}
    (created : createUdpSockets bound config = some sockets) (media : RelayMedia)
    (protocol : RelayProtocol) :
    (sockets.socket media protocol).port =
      (config.recvPort media protocol).toUInt32.toUInt16 := by
  rw [createUdpSockets_bound created]
  cases media <;> cases protocol <;> rfl

end Parts

end Ichabod
