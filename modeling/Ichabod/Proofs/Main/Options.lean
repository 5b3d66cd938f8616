import Ichabod.Lib.History
import Ichabod.Main.Options
import Ichabod.Proofs.Relay.Endpoints
import Ichabod.Proofs.Relay.MLineIndex

/-! What a command line means, option by option, and what it makes of the relay. -/

namespace Ichabod

/-- The options that are read as numbers. -/
def MainOption.isNumber : MainOption → Bool
  | .output | .broadcast | .audioHost | .videoHost | .unknown | .other => false
  | _ => true

namespace OptionFound

/-- How an option ends the process, if it does. -/
def ending (found : OptionFound) : Option MainEnd :=
  match found.c with
  | .unknown => some (.returned 1)
  | .other => some .aborted
  -- A long option may be given without the argument that it is read from.
  | c => if c.isNumber ∧ found.optarg = none then some (.fault .nullRead) else none

/-- The number that is given for the option, if it is the one that was found. -/
def number (option : MainOption) (found : OptionFound) : Option Int :=
  if found.c = option then found.optarg.map CString.strtol else none

/-- The string that is given for the option, if it is the one that was found. -/
def string (option : MainOption) (found : OptionFound) : Option (Option CString) :=
  if found.c = option then some found.optarg else none

end OptionFound

/-- The last number that is given for an option, as `strtol` reads it, or zero. -/
def lastNumber (option : MainOption) (found : List OptionFound) : Int :=
  (History.latest (OptionFound.number option) found).getD 0

/-- The last string that is given for an option, or none. -/
def lastString (option : MainOption) (found : List OptionFound) : Option CString :=
  (History.latest (OptionFound.string option) found).getD none

/-- What a command line says, as a record. -/
def specified (found : List OptionFound) : MainOptions where
  outputPath := lastString .output found
  broadcastUrl := lastString .broadcast found
  rtpOpts := {
    sendEnabled := false
    recvEnabled := false
    audioSendRtpHost := lastString .audioHost found
    audioSendRtpPort := .ofInt (lastNumber .audioPort found)
    audioRecvRtpPort := .ofInt (lastNumber .audioRecvRtpPort found)
    audioSendRtcpPort := .ofInt (lastNumber .audioRtcpPort found)
    audioRecvRtcpPort := .ofInt (lastNumber .audioRecvRtcpPort found)
    audioSsrc := .ofInt (lastNumber .audioSsrc found)
    audioPt := .ofInt (lastNumber .audioPt found)
    videoSendRtpHost := lastString .videoHost found
    videoSendRtpPort := .ofInt (lastNumber .videoPort found)
    videoRecvRtpPort := .ofInt (lastNumber .videoRecvRtpPort found)
    videoSendRtcpPort := .ofInt (lastNumber .videoRtcpPort found)
    videoRecvRtcpPort := .ofInt (lastNumber .videoRecvRtcpPort found)
    videoSsrc := .ofInt (lastNumber .videoSsrc found)
    videoPt := .ofInt (lastNumber .videoPt found) }

/-- A `long` that is converted to an `unsigned long` keeps its remainder. -/
theorem toUInt64_ofInt (value : Int) : (Int64.ofInt value).toUInt64 = .ofInt value := by
  rw [← UInt64.toNat_inj]
  show (BitVec.ofInt 64 value).toNat = (value % 2 ^ 64).toNat % 2 ^ 64
  rw [BitVec.toNat_ofInt]
  omega

section Parsing

variable {past : List OptionFound} {found : OptionFound}

/-- One more option gives its own number, or leaves the last one as it was. -/
theorem lastNumber_concat (option : MainOption) (past : List OptionFound) (found : OptionFound) :
    lastNumber option (past ++ [found]) = (found.number option).getD (lastNumber option past) := by
  rw [lastNumber, History.latest_concat, lastNumber]
  cases found.number option <;> rfl

/-- One more option gives its own string, or leaves the last one as it was. -/
theorem lastString_concat (option : MainOption) (past : List OptionFound) (found : OptionFound) :
    lastString option (past ++ [found]) = (found.string option).getD (lastString option past) := by
  rw [lastString, History.latest_concat, lastString]
  cases found.string option <;> rfl

/-- An option that ends the process does so whatever was given before it. -/
theorem mainOption_ended {ended : MainEnd} (ends : found.ending = some ended)
    (opts : MainOptions) : mainOption opts found = .error ended := by
  obtain ⟨c, optarg⟩ := found
  -- Only numbers can be missing.
  cases c <;> cases optarg <;>
    simp_all [OptionFound.ending, MainOption.isNumber, mainOption, readNumber, Except.map]

/-- An option that does not end the process is added to what the others say. -/
theorem mainOption_specified (goesOn : found.ending = none) (past : List OptionFound) :
    mainOption (specified past) found = .ok (specified (past ++ [found])) := by
  obtain ⟨c, optarg⟩ := found
  cases c <;> cases optarg <;>
    simp_all [OptionFound.ending, MainOption.isNumber, mainOption, readNumber, Except.map,
      specified, lastNumber_concat, lastString_concat, OptionFound.number, OptionFound.string,
      CString.atoi, CString.atol, toUInt64_ofInt]

/-- The loop goes on from what the options so far say, up to the first one that ends it. -/
theorem parseOptions_from (past rest : List OptionFound) :
    parseOptions (specified past) rest =
      match rest.findSome? OptionFound.ending with
      | some ended => .error ended
      | none => .ok (specified (past ++ rest)) := by
  -- Each option moves from the rest to what has been read.
  induction rest generalizing past with
  | nil => simp [parseOptions]
  | cons found rest ih =>
    rw [parseOptions, List.findSome?_cons]
    cases ends : found.ending with
    | some ended => rw [mainOption_ended ends]
    | none =>
      rw [mainOption_specified ends]
      simp only [ih, List.append_assoc, List.singleton_append]

/-- Nothing is said before the first option. -/
theorem specified_nil : specified [] = .initial := by
  decide

end Parsing

/-- The loop gives the record of the whole command line, or the first end on it. -/
theorem parseOptions_initial (found : List OptionFound) :
    parseOptions .initial found =
      match found.findSome? OptionFound.ending with
      | some ended => .error ended
      | none => .ok (specified found) := by
  rw [← specified_nil, parseOptions_from, List.nil_append]

/--
The command line is read as the record of its last numbers and strings, or the first option that
ends the process ends it before a bin is made.
-/
theorem main_eq (found : List OptionFound) :
    main found =
      match found.findSome? OptionFound.ending with
      | some ended => .error ended
      | none => .ok (mainCalls (specified found)) := by
  rw [main, parseOptions_initial]
  cases found.findSome? OptionFound.ending <;> rfl

variable {found : List OptionFound} {calls : List BinCall}

/-- The calls of a command line that is read to its end are those for its record. -/
theorem calls_of_main (parsed : main found = .ok calls) : calls = mainCalls (specified found) := by
  rw [main, parseOptions_initial] at parsed
  -- A command line on which an option ends the process has no calls.
  cases ends : found.findSome? OptionFound.ending with
  | some ended =>
    rw [ends] at parsed
    cases parsed
  | none =>
    rw [ends] at parsed
    exact (Except.ok.inj parsed).symm

section Relay

variable {rtpOpts : RtpOptions}

/-- The command line has both ports for receiving media. -/
def AsksToReceive (found : List OptionFound) : Prop :=
  Int32.ofInt (lastNumber .videoRecvRtpPort found) ≠ 0 ∧
    Int32.ofInt (lastNumber .audioRecvRtpPort found) ≠ 0

/-- The command line has everything that is needed to send media. -/
def AsksToSend (found : List OptionFound) : Prop :=
  -- The control ports may be left out.
  Int32.ofInt (lastNumber .audioPort found) ≠ 0 ∧ (lastString .audioHost found).isSome = true ∧
    UInt64.ofInt (lastNumber .audioSsrc found) ≠ 0 ∧
    Int32.ofInt (lastNumber .videoPort found) ≠ 0 ∧ (lastString .videoHost found).isSome = true ∧
    UInt64.ofInt (lastNumber .videoSsrc found) ≠ 0 ∧
    Int8.ofInt (lastNumber .videoPt found) ≠ 0 ∧ Int8.ofInt (lastNumber .audioPt found) ≠ 0

instance (found : List OptionFound) : Decidable (AsksToReceive found) :=
  inferInstanceAs (Decidable (_ ∧ _))

instance (found : List OptionFound) : Decidable (AsksToSend found) :=
  inferInstanceAs (Decidable (_ ∧ _))

/-- The option for the host that media is sent to. -/
def hostOption : RelayMedia → MainOption
  | .video => .videoHost
  | .audio => .audioHost

/-- The option for the port that packets are sent to. -/
def sendPortOption : RelayMedia → RelayProtocol → MainOption
  | .video, .rtp => .videoPort
  | .video, .rtcp => .videoRtcpPort
  | .audio, .rtp => .audioPort
  | .audio, .rtcp => .audioRtcpPort

/-- The option for the port that packets are received at. -/
def recvPortOption : RelayMedia → RelayProtocol → MainOption
  | .video, .rtp => .videoRecvRtpPort
  | .video, .rtcp => .videoRecvRtcpPort
  | .audio, .rtp => .audioRecvRtpPort
  | .audio, .rtcp => .audioRecvRtcpPort

/-- What the command line says of the relay, with the two directions that it asks for. -/
def relayAsked (found : List OptionFound) : RtpOptions :=
  { (specified found).rtpOpts with
    recvEnabled := decide (AsksToReceive found)
    sendEnabled := decide (AsksToSend found) }

/-- The relay is enabled as the command line asks for, and keeps everything else. -/
theorem enable_specified (found : List OptionFound) :
    (specified found).rtpOpts.enableRecv.enableSend = relayAsked found := by
  have receiving : (specified found).rtpOpts.enableRecv =
      { (specified found).rtpOpts with recvEnabled := decide (AsksToReceive found) } := by
    by_cases receives : AsksToReceive found
    · exact (if_pos receives).trans (by simp [receives])
    · exact (if_neg receives).trans (by simp [receives, specified])
  -- The first test changes nothing that the second one looks at.
  rw [receiving]
  by_cases sends : AsksToSend found
  · exact (if_pos sends).trans (by simp [relayAsked, sends])
  · exact (if_neg sends).trans (by simp [relayAsked, sends, specified])

/-- A relay is attached exactly if the command line asks for one of the directions. -/
theorem attachRtp_mem_iff (parsed : main found = .ok calls) :
    .attachRtp rtpOpts ∈ calls ↔
      (AsksToReceive found ∨ AsksToSend found) ∧ rtpOpts = relayAsked found := by
  rw [calls_of_main parsed, mainCalls, enable_specified]
  by_cases asks : AsksToReceive found ∨ AsksToSend found
  · have enabled : ((relayAsked found).recvEnabled || (relayAsked found).sendEnabled) = true := by
      simpa [relayAsked] using asks
    simp [enabled, asks]
  · have disabled : ((relayAsked found).recvEnabled || (relayAsked found).sendEnabled) = false := by
      simpa [relayAsked] using asks
    simp [disabled, asks]

/-- A payload type of seven bits is found by the low eight bits of the number that was given. -/
theorem promoted_eq_iff (value : Int) {pt : UInt32} (small : pt.toNat < 128) :
    (Int8.ofInt value).toInt32.toUInt32 = pt ↔ value % 256 = pt.toNat := by
  have promoted := toNat_promoted (Int8.ofInt value)
  rw [Int8.toInt_ofInt] at promoted
  have cut : value.bmod Int8.size =
      if value % 256 < 128 then value % 256 else value % 256 - 256 := Int.bmod_def value 256
  rw [← UInt32.toNat_inj]
  -- Negative numbers are too large when they are taken for unsigned.
  generalize (Int8.ofInt value).toInt32.toUInt32.toNat = found at promoted ⊢
  split at promoted <;> split at cut <;> omega

/-- The caps that a relay answers with, for a payload type of seven bits. -/
theorem requestPtMap_asked {pthis : RelayEndpoints} {pt : UInt32} (small : pt.toNat < 128)
    (videoCaps : pthis.videoRecvCaps = if AsksToReceive found then
      some ⟨.literal "video", .literal "H264", 90000, none⟩ else none)
    (audioCaps : pthis.audioCaps = if AsksToReceive found then
      some ⟨.literal "audio", .literal "OPUS", 48000, none⟩ else none) :
    requestPtMap (relayAsked found) pthis pt =
      if ¬ AsksToReceive found then none
      else if lastNumber .videoPt found % 256 = pt.toNat then
        some ⟨.literal "video", .literal "H264", 90000, none⟩
      else if lastNumber .audioPt found % 256 = pt.toNat then
        some ⟨.literal "audio", .literal "OPUS", 48000, none⟩
      else none := by
  have video := promoted_eq_iff (lastNumber .videoPt found) small
  have audio := promoted_eq_iff (lastNumber .audioPt found) small
  simp only [requestPtMap, relayAsked, specified, video, audio, videoCaps, audioCaps]
  -- A relay that does not receive has no caps to answer with.
  by_cases receives : AsksToReceive found
  · simp [receives]
  · simp [receives]

/-- The ports and hosts of the relay that is asked for. -/
theorem relayAsked_ends (found : List OptionFound) (media : RelayMedia)
    (protocol : RelayProtocol) :
    (relayAsked found).recvPort media protocol =
        .ofInt (lastNumber (recvPortOption media protocol) found) ∧
      (relayAsked found).sendPort media protocol =
        .ofInt (lastNumber (sendPortOption media protocol) found) ∧
      (relayAsked found).sendHost media = lastString (hostOption media) found := by
  cases media <;> cases protocol <;> exact ⟨rfl, rfl, rfl⟩

/-- A command line that asks to send has a host for either media. -/
theorem AsksToSend.host (sends : AsksToSend found) (media : RelayMedia) :
    ∃ host, lastString (hostOption media) found = some host := by
  obtain ⟨_, audioHost, _, _, videoHost, _⟩ := sends
  cases media with
  | video => exact Option.isSome_iff_exists.mp videoHost
  | audio => exact Option.isSome_iff_exists.mp audioHost

/--
What the command line says is what the sockets of the relay do.

A relay that is to send does so from the local ports to the hosts and ports that were given last,
and each of its hosts was given. A relay that is not to send has no udpsink, and one that is not to
receive no udpsrc. Payload types are answered by the low eight bits of the numbers given last.
-/
theorem relay_of_command_line (parsed : main found = .ok calls)
    (attached : .attachRtp rtpOpts ∈ calls) {bound : Nat → Bool} {linkRet : Nat → Int32}
    {final : RelayEndpoints}
    (configured : rtpRelayConfig bound linkRet rtpOpts.toRtpRelayConfig = some final) :
    (AsksToSend found → ∀ media protocol, ∃ number sink host,
      final.fed (sendSrcPad media protocol) = [.udpSink number] ∧
        final.udpSinks[number]? = some sink ∧
        sink.socket = final.sockets.socket media protocol ∧
        sink.socket.port =
          (Int32.ofInt (lastNumber (recvPortOption media protocol) found)).toUInt32.toUInt16 ∧
        lastString (hostOption media) found = some host ∧ sink.host = some host ∧
        sink.port =
          portProperty 5004 (.ofInt (lastNumber (sendPortOption media protocol) found))) ∧
      (final.udpSinks = [] ↔ ¬ AsksToSend found) ∧
      (final.udpSrcs = [] ↔ ¬ AsksToReceive found) ∧
      ∀ pt : UInt32, pt.toNat < 128 → requestPtMap rtpOpts final pt =
        if ¬ AsksToReceive found then none
        else if lastNumber .videoPt found % 256 = pt.toNat then
          some ⟨.literal "video", .literal "H264", 90000, none⟩
        else if lastNumber .audioPt found % 256 = pt.toNat then
          some ⟨.literal "audio", .literal "OPUS", 48000, none⟩
        else none := by
  -- The relay is configured with the very record that the options were read into.
  obtain ⟨_, rfl⟩ := (attachRtp_mem_iff parsed).mp attached
  obtain ⟨created, sinks, srcs, videoCaps, audioCaps⟩ := rtpRelayConfig_has configured
  refine ⟨fun sends media protocol => ?_, ?_, ?_, fun pt small => ?_⟩
  · have enabled : (relayAsked found).sendEnabled = true := by simpa [relayAsked] using sends
    obtain ⟨number, sink, fed, stored, socket, host, port⟩ :=
      rtpRelayConfig_sendsTo enabled configured media protocol
    obtain ⟨recvPort, sendPort, sendHost⟩ := relayAsked_ends found media protocol
    obtain ⟨given, last⟩ := sends.host media
    refine ⟨number, sink, given, fed, stored, socket, ?_, last, ?_, ?_⟩
    · rw [socket, createUdpSockets_port created, recvPort]
    · rw [host, sendHost, last]
    · rw [port, sendPort]
  · rw [sinks]
    simp [relayAsked]
  · rw [srcs]
    simp [relayAsked]
  · apply requestPtMap_asked small
    · simpa [relayAsked] using videoCaps
    · simpa [relayAsked] using audioCaps

end Relay

/-- A command line for both directions, which gives the port for video packets twice. -/
def bothDirections : List OptionFound :=
  [⟨.videoRecvRtpPort, some (.literal "6002")⟩, ⟨.audioRecvRtpPort, some (.literal "6000")⟩,
    ⟨.videoPort, some (.literal "1")⟩, ⟨.videoHost, some (.literal "10.0.0.2")⟩,
    ⟨.videoSsrc, some (.literal "11")⟩, ⟨.videoPt, some (.literal "96")⟩,
    ⟨.audioPort, some (.literal "5000")⟩, ⟨.audioHost, some (.literal "10.0.0.1")⟩,
    ⟨.audioSsrc, some (.literal "12")⟩, ⟨.audioPt, some (.literal "111")⟩,
    ⟨.videoPort, some (.literal "5002")⟩]

/-- The second port is the one that video packets are sent to. -/
theorem bothDirections_sends_last :
    ∃ final, rtpRelayConfig (fun _ => true) (fun _ => 0)
        (relayAsked bothDirections).toRtpRelayConfig = some final ∧
      (∃ number sink host,
        final.fed (sendSrcPad .video .rtp) = [.udpSink number] ∧
          final.udpSinks[number]? = some sink ∧
          sink.socket = final.sockets.socket .video .rtp ∧
          sink.socket.port =
            (Int32.ofInt (lastNumber .videoRecvRtpPort bothDirections)).toUInt32.toUInt16 ∧
          lastString .videoHost bothDirections = some host ∧ sink.host = some host ∧
          sink.port = portProperty 5004 (.ofInt (lastNumber .videoPort bothDirections))) ∧
      lastNumber .videoPort bothDirections = 5002 := by
  -- The port 1 of the first option is overwritten by the second one.
  have asked : AsksToReceive bothDirections ∧ AsksToSend bothDirections := by decide
  obtain ⟨final, configured⟩ : ∃ final, rtpRelayConfig (fun _ => true) (fun _ => 0)
      (relayAsked bothDirections).toRtpRelayConfig = some final := ⟨_, rfl⟩
  have parsed : main bothDirections = .ok (mainCalls (specified bothDirections)) := by rfl
  have attached : .attachRtp (relayAsked bothDirections) ∈ mainCalls (specified bothDirections) :=
    (attachRtp_mem_iff parsed).mpr ⟨.inl asked.1, rfl⟩
  obtain ⟨sends, _⟩ := relay_of_command_line parsed attached configured
  exact ⟨final, configured, sends asked.2 .video .rtp, by decide⟩

end Ichabod
