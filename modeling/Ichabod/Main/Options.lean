import Ichabod.Horseman.Message
import Ichabod.Relay.RtpConfig

/-! The command line: what `main` makes of its options, and the calls that it makes for them. -/

namespace Ichabod

/-- The cases of the `switch` on what `getopt_long` returns. -/
inductive MainOption where
  | output
  | broadcast
  | audioPort
  | audioHost
  | audioSsrc
  | audioPt
  | audioRtcpPort
  | audioRecvRtpPort
  | audioRecvRtcpPort
  | videoPort
  | videoHost
  | videoSsrc
  | videoPt
  | videoRtcpPort
  | videoRecvRtpPort
  | videoRecvRtcpPort
  /-- A question mark, for an option that is not known. -/
  | unknown
  | other
deriving DecidableEq

/-- One result of `getopt_long`, where a long option may come without its argument. -/
structure OptionFound where
  c : MainOption
  optarg : Option CString
deriving DecidableEq

/-- All of `struct rtp_relay_config_s`. -/
structure RtpOptions extends RtpRelayConfig where
  audioSsrc : UInt64
  audioPt : Int8
  videoSsrc : UInt64
  videoPt : Int8
deriving DecidableEq

/-- The variables that the options are read into. -/
structure MainOptions where
  outputPath : Option CString
  broadcastUrl : Option CString
  rtpOpts : RtpOptions
deriving DecidableEq

/-- How `main` ends before it has called anything. -/
inductive MainEnd where
  | returned (code : Int32)
  | fault (fault : Fault)
  /-- The call of `abort`. -/
  | aborted
deriving DecidableEq

/-- The variables in front of the loop. -/
def MainOptions.initial : MainOptions where
  outputPath := none
  broadcastUrl := none
  rtpOpts := {
    sendEnabled := false
    recvEnabled := false
    audioSendRtpHost := none
    audioSendRtpPort := 0
    audioRecvRtpPort := 0
    audioSendRtcpPort := 0
    audioRecvRtcpPort := 0
    audioSsrc := 0
    audioPt := 0
    videoSendRtpHost := none
    videoSendRtpPort := 0
    videoRecvRtpPort := 0
    videoSendRtcpPort := 0
    videoRecvRtcpPort := 0
    videoSsrc := 0
    videoPt := 0 }

/-- `atoi` or `atol`, which read their argument whether or not it is there. -/
def readNumber {Number : Type} (convert : CString → Number) :
    Option CString → Except MainEnd Number
  | none => .error (.fault .nullRead)
  | some optarg => .ok (convert optarg)

/-- One turn of the loop over the options. -/
def mainOption (opts : MainOptions) (found : OptionFound) : Except MainEnd MainOptions :=
  match found.c with
  | .output => .ok { opts with outputPath := found.optarg }
  | .broadcast => .ok { opts with broadcastUrl := found.optarg }
  | .audioPort => (readNumber CString.atoi found.optarg).map fun port =>
    { opts with rtpOpts := { opts.rtpOpts with audioSendRtpPort := port } }
  | .audioRecvRtpPort => (readNumber CString.atoi found.optarg).map fun port =>
    { opts with rtpOpts := { opts.rtpOpts with audioRecvRtpPort := port } }
  | .audioRecvRtcpPort => (readNumber CString.atoi found.optarg).map fun port =>
    { opts with rtpOpts := { opts.rtpOpts with audioRecvRtcpPort := port } }
  | .audioHost =>
    .ok { opts with rtpOpts := { opts.rtpOpts with audioSendRtpHost := found.optarg } }
  | .audioSsrc => (readNumber CString.atol found.optarg).map fun ssrc =>
    -- A negative number becomes a large one.
    { opts with rtpOpts := { opts.rtpOpts with audioSsrc := ssrc.toUInt64 } }
  | .audioPt => (readNumber CString.atoi found.optarg).map fun pt =>
    -- A `char` keeps the low eight bits.
    { opts with rtpOpts := { opts.rtpOpts with audioPt := pt.toInt8 } }
  | .audioRtcpPort => (readNumber CString.atoi found.optarg).map fun port =>
    { opts with rtpOpts := { opts.rtpOpts with audioSendRtcpPort := port } }
  | .videoPort => (readNumber CString.atoi found.optarg).map fun port =>
    { opts with rtpOpts := { opts.rtpOpts with videoSendRtpPort := port } }
  | .videoHost =>
    .ok { opts with rtpOpts := { opts.rtpOpts with videoSendRtpHost := found.optarg } }
  | .videoSsrc => (readNumber CString.atol found.optarg).map fun ssrc =>
    { opts with rtpOpts := { opts.rtpOpts with videoSsrc := ssrc.toUInt64 } }
  | .videoPt => (readNumber CString.atoi found.optarg).map fun pt =>
    { opts with rtpOpts := { opts.rtpOpts with videoPt := pt.toInt8 } }
  | .videoRtcpPort => (readNumber CString.atoi found.optarg).map fun port =>
    { opts with rtpOpts := { opts.rtpOpts with videoSendRtcpPort := port } }
  | .videoRecvRtpPort => (readNumber CString.atoi found.optarg).map fun port =>
    { opts with rtpOpts := { opts.rtpOpts with videoRecvRtpPort := port } }
  | .videoRecvRtcpPort => (readNumber CString.atoi found.optarg).map fun port =>
    { opts with rtpOpts := { opts.rtpOpts with videoRecvRtcpPort := port } }
  | .unknown => .error (.returned 1)
  | .other => .error .aborted

/-- The loop over the options, in the order in which `getopt_long` returns them. -/
def parseOptions : MainOptions → List OptionFound → Except MainEnd MainOptions
  | opts, [] => .ok opts
  | opts, found :: rest =>
    match mainOption opts found with
    | .ok opts => parseOptions opts rest
    | .error ended => .error ended

/-- The first test behind the loop, which enables a relay to receive. -/
def RtpOptions.enableRecv (rtpOpts : RtpOptions) : RtpOptions :=
  if rtpOpts.videoRecvRtpPort ≠ 0 ∧ rtpOpts.audioRecvRtpPort ≠ 0 then
    { rtpOpts with recvEnabled := true }
  else rtpOpts

/-- The second test, which enables it to send. -/
def RtpOptions.enableSend (rtpOpts : RtpOptions) : RtpOptions :=
  if rtpOpts.audioSendRtpPort ≠ 0 ∧ rtpOpts.audioSendRtpHost.isSome ∧ rtpOpts.audioSsrc ≠ 0 ∧
      rtpOpts.videoSendRtpPort ≠ 0 ∧ rtpOpts.videoSendRtpHost.isSome ∧ rtpOpts.videoSsrc ≠ 0 ∧
      rtpOpts.videoPt ≠ 0 ∧ rtpOpts.audioPt ≠ 0 then
    { rtpOpts with sendEnabled := true }
  else rtpOpts

/-- A call that `main` makes for a bin. -/
inductive BinCall where
  | alloc
  | attachFile (outputPath : CString)
  | attachRtmp (broadcastUrl : CString)
  | attachRtp (rtpOpts : RtpOptions)
  | start
deriving DecidableEq

/-- The calls of `main`, behind the loop. -/
def mainCalls (opts : MainOptions) : List BinCall :=
  let rtpOpts := opts.rtpOpts.enableRecv.enableSend
  [.alloc] ++ (opts.outputPath.map BinCall.attachFile).toList ++
    (opts.broadcastUrl.map BinCall.attachRtmp).toList ++
    (if rtpOpts.recvEnabled || rtpOpts.sendEnabled then [.attachRtp rtpOpts] else []) ++
    [.start]

/-- `main`, up to the return of `ichabod_bin_start`. -/
def main (found : List OptionFound) : Except MainEnd (List BinCall) :=
  (parseOptions .initial found).map mainCalls

/-- `request_pt_map`, for the caps of a relay that has been configured. -/
def requestPtMap (config : RtpOptions) (pthis : RelayEndpoints) (pt : UInt32) : Option RtpCaps :=
  -- The `char` is promoted to `int` before it is compared with the `guint`.
  if config.videoPt.toInt32.toUInt32 = pt then pthis.videoRecvCaps
  else if config.audioPt.toInt32.toUInt32 = pt then pthis.audioCaps
  else none

end Ichabod
