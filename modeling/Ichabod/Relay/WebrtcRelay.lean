import Ichabod.Control.Receive
import Ichabod.Control.Send

/-! What a webrtc relay does on the messages of its control, and what it sends through it. -/

namespace Ichabod

/-- What the SDP library answers for an answer of the peer. -/
structure SdpResults where
  /-- The result of `gst_sdp_message_new`. -/
  messageNew : Int32
  /-- The result of `gst_sdp_message_parse_buffer` for a text. -/
  parseBuffer : Bytes → Int32
  /-- Whether `gst_webrtc_session_description_new` returns a description. -/
  descriptionNew : Bool

/-- A signal that the relay emits on its webrtcbin. -/
inductive WebrtcbinSignal where
  | setRemoteDescription (answer : Bytes)
  | addIceCandidate (mLineIndex : UInt32) (candidate : Option CString)
deriving DecidableEq

/-- `g_signal_emit_by_name` on the webrtcbin, which only warns as long as there is none. -/
def emitOn (webrtcbin : Bool) (signal : WebrtcbinSignal) : Option WebrtcbinSignal :=
  if webrtcbin then some signal else none

/-- `on_remote_answer`. -/
def onRemoteAnswer (webrtcbin : Bool) (sdp : SdpResults) (remoteAnswer : Option CString) :
    Except Fault (Option WebrtcbinSignal) :=
  if sdp.messageNew ≠ 0 then .error .assertion
  else
    match remoteAnswer with
    -- The pointer goes into `strlen` as it is.
    | none => .error .nullRead
    | some remoteAnswer =>
      if sdp.parseBuffer remoteAnswer.text ≠ 0 then .error .assertion
      else if sdp.descriptionNew = false then .error .assertion
      else .ok (emitOn webrtcbin (.setRemoteDescription remoteAnswer.text))

/-- `on_remote_candidate`, where the index is read back as a `guint`. -/
def onRemoteCandidate (webrtcbin : Bool) (mLineIndex : Int8) (candidate : Option CString) :
    Option WebrtcbinSignal :=
  -- As a variable argument, the index is promoted to `int` first.
  emitOn webrtcbin (.addIceCandidate mLineIndex.toInt32.toUInt32 candidate)

/--
The functions that `webrtc_relay_alloc` registers, with the signal that each of them emits.

The control is started before the webrtcbin is made, so `webrtcbin` tells whether it is there.
-/
def webrtcRelayCallback (webrtcbin : Bool) (sdp : SdpResults) :
    ControlCallback → Except Fault (Option WebrtcbinSignal)
  -- `on_create_offer` only prints.
  | .createOffer => .ok none
  | .remoteAnswer remoteAnswer => onRemoteAnswer webrtcbin sdp remoteAnswer
  | .remoteCandidate mLineIndex candidate =>
    .ok (onRemoteCandidate webrtcbin mLineIndex candidate)

/-- Whether a registered function returns, which the webrtcbin has no part in. -/
def webrtcRelayRegistered (sdp : SdpResults) (callback : ControlCallback) : Except Fault Unit :=
  (webrtcRelayCallback true sdp callback).map fun _ => ()

/-- `send_ice_candidate_message`, which passes the low eight bits of the index on. -/
def sendIceCandidateMessage (mlineindex : UInt32) (candidate : CString) : ControlCall :=
  .sendIceCandidate mlineindex.toUInt8.toInt8 candidate

end Ichabod
