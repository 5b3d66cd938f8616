import Mathlib.Data.List.Basic

/-! Attaching outputs to the bin, with the status of every link that an attachment makes. -/

namespace Ichabod

/-- A `GstPadLinkReturn`: zero for a link that was made, or one of several negative codes. -/
structure GstPadLinkReturn where
  code : BitVec 32
  okOrError : code = 0 ∨ code.msb = true
deriving DecidableEq

/-- The links that connect one output. -/
inductive OutputLink where
  | audioTeeToQueue
  | queueToAudioMux
  | videoTeeToQueue
  | queueToVideoMux
  | muxToSink
deriving DecidableEq

/-- All five of them. -/
def OutputLink.all : List OutputLink :=
  [.audioTeeToQueue, .queueToAudioMux, .videoTeeToQueue, .queueToVideoMux, .muxToSink]

/-- What attachments have made of the bin. -/
structure IchabodBin where
  /-- The links in place, each with the number of its output. -/
  links : List (Nat × OutputLink)
  /-- What the attach calls returned, one for each output. -/
  returns : List (BitVec 32)
deriving DecidableEq

/-- The kinds of outputs, each with an attach function of its own. -/
inductive OutputKind where
  | file
  | rtmp
deriving DecidableEq

/-- One attach call, with the result of every link it asks for. -/
structure Attachment where
  kind : OutputKind
  aqRet : GstPadLinkReturn
  asRet : GstPadLinkReturn
  vqRet : GstPadLinkReturn
  vsRet : GstPadLinkReturn
  /-- What `gst_element_link` returns for the muxer and the sink. -/
  result : Bool
deriving DecidableEq

namespace IchabodBin

/-- A bin without outputs. -/
def alloc : IchabodBin :=
  ⟨[], []⟩

/-- `gst_pad_link`, which returns zero exactly when it makes the link. -/
def gstPadLink (bin : IchabodBin) (link : Nat × OutputLink) (ret : GstPadLinkReturn) :
    IchabodBin :=
  if ret.code = 0 then { bin with links := bin.links ++ [link] } else bin

/-- `gst_element_link`, which returns true exactly when it makes the link. -/
def gstElementLink (bin : IchabodBin) (link : Nat × OutputLink) (result : Bool) : IchabodBin :=
  if result then { bin with links := bin.links ++ [link] } else bin

/-- `ichabod_bin_attach_mux_sink_pad`, for the pads of the given output's muxer. -/
def attachMuxSinkPad (pthis : IchabodBin) (output : Nat) (attachment : Attachment) :
    IchabodBin × BitVec 32 :=
  let pthis := pthis.gstPadLink (output, .audioTeeToQueue) attachment.aqRet
  let pthis := pthis.gstPadLink (output, .queueToAudioMux) attachment.asRet
  let pthis := pthis.gstPadLink (output, .videoTeeToQueue) attachment.vqRet
  let pthis := pthis.gstPadLink (output, .queueToVideoMux) attachment.vsRet
  (pthis, attachment.aqRet.code &&& attachment.asRet.code &&& attachment.vqRet.code &&&
    attachment.vsRet.code)

/-- `ichabod_attach_rtmp`. -/
def attachRtmp (bin : IchabodBin) (output : Nat) (attachment : Attachment) :
    IchabodBin × BitVec 32 :=
  -- The result of this link is not looked at.
  let bin := bin.gstElementLink (output, .muxToSink) attachment.result
  bin.attachMuxSinkPad output attachment

/-- `ichabod_attach_file`, which has no result if its assertion fails. -/
def attachFile (bin : IchabodBin) (output : Nat) (attachment : Attachment) :
    Option (IchabodBin × BitVec 32) :=
  let (bin, ret) := bin.attachMuxSinkPad output attachment
  if ret ≠ 0 then none
  else
    let bin := bin.gstElementLink (output, .muxToSink) attachment.result
    some (bin, if attachment.result then 0 else 1)

/-- One attach call, which makes a new muxer, a new sink and a new queue for its output. -/
def attach (bin : IchabodBin) (attachment : Attachment) : Option IchabodBin :=
  let output := bin.returns.length
  let called := match attachment.kind with
    | .rtmp => some (bin.attachRtmp output attachment)
    | .file => bin.attachFile output attachment
  called.map fun (bin, ret) => { bin with returns := bin.returns ++ [ret] }

end IchabodBin

end Ichabod
