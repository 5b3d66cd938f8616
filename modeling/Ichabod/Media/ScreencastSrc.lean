import Ichabod.Horseman.Message
import Ichabod.Media.Base64
import Ichabod.Media.WallClock

/-! The screencast source, from a frame's text to the buffer that its appsrc is given. -/

namespace Ichabod

/-- A `GstBuffer` wrapped around decoded bytes, which may be NULL. -/
structure GstBuffer where
  data : Option Bytes
  dts : GstClockTime
  pts : GstClockTime
deriving DecidableEq

/-- What an appsrc is given. -/
inductive AppSrcItem where
  | buffer (buf : GstBuffer)
  | endOfStream
deriving DecidableEq

/-- `struct screencast_src_s`, with what its element was given so far. -/
structure ScreencastSrc where
  allowData : Bool
  /-- The clock that the pipeline has given to the element, if it has. -/
  elementClock : Option Nat
  wallClock : GstWallClock
  pushed : List AppSrcItem
deriving DecidableEq

/-- What the two clocks read while the wall clock is calibrated. -/
structure ClockReading where
  internal : Timespec
  external : GstClockTime
deriving DecidableEq

/-- What a call meets, up to the time at which it reads the calibration for its stamp. -/
structure CallReading extends ClockReading where
  /-- What the slaving to the master clock has made of the calibration since, if anything. -/
  slaved : Option Calibration
deriving DecidableEq

/-- The second section under the lock, which adopts a new master clock. -/
def adoptMasterClock (wallClock : GstWallClock) (masterClock : Nat) (reading : ClockReading) :
    GstWallClock :=
  if some masterClock ≠ wallClock.master then
    -- The clocks are assumed to run at the same speed.
    { master := some masterClock
      calibration := ⟨gstWallClockGetInternalTime reading.internal, reading.external, 1, 1⟩ }
  else wallClock

/-- The buffer that `screencast_src_push_frame` makes of a frame. -/
def frameBuffer (adjust : GstClockTime → Calibration → GstClockTime) (wallClock : GstWallClock)
    (timestamp : UInt64) (frameBase64 : CString) : GstBuffer :=
  let bImg := base64Decode frameBase64.bytes frameBase64.strlen
  -- The timestamp is in milliseconds.
  let timestamp := timestamp * 1000000
  let ts := gstWallClockAdjustSafe adjust wallClock timestamp
  { data := bImg, dts := ts, pts := ts }

/-- `screencast_src_push_frame`. -/
def screencastSrcPushFrame (adjust : GstClockTime → Calibration → GstClockTime)
    (reading : CallReading) (pthis : ScreencastSrc) (timestamp : UInt64)
    (frameBase64 : CString) : ScreencastSrc :=
  if pthis.allowData = false then pthis
  else
    match pthis.elementClock with
    | none => pthis
    | some masterClock =>
      let wallClock := adoptMasterClock pthis.wallClock masterClock reading.toClockReading
      -- From `gst_clock_set_master` on, GStreamer may replace the calibration at any time.
      let wallClock := wallClock.slaved reading.slaved
      let buf := frameBuffer adjust wallClock timestamp frameBase64
      { pthis with wallClock := wallClock, pushed := pthis.pushed ++ [.buffer buf] }

/-- `screencast_src_send_eos`. -/
def screencastSrcSendEos (pthis : ScreencastSrc) : ScreencastSrc :=
  { pthis with pushed := pthis.pushed ++ [.endOfStream] }

variable {Double : Type}

/-- A frame that does not end the stream comes with data. -/
theorem HorsemanFrame.hasData (frame : HorsemanFrame Double) (running : ¬ frame.eos = true) :
    frame.szData.isSome = true := by
  -- The record carries the proof that exactly its end-of-stream frames are without data.
  have agrees := frame.dataUnlessEos
  cases data : frame.szData with
  | none =>
    rw [data] at agrees
    exact absurd agrees.symm running
  | some szData => rfl

/-- `on_horseman_video_frame`, where `toUint64` converts a timestamp to `uint64_t`. -/
def onHorsemanVideoFrame (toUint64 : Double → UInt64)
    (adjust : GstClockTime → Calibration → GstClockTime) (reading : CallReading)
    (pthis : ScreencastSrc) (frame : HorsemanFrame Double) : ScreencastSrc :=
  if eos : frame.eos = true then screencastSrcSendEos pthis
  else
    screencastSrcPushFrame adjust reading pthis (toUint64 frame.timestamp)
      (frame.szData.get (frame.hasData eos))

end Ichabod
