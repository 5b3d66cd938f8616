/-! The wall clock that frames are stamped with, and its calibration against a master clock. -/

namespace Ichabod

/-- A `GstClockTime` in nanoseconds. -/
abbrev GstClockTime := UInt64

/-- What `clock_gettime` stores for the realtime clock. -/
structure Timespec where
  tvSec : Int64
  tvNsec : Int64
deriving DecidableEq

/-- `gst_wall_clock_get_internal_time`, for what the realtime clock reads. -/
def gstWallClockGetInternalTime (spec : Timespec) : GstClockTime :=
  let epochtime := spec.tvSec.toUInt64
  let epochtime := epochtime * 1000000000
  epochtime + spec.tvNsec.toUInt64

/-- The calibration of a clock: two corresponding times, and the rate between them. -/
structure Calibration where
  internal : GstClockTime
  external : GstClockTime
  num : GstClockTime
  denom : GstClockTime
deriving DecidableEq

/-- `struct _GstWallClock`, with its master identified by a number. -/
structure GstWallClock where
  master : Option Nat
  calibration : Calibration
deriving DecidableEq

/-- `gst_wall_clock_new`, with the calibration that every new clock has. -/
def GstWallClock.new : GstWallClock :=
  ⟨none, ⟨0, 0, 1, 1⟩⟩

/-- The clock when GStreamer, which slaves it to its master, has set a calibration, if it has. -/
def GstWallClock.slaved (clock : GstWallClock) (calibration : Option Calibration) :
    GstWallClock :=
  { clock with calibration := calibration.getD clock.calibration }

/-- `gst_wall_clock_adjust_safe`, on top of `gst_clock_adjust_with_calibration`. -/
def gstWallClockAdjustSafe (adjust : GstClockTime → Calibration → GstClockTime)
    (clock : GstWallClock) (internal : GstClockTime) : GstClockTime :=
  adjust internal clock.calibration

end Ichabod
