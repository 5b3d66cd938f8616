import Ichabod.Proofs.Horseman.EndToEnd
import Ichabod.Proofs.Media.Timestamps

/-! One calibration for a whole stream: all images of a run are timed against the first one. -/

namespace Ichabod

open Interleaving Threads

variable {Double : Type}

/-- What a job gives to a source that takes data, for the time of each timestamp. -/
def Job.given (toUint64 : Double → UInt64) (pts : UInt64 → GstClockTime) :
    Job Double → Option AppSrcItem
  | .frame payload timestamp =>
    some (.buffer ⟨base64Decode payload payload.length, pts (toUint64 timestamp),
      pts (toUint64 timestamp)⟩)
  | .eos => some .endOfStream
  | .output _ _ => none

section Stamps

variable (toUint64 : Double → UInt64) (adjust : GstClockTime → Calibration → GstClockTime)
  (readings : Nat → CallReading) {pthis : ScreencastSrc} {calibration : Calibration}

end Stamps

variable [Zero Double]

end Ichabod
