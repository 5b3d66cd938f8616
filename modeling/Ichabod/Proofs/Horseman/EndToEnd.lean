import Ichabod.Proofs.Horseman.Refinement
import Ichabod.Proofs.Media.FrameRoundTrip

/-! From the messages of the socket to what a single worker gives to the appsrc. -/

namespace Ichabod

open Interleaving Threads

variable {Double : Type}

/-- What counts of an item that an appsrc is given. -/
inductive SourceItem where
  /-- The bytes of a buffer, or its null pointer. -/
  | image (data : Option Bytes)
  | endOfStream
deriving DecidableEq

/-- An item without its timestamps. -/
def AppSrcItem.item : AppSrcItem → SourceItem
  | .buffer buf => .image buf.data
  | .endOfStream => .endOfStream

/-- The decoder is given the text of a string. -/
theorem base64Decode_text (payload : CString) :
    base64Decode payload.bytes payload.strlen = base64Decode payload.text payload.text.length := by
  rw [base64Decode, base64Decode, CString.take_strlen, List.take_length]

section Effects

variable (toUint64 : Double → UInt64) (adjust : GstClockTime → Calibration → GstClockTime)
  (readings : Nat → CallReading) {pthis : ScreencastSrc}

end Effects

variable [Zero Double]

end Ichabod
