import Ichabod.Media.ScreencastSrc

/-! Frames that several pool workers push at once, interleaved one shared access at a time. -/

namespace Ichabod

/-- Where one call of `screencast_src_push_frame` stands. -/
inductive PushPc where
  /-- At the read of `allow_data`. -/
  | testing
  /-- At `gst_element_get_clock`. -/
  | asking
  /-- At the second section under the lock, with the clock that the element had. -/
  | holding (masterClock : Nat)
  /-- At `gst_wall_clock_adjust_safe`. -/
  | stamping
  | returned
deriving DecidableEq

/-- One call of `screencast_src_push_frame`. -/
structure PushCall where
  timestamp : UInt64
  frameBase64 : CString
  pc : PushPc
  /-- Every clock that the element has had since the call began. -/
  seen : List Nat
deriving DecidableEq

/-- How a frame came by its timestamp. -/
structure Stamp where
  /-- Every clock that the element has had during the call. -/
  seen : List Nat
  /-- The clock that the calibration was taken against, or `none` for the initial one. -/
  against : Option Nat
  buf : GstBuffer
deriving DecidableEq

/-- The screencast source, with all calls so far. -/
structure PushCalls where
  src : ScreencastSrc
  /-- The clock that the current calibration of the wall clock was taken against. -/
  against : Option Nat
  calls : List PushCall
  stamps : List Stamp
deriving DecidableEq

/--
A step of the pipeline or of a pool worker.

Nobody else changes the calibration here: the slaving to the master clock is left out.
-/
inductive PushAction where
  /-- The pipeline gives the element another clock, or takes it away. -/
  | changeClock (clock : Option Nat)
  /-- The appsrc calls `need_data` or `enough_data`. -/
  | allow (allowData : Bool)
  | enter (timestamp : UInt64) (frameBase64 : CString)
  | test (number : Nat)
  | getClock (number : Nat)
  | adopt (number : Nat) (reading : ClockReading)
  | stamp (number : Nat)
deriving DecidableEq

/-- A call that has not returned sees the new clock of the element. -/
def PushCall.sees (clock : Option Nat) (call : PushCall) : PushCall :=
  if call.pc = .returned then call else { call with seen := call.seen ++ clock.toList }

namespace PushCalls

/-- The state in which `screencast_src_alloc` leaves the source. -/
def start : PushCalls where
  src := ⟨false, none, .new, []⟩
  against := none
  calls := []
  stamps := []

/-- The call with that number moves on. -/
def move (s : PushCalls) (number : Nat) (call : PushCall) (pc : PushPc) : PushCalls :=
  { s with calls := s.calls.set number { call with pc := pc } }

/-- The second section under the lock, which adopts the clock that the call holds. -/
def adoptClock (s : PushCalls) (masterClock : Nat) (reading : ClockReading) : PushCalls :=
  { s with
    src := { s.src with wallClock := adoptMasterClock s.src.wallClock masterClock reading }
    against := if some masterClock ≠ s.src.wallClock.master then some masterClock else s.against }

/-- The frame of a call is stamped with the current calibration, and pushed. -/
def pushStamped (adjust : GstClockTime → Calibration → GstClockTime) (s : PushCalls)
    (call : PushCall) : PushCalls :=
  let buf := frameBuffer adjust s.src.wallClock call.timestamp call.frameBase64
  { s with
    src := { s.src with pushed := s.src.pushed ++ [.buffer buf] }
    stamps := s.stamps ++ [⟨call.seen, s.against, buf⟩] }

/-- One step, where the two sections under the lock are one step each. -/
def step (adjust : GstClockTime → Calibration → GstClockTime) (s : PushCalls) :
    PushAction → Option PushCalls
  | .changeClock clock =>
    some
      { s with
        src := { s.src with elementClock := clock }
        calls := s.calls.map (PushCall.sees clock) }
  | .allow allowData => some { s with src := { s.src with allowData := allowData } }
  | .enter timestamp frameBase64 =>
    let call : PushCall := ⟨timestamp, frameBase64, .testing, s.src.elementClock.toList⟩
    some { s with calls := s.calls ++ [call] }
  | .test number =>
    match s.calls[number]? with
    | none => none
    | some call =>
      match call.pc with
      | .testing => some (s.move number call (if s.src.allowData then .asking else .returned))
      | _ => none
  | .getClock number =>
    match s.calls[number]? with
    | none => none
    | some call =>
      match call.pc with
      | .asking =>
        match s.src.elementClock with
        | none => some (s.move number call .returned)
        | some masterClock => some (s.move number call (.holding masterClock))
      | _ => none
  | .adopt number reading =>
    match s.calls[number]? with
    | none => none
    | some call =>
      match call.pc with
      | .holding masterClock => some ((s.adoptClock masterClock reading).move number call .stamping)
      | _ => none
  | .stamp number =>
    match s.calls[number]? with
    | none => none
    | some call =>
      match call.pc with
      | .stamping => some ((s.pushStamped adjust call).move number call .returned)
      | _ => none

end PushCalls

end Ichabod
