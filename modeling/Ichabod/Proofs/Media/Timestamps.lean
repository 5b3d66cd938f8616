import Mathlib.Algebra.Order.Ring.Nat
import Ichabod.Media.ScreencastSrc

/-! The timestamps of frames, compared with exact arithmetic. -/

namespace Ichabod

/-- What `gst_util_uint64_scale` returns where its result fits: the quotient, rounded down. -/
def scaled (value : Nat) (calibration : Calibration) : Nat :=
  value * calibration.num.toNat / calibration.denom.toNat

/-- What is documented of `gst_clock_adjust_with_calibration`, wherever the scaling fits. -/
structure AdjustsWithCalibration (adjust : GstClockTime → Calibration → GstClockTime) : Prop where
  /-- From the internal time on, the scaled distance is added with wrap-around. -/
  later : ∀ time calibration, calibration.denom ≠ 0 → calibration.internal ≤ time →
    scaled (time.toNat - calibration.internal.toNat) calibration < 2 ^ 64 →
    (adjust time calibration).toNat =
      (scaled (time.toNat - calibration.internal.toNat) calibration +
        calibration.external.toNat) % 2 ^ 64
  /-- Before it, the scaled distance is subtracted, but not below zero. -/
  earlier : ∀ time calibration, calibration.denom ≠ 0 → time < calibration.internal →
    scaled (calibration.internal.toNat - time.toNat) calibration < 2 ^ 64 →
    (adjust time calibration).toNat =
      calibration.external.toNat - scaled (calibration.internal.toNat - time.toNat) calibration

/-- The exact time of a frame, for a calibration at the rate 1/1. -/
def exactPts (internal external : Nat) (timestamp : UInt64) : Int :=
  max 0 (external + timestamp.toNat * 1000000 - internal)

/-- Neither the conversion to nanoseconds nor the exact time leaves the range of a clock. -/
def InRange (internal external : Nat) (timestamp : UInt64) : Prop :=
  timestamp.toNat * 1000000 < 2 ^ 64 ∧ exactPts internal external timestamp < 2 ^ 64

/-- A signed 64-bit number is converted to its remainder. -/
theorem toNat_toUInt64 (value : Int64) : (value.toUInt64.toNat : Int) = value.toInt % 2 ^ 64 := by
  -- Both numbers are read off the same bits, and differ by the weight of the sign.
  have bound := value.toBitVec.isLt
  rw [← Int64.toInt_toBitVec, BitVec.toInt_eq_toNat_cond]
  show (value.toBitVec.toNat : Int) = _
  split <;> omega

/-- The internal time is what the realtime clock reads, in nanoseconds. -/
theorem gstWallClockGetInternalTime_toNat {spec : Timespec} {internal : Nat}
    (reads : spec.tvSec.toInt * 1000000000 + spec.tvNsec.toInt = internal)
    (small : internal < 2 ^ 64) : (gstWallClockGetInternalTime spec).toNat = internal := by
  -- The two conversions and the two operations all keep the remainder.
  have sec := toNat_toUInt64 spec.tvSec
  have nsec := toNat_toUInt64 spec.tvNsec
  have billion : (1000000000 : UInt64).toNat = 1000000000 := rfl
  rw [gstWallClockGetInternalTime, UInt64.toNat_add, UInt64.toNat_mul, billion]
  omega

section UnitRate

variable {adjust : GstClockTime → Calibration → GstClockTime}
  (documented : AdjustsWithCalibration adjust) (internal external : GstClockTime)

include documented

/-- At the rate 1/1, a time is moved by the distance of the two clocks. -/
theorem adjust_unitRate (time : GstClockTime) :
    (adjust time ⟨internal, external, 1, 1⟩).toNat =
      if internal.toNat ≤ time.toNat then (time.toNat - internal.toNat + external.toNat) % 2 ^ 64
      else external.toNat - (internal.toNat - time.toNat) := by
  -- Scaling by one changes nothing, and so it always fits.
  have unscaled : ∀ value, scaled value ⟨internal, external, 1, 1⟩ = value := by
    intro value
    show value * 1 / 1 = value
    rw [Nat.mul_one, Nat.div_one]
  have nonzero : (1 : GstClockTime) ≠ 0 := by decide
  have timeBound := time.toNat_lt
  have internalBound := internal.toNat_lt
  split
  · rename_i later
    have moved := documented.later time ⟨internal, external, 1, 1⟩ nonzero
      (UInt64.le_iff_toNat_le.mpr later)
    simp only [unscaled] at moved
    exact moved (by omega)
  · rename_i before
    have moved := documented.earlier time ⟨internal, external, 1, 1⟩ nonzero
      (UInt64.lt_iff_toNat_lt.mpr (Nat.lt_of_not_le before))
    simp only [unscaled] at moved
    exact moved (by omega)

/-- A frame gets its exact time if and only if nothing leaves the range of a clock. -/
theorem adjust_exact_iff (timestamp : UInt64) :
    ((adjust (timestamp * 1000000) ⟨internal, external, 1, 1⟩).toNat : Int) =
        exactPts internal.toNat external.toNat timestamp ↔
      InRange internal.toNat external.toNat timestamp := by
  -- A conversion that wraps around loses a multiple of 2^64, which the result then lacks.
  have million : (1000000 : UInt64).toNat = 1000000 := rfl
  have internalBound := internal.toNat_lt
  have externalBound := external.toNat_lt
  rw [adjust_unitRate documented, UInt64.toNat_mul, million, InRange, exactPts]
  split
  · constructor
    · intro exact
      omega
    · intro inRange
      obtain ⟨converted, fits⟩ := inRange
      omega
  · constructor
    · intro exact
      omega
    · intro inRange
      obtain ⟨converted, fits⟩ := inRange
      omega

/-- Within the range, frames keep their order, and also their distance unless one is clamped. -/
theorem adjust_monotone {timestamp1 timestamp2 : UInt64} (ordered : timestamp1 ≤ timestamp2)
    (inRange1 : InRange internal.toNat external.toNat timestamp1)
    (inRange2 : InRange internal.toNat external.toNat timestamp2) :
    adjust (timestamp1 * 1000000) ⟨internal, external, 1, 1⟩ ≤
        adjust (timestamp2 * 1000000) ⟨internal, external, 1, 1⟩ ∧
      (internal.toNat ≤ external.toNat + timestamp1.toNat * 1000000 →
        (adjust (timestamp2 * 1000000) ⟨internal, external, 1, 1⟩).toNat -
            (adjust (timestamp1 * 1000000) ⟨internal, external, 1, 1⟩).toNat =
          (timestamp2.toNat - timestamp1.toNat) * 1000000) := by
  -- Both frames get their exact times, which are compared as integers.
  have exact1 := (adjust_exact_iff documented internal external timestamp1).mpr inRange1
  have exact2 := (adjust_exact_iff documented internal external timestamp2).mpr inRange2
  rw [UInt64.le_iff_toNat_le] at ordered ⊢
  rw [exactPts] at exact1 exact2
  constructor
  · omega
  · intro unclamped
    omega

end UnitRate

/-- The calibration that the wall clock is given for what the two clocks read. -/
def ClockReading.calibration (reading : ClockReading) : Calibration :=
  ⟨gstWallClockGetInternalTime reading.internal, reading.external, 1, 1⟩

/-- A call gets past its two tests, and stamps its frame with the given calibration. -/
def StampsWith (calibration : Calibration) (reading : CallReading) (pthis : ScreencastSrc) :
    Prop :=
  pthis.allowData = true ∧ ∃ masterClock, pthis.elementClock = some masterClock ∧
    ((adoptMasterClock pthis.wallClock masterClock reading.toClockReading).slaved
      reading.slaved).calibration = calibration

/-- A call that adopts the clock of the element stamps its frame with what the clocks read. -/
theorem stampsWith_reading {pthis : ScreencastSrc} {masterClock : Nat} (reading : ClockReading)
    (allowed : pthis.allowData = true) (present : pthis.elementClock = some masterClock)
    (new : some masterClock ≠ pthis.wallClock.master) :
    StampsWith reading.calibration ⟨reading, none⟩ pthis := by
  -- Nothing replaces the calibration between the lock section and the stamp.
  refine ⟨allowed, masterClock, present, ?_⟩
  rw [adoptMasterClock, if_pos new]
  rfl

/-- The frame of such a call is pushed with the time that the calibration gives. -/
theorem StampsWith.pushed {adjust : GstClockTime → Calibration → GstClockTime}
    {calibration : Calibration} {reading : CallReading} {pthis : ScreencastSrc}
    (stamps : StampsWith calibration reading pthis) (timestamp : UInt64) (payload : CString) :
    (screencastSrcPushFrame adjust reading pthis timestamp payload).pushed =
      pthis.pushed ++ [.buffer ⟨base64Decode payload.bytes payload.strlen,
        adjust (timestamp * 1000000) calibration, adjust (timestamp * 1000000) calibration⟩] := by
  -- The stamp is made with the calibration that is in place when it is read.
  obtain ⟨allowed, masterClock, present, adopted⟩ := stamps
  rw [screencastSrcPushFrame, if_neg (by simp [allowed]), present]
  simp only [frameBuffer, gstWallClockAdjustSafe, adopted]

/--
All frames that are stamped with one calibration get their exact times if and only if nothing leaves
the range of a clock, and within that range they keep their order and their distances.
-/
theorem pts_exact_iff_inRange (adjust : GstClockTime → Calibration → GstClockTime)
    (documented : AdjustsWithCalibration adjust) (spec : Timespec) (internal : Nat)
    (external : GstClockTime)
    (reads : spec.tvSec.toInt * 1000000000 + spec.tvNsec.toInt = internal)
    (small : internal < 2 ^ 64) :
    ∃ pts : UInt64 → GstClockTime,
      (∀ reading pthis timestamp payload,
        StampsWith ⟨gstWallClockGetInternalTime spec, external, 1, 1⟩ reading pthis →
        ∃ data, (screencastSrcPushFrame adjust reading pthis timestamp payload).pushed =
          pthis.pushed ++ [.buffer ⟨data, pts timestamp, pts timestamp⟩]) ∧
      (∀ timestamp, ((pts timestamp).toNat : Int) = exactPts internal external.toNat timestamp ↔
        InRange internal external.toNat timestamp) ∧
      ∀ timestamp1 timestamp2, timestamp1 ≤ timestamp2 →
        InRange internal external.toNat timestamp1 → InRange internal external.toNat timestamp2 →
        pts timestamp1 ≤ pts timestamp2 ∧
          (internal ≤ external.toNat + timestamp1.toNat * 1000000 →
            (pts timestamp2).toNat - (pts timestamp1).toNat =
              (timestamp2.toNat - timestamp1.toNat) * 1000000) := by
  -- The internal time is read without a loss, so both readings are compared as numbers.
  have same := gstWallClockGetInternalTime_toNat reads small
  refine ⟨fun timestamp =>
    adjust (timestamp * 1000000) ⟨gstWallClockGetInternalTime spec, external, 1, 1⟩, ?_, ?_, ?_⟩
  · intro reading pthis timestamp payload stamps
    exact ⟨_, stamps.pushed timestamp payload⟩
  · intro timestamp
    have exact := adjust_exact_iff documented (gstWallClockGetInternalTime spec) external timestamp
    rwa [same] at exact
  · intro timestamp1 timestamp2 ordered inRange1 inRange2
    rw [← same] at inRange1 inRange2 ⊢
    exact adjust_monotone documented _ _ ordered inRange1 inRange2

/-- `gst_util_uint64_scale`, which saturates. -/
def gstUtilUint64Scale (val num denom : UInt64) : UInt64 :=
  .ofNat (min (val.toNat * num.toNat / denom.toNat) (2 ^ 64 - 1))

/-- `gst_clock_adjust_with_calibration`. -/
def gstClockAdjustWithCalibration (time : GstClockTime) (calibration : Calibration) :
    GstClockTime :=
  if calibration.internal ≤ time then
    gstUtilUint64Scale (time - calibration.internal) calibration.num calibration.denom +
      calibration.external
  else
    let behind :=
      gstUtilUint64Scale (calibration.internal - time) calibration.num calibration.denom
    if behind < calibration.external then calibration.external - behind else 0

/-- Scaling is exact where the quotient fits. -/
theorem gstUtilUint64Scale_toNat {val num denom : UInt64}
    (fits : val.toNat * num.toNat / denom.toNat < 2 ^ 64) :
    (gstUtilUint64Scale val num denom).toNat = val.toNat * num.toNat / denom.toNat := by
  have unsaturated : min (val.toNat * num.toNat / denom.toNat) (2 ^ 64 - 1) =
      val.toNat * num.toNat / denom.toNat := by omega
  rw [gstUtilUint64Scale, unsaturated]
  exact Nat.mod_eq_of_lt fits

/-- The function behaves as documented. -/
theorem gstClockAdjustWithCalibration_documented :
    AdjustsWithCalibration gstClockAdjustWithCalibration := by
  constructor
  · intro time calibration nonzero later fits
    have distance := UInt64.toNat_sub_of_le time calibration.internal later
    rw [gstClockAdjustWithCalibration, if_pos later, UInt64.toNat_add,
      gstUtilUint64Scale_toNat (by rw [distance]; exact fits), distance]
    rfl
  · intro time calibration nonzero before fits
    have distance := UInt64.toNat_sub_of_le calibration.internal time (UInt64.le_of_lt before)
    have behind : (gstUtilUint64Scale (calibration.internal - time) calibration.num
        calibration.denom).toNat = (calibration.internal - time).toNat *
          calibration.num.toNat / calibration.denom.toNat :=
      gstUtilUint64Scale_toNat (by rw [distance]; exact fits)
    rw [distance] at behind
    rw [gstClockAdjustWithCalibration, if_neg (UInt64.not_le.mpr before), scaled, ← behind]
    -- The subtraction is clamped at zero, as it is for natural numbers.
    simp only
    split
    · rename_i below
      rw [UInt64.toNat_sub_of_le _ _ (UInt64.le_of_lt below)]
    · rename_i above
      have reached := UInt64.le_iff_toNat_le.mp (UInt64.not_lt.mp above)
      rw [Nat.sub_eq_zero_of_le reached]
      rfl

/-- A frame of two seconds is adopted one second and five nanoseconds into the epoch. -/
theorem oneSecond_exact :
    ∃ pts : UInt64 → GstClockTime,
      (screencastSrcPushFrame gstClockAdjustWithCalibration ⟨⟨⟨1, 5⟩, 7⟩, none⟩
          ⟨true, some 1, .new, []⟩ 2000 (.literal "AAAA")).pushed =
        [.buffer ⟨some [0, 0, 0], 1000000002, 1000000002⟩] ∧ pts 2000 = 1000000002 ∧
      (∀ reading pthis timestamp payload,
        StampsWith ⟨gstWallClockGetInternalTime ⟨1, 5⟩, 7, 1, 1⟩ reading pthis →
        ∃ data, (screencastSrcPushFrame gstClockAdjustWithCalibration reading pthis timestamp
            payload).pushed =
          pthis.pushed ++ [.buffer ⟨data, pts timestamp, pts timestamp⟩]) ∧
      (∀ timestamp, ((pts timestamp).toNat : Int) =
          exactPts 1000000005 (7 : GstClockTime).toNat timestamp ↔
        InRange 1000000005 (7 : GstClockTime).toNat timestamp) ∧
      ∀ timestamp1 timestamp2, timestamp1 ≤ timestamp2 →
        InRange 1000000005 (7 : GstClockTime).toNat timestamp1 →
        InRange 1000000005 (7 : GstClockTime).toNat timestamp2 →
        pts timestamp1 ≤ pts timestamp2 ∧
          (1000000005 ≤ (7 : GstClockTime).toNat + timestamp1.toNat * 1000000 →
            (pts timestamp2).toNat - (pts timestamp1).toNat =
              (timestamp2.toNat - timestamp1.toNat) * 1000000) := by
  obtain ⟨pts, stamped, exact, ordered⟩ :=
    pts_exact_iff_inRange gstClockAdjustWithCalibration gstClockAdjustWithCalibration_documented
      ⟨1, 5⟩ 1000000005 7 (by decide) (by decide)
  have pushed : (screencastSrcPushFrame gstClockAdjustWithCalibration ⟨⟨⟨1, 5⟩, 7⟩, none⟩
      ⟨true, some 1, .new, []⟩ 2000 (.literal "AAAA")).pushed =
        [.buffer ⟨some [0, 0, 0], 1000000002, 1000000002⟩] := by decide +kernel
  -- The call adopts the clock of the element, so it stamps with what the two clocks read.
  obtain ⟨data, same⟩ := stamped ⟨⟨⟨1, 5⟩, 7⟩, none⟩ ⟨true, some 1, .new, []⟩ 2000
    (.literal "AAAA") (stampsWith_reading ⟨⟨1, 5⟩, 7⟩ rfl rfl (by decide))
  have time : pts 2000 = 1000000002 := by
    rw [pushed] at same
    simp only [List.nil_append, List.cons.injEq, AppSrcItem.buffer.injEq, GstBuffer.mk.injEq]
      at same
    exact same.1.2.1.symm
  exact ⟨pts, pushed, time, stamped, exact, ordered⟩

end Ichabod
