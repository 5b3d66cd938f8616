import Ichabod.Media.ScreencastSrc
import Ichabod.Proofs.Horseman.Stream
import Ichabod.Proofs.Media.Base64

/-! An image that is sent in a frame message comes out of the screencast source unchanged. -/

namespace Ichabod

open Base64

/-- A character that a sender may insert into an encoding: neither a symbol nor a terminator. -/
def IsFiller (char : UInt8) : Prop :=
  char ≠ 0 ∧ ¬ IsSymbol char

/-- A terminator is not a symbol. -/
theorem not_isSymbol_zero : ¬ IsSymbol 0 := by
  decide

section Payload

variable {data payload : Bytes}

/-- No payload is cut at a terminator. -/
theorem payload_text (inserted : Inserted IsFiller (encode data) payload) :
    CString.untilNul payload = payload := by
  -- Neither the encoding nor what was inserted contains a zero byte.
  apply CString.untilNul_of_free
  intro zero
  rcases inserted.mem zero with encoded | filler
  · exact not_isSymbol_zero (encode_symbols data 0 encoded)
  · exact filler.1 rfl

/-- No payload is taken for the end-of-stream sentinel. -/
theorem payload_ne_eos (inserted : Inserted IsFiller (encode data) payload) :
    payload ≠ CString.ascii "EOS" := by
  -- The sentinel has three symbols, and an encoding has a multiple of four.
  intro sentinel
  have counted := countP_inserted (inserted.mono fun _ filler => filler.2)
  simp only [counted_iff, sentinel] at counted
  have three : (CString.ascii "EOS").countP (fun char => decide (IsSymbol char)) = 3 := by decide
  omega

/-- The string that holds a payload is decoded to the data. -/
theorem base64Decode_payload (nonempty : data ≠ [])
    (inserted : Inserted IsFiller (encode data) payload) :
    base64Decode (CString.ofBytes payload).bytes (CString.ofBytes payload).strlen = some data := by
  -- The decoder is given the string up to its terminator, which is the whole payload.
  have decoded := base64Decode_inserted nonempty (inserted.mono fun _ filler => filler.2)
  rw [base64Decode, List.take_length] at decoded
  rw [base64Decode, CString.take_strlen, CString.text_ofBytes, payload_text inserted]
  exact decoded

end Payload

variable {Double : Type}

/-- The record that the frame parser makes of an image. -/
def imageFrame (payload : Bytes) (timestamp : Double) : HorsemanFrame Double :=
  ⟨some (.ofBytes payload), timestamp, false, rfl⟩

/-- A frame message whose payload is not the sentinel is parsed to the record of an image. -/
theorem parseDispatch_image [Zero Double] (atof : Bytes → Double) {payload : Bytes}
    (timestamp : Bytes) (image : CString.untilNul payload ≠ CString.ascii "EOS") :
    parseDispatch atof (Message.envelope ⟨CString.ascii "frame", [payload, timestamp]⟩) =
      .ok (some (.frame (imageFrame payload (atof (CString.untilNul timestamp))))) := by
  -- The type is compared first, then the sentinel, and both comparisons are decided.
  have type : (CString.literal "frame").same (.ofBytes (CString.ascii "frame")) = true := by decide
  have other : ¬ (CString.literal "EOS").same (.ofBytes payload) = true := by
    rw [CString.literal_same_ofBytes "EOS" payload (by decide)]
    exact image
  simp only [Message.envelope, Message.parts, List.map_cons, List.map_nil, parseDispatch,
    if_pos type, envelopeParseFrame, if_neg other, CString.text_ofBytes]
  rfl

/-- While data is allowed and there is a clock, an image is pushed as what it decodes to. -/
theorem onHorsemanVideoFrame_image (toUint64 : Double → UInt64)
    (adjust : GstClockTime → Calibration → GstClockTime) (reading : CallReading)
    {pthis : ScreencastSrc} (payload : Bytes) (timestamp : Double)
    (allowed : pthis.allowData = true) (clock : pthis.elementClock.isSome = true) :
    ∃ buf, (onHorsemanVideoFrame toUint64 adjust reading pthis
        (imageFrame payload timestamp)).pushed = pthis.pushed ++ [.buffer buf] ∧
      buf.data =
        base64Decode (CString.ofBytes payload).bytes (CString.ofBytes payload).strlen := by
  -- Neither of the two reasons to skip a frame applies.
  obtain ⟨masterClock, present⟩ := Option.isSome_iff_exists.mp clock
  have running : ¬ (imageFrame payload timestamp).eos = true := Bool.false_ne_true
  rw [onHorsemanVideoFrame, dif_neg running, screencastSrcPushFrame, if_neg (by simp [allowed]),
    present]
  exact ⟨_, rfl, rfl⟩

/--
A frame message that carries an encoded image leads to exactly one buffer, which holds exactly the
image, wherever the sender has inserted fillers.
-/
theorem frame_message_pushes_image [Zero Double] (atof : Bytes → Double)
    (toUint64 : Double → UInt64) (adjust : GstClockTime → Calibration → GstClockTime)
    (reading : CallReading) (ret : Int) (state : Receiver Double) (pthis : ScreencastSrc)
    (data payload timestamp : Bytes) (later : List RecvOutcome) (nonempty : data ≠ [])
    (inserted : Inserted IsFiller (encode data) payload)
    (allowed : pthis.allowData = true) (clock : pthis.elementClock.isSome = true) :
    ∃ frame next, processNextMessage atof ret state
          ((Arrival.message ⟨CString.ascii "frame", [payload, timestamp]⟩).outcomes ++ later) =
        some (.ok next, later) ∧
      next.handed = state.handed ++ [.frame frame] ∧ frame.eos = false ∧
      ∃ buf, (onHorsemanVideoFrame toUint64 adjust reading pthis frame).pushed =
          pthis.pushed ++ [.buffer buf] ∧ buf.data = some data := by
  -- The receiver hands over one record, whose callback makes one buffer.
  have image : CString.untilNul payload ≠ CString.ascii "EOS" := by
    rw [payload_text inserted]
    exact payload_ne_eos inserted
  have parsed := parseDispatch_image atof timestamp image
  have received : processNextMessage atof ret state _ = _ :=
    processNextMessage_message ret state ⟨CString.ascii "frame", [payload, timestamp]⟩ later
  simp only [parseEnvelope, parsed] at received
  obtain ⟨buf, pushed, decoded⟩ := onHorsemanVideoFrame_image toUint64 adjust reading payload
    (atof (CString.untilNul timestamp)) allowed clock
  rw [base64Decode_payload nonempty inserted] at decoded
  exact ⟨_, _, received, rfl, rfl, buf, pushed, decoded⟩

/-- The first bytes of an image. -/
def imageStart : Bytes :=
  [255, 216, 255, 224]

/-- Their encoding, with a line feed in the first group and a blank behind the last one. -/
def brokenPayload : Bytes :=
  [47, 57, 10, 106, 47, 52, 65, 61, 61, 32]

/-- The line feed and the blank are fillers. -/
theorem brokenPayload_inserted : Inserted IsFiller (encode imageStart) brokenPayload := by
  -- The relation is built along the payload, and the fillers are its third and last characters.
  have encoded : encode imageStart = [47, 57, 106, 47, 52, 65, 61, 61] := by decide
  have lineFeed : IsFiller 10 := ⟨by decide, by decide⟩
  have blank : IsFiller 32 := ⟨by decide, by decide⟩
  rw [encoded]
  exact .keep _ (.keep _ (.insert 10 lineFeed (.keep _ (.keep _ (.keep _ (.keep _ (.keep _
    (.keep _ (.insert 32 blank .nil)))))))))

/-- What a clock calibrated at the rate 1/1 shows when its internal time is as given. -/
def adjustAtUnitRate (internal : GstClockTime) (calibration : Calibration) : GstClockTime :=
  if calibration.internal ≤ internal then internal - calibration.internal + calibration.external
  else if calibration.internal - internal < calibration.external then
    calibration.external - (calibration.internal - internal)
  else 0

/-- A source whose element has a clock that was not seen before. -/
def readySource : ScreencastSrc :=
  ⟨true, some 1, .new, []⟩

/-- The broken payload is pushed as the bytes that it was made from. -/
theorem brokenPayload_pushed :
    ∃ frame next, processNextMessage (fun _ => 1) 0 (⟨.started, []⟩ : Receiver Nat)
          ((Arrival.message ⟨CString.ascii "frame",
            [brokenPayload, CString.ascii "1"]⟩).outcomes ++ []) = some (.ok next, []) ∧
      next.handed = [] ++ [.frame frame] ∧ frame.eos = false ∧
      ∃ buf, (onHorsemanVideoFrame UInt64.ofNat adjustAtUnitRate ⟨⟨⟨1, 0⟩, 5⟩, none⟩ readySource
          frame).pushed = readySource.pushed ++ [.buffer buf] ∧ buf.data = some imageStart :=
  frame_message_pushes_image (fun _ => 1) UInt64.ofNat adjustAtUnitRate ⟨⟨⟨1, 0⟩, 5⟩, none⟩ 0
    ⟨.started, []⟩ readySource imageStart brokenPayload (CString.ascii "1") [] (by decide)
    brokenPayload_inserted rfl rfl

end Ichabod
