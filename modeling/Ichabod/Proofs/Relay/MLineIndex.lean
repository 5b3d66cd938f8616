import Ichabod.Lib.Decimal
import Ichabod.Proofs.Control.Receive
import Ichabod.Proofs.Relay.MissingParts
import Ichabod.Relay.WebrtcRelay

/-! Which media line indices survive the way to the peer and back. -/

namespace Ichabod

/-- The message in which a peer gives a candidate back. -/
def addIceCandidate (index candidate : Bytes) : Message :=
  ⟨CString.ascii "add_ice_candidate", [index, candidate]⟩

/--
The index is written within its buffer, and reading its text back gives the index again.

The text is the second part of the message, and is sent back as it came.
-/
def IndexAgrees (sdp : SdpResults) (mlineindex : UInt32) (candidate : CString) : Prop :=
  ∃ send callback, (sendIceCandidateMessage mlineindex candidate).sends[1]? = some send ∧
    -- The buffer has room for three characters and their terminator.
    send.data.length + 1 ≤ 4 ∧
    handleMsg (webrtcRelayRegistered sdp)
        (addIceCandidate send.data candidate.text).record = .ok (some callback) ∧
    webrtcRelayCallback true sdp callback =
      .ok (some (.addIceCandidate mlineindex (some (.ofBytes candidate.text))))

/-- A text that is sent and copied reads as it did. -/
theorem atoi_ofBytes_text (string : CString) :
    (CString.ofBytes string.text).atoi = string.atoi := by
  -- The text has no terminator in it, so it is not cut again.
  have free : 0 ∉ string.text := by
    intro zero
    have kept := List.mem_takeWhile_imp zero
    simp at kept
  have same : (CString.ofBytes string.text).text = string.text := by
    rw [CString.text_ofBytes, CString.untilNul_of_free free]
  simp only [CString.atoi, CString.strtol, CString.number, same]

/-- The value of an index that was cut to eight bits. -/
theorem toInt_cut (mlineindex : UInt32) :
    mlineindex.toUInt8.toInt8.toInt =
      if mlineindex.toNat % 256 < 128 then (mlineindex.toNat % 256 : Int)
      else (mlineindex.toNat % 256 : Int) - 256 := by
  have bits : mlineindex.toUInt8.toInt8.toBitVec.toNat = mlineindex.toNat % 256 := by
    simp
  rw [Int8.toInt, BitVec.toInt_eq_toNat_cond, bits]
  split <;> split <;> omega

/-- An index that is promoted and taken for unsigned has wrapped around if it is negative. -/
theorem toNat_promoted (mLineIndex : Int8) :
    (mLineIndex.toInt32.toUInt32.toNat : Int) =
      if 0 ≤ mLineIndex.toInt then mLineIndex.toInt else mLineIndex.toInt + 4294967296 := by
  have same : mLineIndex.toInt32.toInt = mLineIndex.toInt := by simp
  have bound := mLineIndex.toInt32.toUInt32.toNat_lt
  have bits : mLineIndex.toInt32.toBitVec.toNat = mLineIndex.toInt32.toUInt32.toNat := rfl
  rw [Int32.toInt, BitVec.toInt_eq_toNat_cond, bits] at same
  split at same <;> split <;> omega

/-- The index text of a candidate message, and how many characters it takes. -/
theorem sends_index (mlineindex : UInt32) (candidate : CString) :
    (sendIceCandidateMessage mlineindex candidate).sends[1]? =
      some (.ofString (szMline mlineindex.toUInt8.toInt8) true) := rfl

/-- The text fits into its buffer exactly if the index that was cut is not below -99. -/
theorem szMline_fits (mLineIndex : Int8) :
    (szMline mLineIndex).text.length + 1 ≤ 4 ↔ -99 ≤ mLineIndex.toInt := by
  -- No index of eight bits needs more than three digits.
  have bound : mLineIndex.toInt < 128 := mLineIndex.toInt_lt
  have fits : (szMline mLineIndex).text.length ≤ 3 ↔ _ :=
    CString.strlen_decimal_le_three mLineIndex.toInt
  omega

/-- A candidate that comes back with the text of an index is added for that index. -/
theorem handleMsg_addIceCandidate (sdp : SdpResults) (mLineIndex : Int8) (candidate : Bytes) :
    handleMsg (webrtcRelayRegistered sdp)
        (addIceCandidate (szMline mLineIndex).text candidate).record =
      .ok (some (.remoteCandidate mLineIndex (some (.ofBytes candidate)))) := by
  -- The text is read back by `atoi` as the number that was written.
  have low : CString.longMin ≤ mLineIndex.toInt := Int.le_trans (by decide) mLineIndex.le_toInt
  have high : mLineIndex.toInt ≤ CString.longMax :=
    Int.le_trans (Int.le_of_lt mLineIndex.toInt_lt) (by decide)
  have read : (CString.ofBytes (szMline mLineIndex).text).atoi.toInt8 = mLineIndex := by
    rw [atoi_ofBytes_text, CString.atoi, Int32.toInt8_ofInt, szMline,
      CString.strtol_decimal low high, Int8.ofInt_toInt]
  have type : CString.untilNul (CString.ascii "add_ice_candidate") =
      CString.ascii "add_ice_candidate" := by decide
  have noOffer : CString.ascii "add_ice_candidate" ≠ CString.ascii "create_offer" := by decide
  have noAnswer : CString.ascii "add_ice_candidate" ≠ CString.ascii "set_remote_description" := by
    decide
  rw [handleMsg_record]
  simp only [addIceCandidate, type, if_neg noOffer, if_neg noAnswer, if_true]
  rw [handleCandidate_present rfl, read]
  rfl

/--
Exactly the first 128 indices and the last 99 are written within the buffer and read back as they
were.

The others are cut to eight bits, and do not fit into the buffer if that leaves less than -99.
-/
theorem index_agrees_iff (sdp : SdpResults) (mlineindex : UInt32) (candidate : CString) :
    IndexAgrees sdp mlineindex candidate ↔
      mlineindex.toNat < 128 ∨ 4294967296 - 99 ≤ mlineindex.toNat := by
  have bound := mlineindex.toNat_lt
  have cut := toInt_cut mlineindex
  have promoted := toNat_promoted mlineindex.toUInt8.toInt8
  have fits := szMline_fits mlineindex.toUInt8.toInt8
  have handled := handleMsg_addIceCandidate sdp mlineindex.toUInt8.toInt8 candidate.text
  -- Reading back gives the index that was cut, extended again by its sign.
  have back : mlineindex.toUInt8.toInt8.toInt32.toUInt32 = mlineindex ↔
      mlineindex.toNat < 128 ∨ 4294967296 - 128 ≤ mlineindex.toNat := by
    rw [← UInt32.toNat_inj]
    split at cut <;> split at promoted <;> omega
  constructor
  · intro agrees
    obtain ⟨send, callback, second, room, handling, signal⟩ := agrees
    rw [sends_index] at second
    obtain rfl := Option.some.inj second
    rw [ZmqSend.ofString_data] at room handling
    rw [handled] at handling
    obtain rfl := Option.some.inj (Except.ok.inj handling)
    have same : mlineindex.toUInt8.toInt8.toInt32.toUInt32 = mlineindex := by
      simpa [webrtcRelayCallback, onRemoteCandidate, emitOn] using signal
    have inside := fits.mp room
    have range := back.mp same
    split at cut <;> omega
  · intro range
    refine ⟨_, .remoteCandidate mlineindex.toUInt8.toInt8 (some (.ofBytes candidate.text)),
      sends_index mlineindex candidate, ?_, ?_, ?_⟩
    · rw [ZmqSend.ofString_data]
      refine fits.mpr ?_
      split at cut <;> omega
    · rw [ZmqSend.ofString_data]
      exact handled
    · have same := back.mpr (by omega)
      simp [webrtcRelayCallback, onRemoteCandidate, emitOn, same]

/-- The index 128 is written past the end of the buffer, and read back as another one. -/
theorem index128_disagrees :
    (szMline (128 : UInt32).toUInt8.toInt8).text = CString.ascii "-128" ∧
      onRemoteCandidate true (128 : UInt32).toUInt8.toInt8 none =
        some (.addIceCandidate 4294967168 none) ∧
      ¬ IndexAgrees lenientSdp 128 (.literal "candidate:1") := by
  -- With its terminator, the text needs a fifth byte, for which the buffer has no room.
  have text : (szMline (128 : UInt32).toUInt8.toInt8).text = CString.ascii "-128" := by
    decide
  refine ⟨text, by decide, ?_⟩
  intro agrees
  obtain ⟨send, _, second, room, _⟩ := agrees
  rw [sends_index] at second
  obtain rfl := Option.some.inj second
  rw [ZmqSend.ofString_data, text] at room
  exact absurd room (by decide)

end Ichabod
