import Ichabod.Proofs.Media.FrameRoundTrip

/-! Which payloads the decoder rejects, and what becomes of them in the screencast source. -/

namespace Ichabod

open Base64

section Loop

variable {char0 char1 char2 char3 : UInt8} {src out : Bytes}

/-- The test for padding adds one for a padding character. -/
theorem pad_eq (char : UInt8) (pad : Nat) :
    (if char = 61 then pad + 1 else pad) = pad + [char].count padding := by
  by_cases isPadding : char = 61
  · rw [if_pos isPadding, isPadding]
    rfl
  · have outside : padding ∉ [char] := by simpa [padding] using Ne.symm isPadding
    rw [if_neg isPadding, List.count_eq_zero_of_not_mem outside]
    rfl

/-- The padding of a group of symbols decides what becomes of it. -/
theorem decodeLoop_group (symbols : ∀ char ∈ [char0, char1, char2, char3], IsSymbol char) :
    decodeLoop (char0 :: char1 :: char2 :: char3 :: src) [] 0 out =
      afterGroup src (out ++ joined (dtable char0) (dtable char1) (dtable char2) (dtable char3))
        ([char0, char1, char2, char3].count padding) := by
  -- The first three characters are collected, and the fourth one completes the group.
  have counted : 0 + [char0].count padding + [char1].count padding + [char2].count padding +
      [char3].count padding = [char0, char1, char2, char3].count padding := by
    simp only [List.count_cons, List.count_nil]
    omega
  rw [decodeLoop_append (symbols char0 (by simp)) (by simp),
    decodeLoop_append (symbols char1 (by simp)) (by simp),
    decodeLoop_append (symbols char2 (by simp)) (by simp)]
  simp only [List.nil_append, List.cons_append]
  rw [decodeLoop_complete (symbols char3 (by simp))]
  simp only [pad_eq, counted]

/-- On whole groups of symbols, the decoder fails exactly at three padding characters in one. -/
theorem decodeLoop_isSome_iff {text : Bytes} (symbols : ∀ char ∈ text, IsSymbol char)
    (whole : text.length % 4 = 0) :
    (decodeLoop text [] 0 out).isSome = true ↔ (paddedGroup text).count padding < 3 := by
  -- The recursion takes one group at a time and ends at the first one with padding.
  fun_induction paddedGroup text generalizing out with
  | case1 char0 char1 char2 char3 rest padded =>
    have positive := List.count_pos_iff.mpr padded
    rw [decodeLoop_group fun char member => symbols char (List.mem_append_left rest member)]
    generalize [char0, char1, char2, char3].count padding = pad at positive
    match pad with
    | 1 | 2 => simp [afterGroup]
    | pad + 3 => simp [afterGroup]
  | case2 char0 char1 char2 char3 rest plain ih =>
    have shorter : rest.length % 4 = 0 := by
      simp only [List.length_cons] at whole
      omega
    rw [decodeLoop_group fun char member => symbols char (List.mem_append_left rest member),
      List.count_eq_zero_of_not_mem plain]
    exact ih (fun char member => symbols char (List.mem_append_right [_, _, _, _] member)) shorter
  | case3 text short =>
    -- What is left is shorter than a group, and so it is empty.
    rcases text with - | ⟨char0, - | ⟨char1, - | ⟨char2, - | ⟨char3, rest⟩⟩⟩⟩
    · simp [decodeLoop]
    · simp at whole
    · simp at whole
    · simp at whole
    · exact absurd rfl (short _ _ _ _ _)

end Loop

/-- The first pass counts the symbols. -/
theorem countP_symbols (text : Bytes) :
    text.countP (fun char => decide (dtable char ≠ 0x80)) = (symbols text).length := by
  simp only [counted_iff]
  exact List.countP_eq_length_filter

/-- The decoder accepts exactly the decodable texts. -/
theorem base64Decode_isSome_iff (payload : CString) :
    (base64Decode payload.bytes payload.strlen).isSome = true ↔ Decodable payload.text := by
  -- The first pass counts the symbols, and the second one passes over all other characters.
  have counted := countP_symbols payload.text
  rw [base64Decode, CString.take_strlen, Decodable]
  simp only [counted]
  by_cases rejected : (symbols payload.text).length = 0 ∨ (symbols payload.text).length % 4 ≠ 0
  · rw [if_pos rejected]
    constructor
    · intro decoded
      exact absurd decoded Bool.false_ne_true
    · intro decodable
      obtain ⟨nonempty, whole, -⟩ := decodable
      rcases rejected with empty | broken
      · exact absurd (List.eq_nil_of_length_eq_zero empty) nonempty
      · exact absurd whole broken
  · rw [if_neg rejected, decodeLoop_inserted (symbols_inserted payload.text)]
    have whole : (symbols payload.text).length % 4 = 0 := by omega
    have nonempty : symbols payload.text ≠ [] := by
      intro empty
      simp [empty] at rejected
    rw [decodeLoop_isSome_iff (fun _ => isSymbol_of_mem) whole]
    exact ⟨fun few => ⟨nonempty, whole, few⟩, fun fits => fits.2.2⟩

/--
What is asked for: a decoded payload is appended as one buffer of exactly its bytes, and for any
other one nothing is appended.
-/
def PushesDecoded (decoded : Option Bytes) (before after : List AppSrcItem) : Prop :=
  match decoded with
  | some data => ∃ buf, after = before ++ [.buffer buf] ∧ buf.data = some data
  | none => after = before

variable {adjust : GstClockTime → Calibration → GstClockTime} {reading : CallReading}
  {pthis : ScreencastSrc}

/-- While data is allowed and there is a clock, one buffer is pushed, whatever the payload. -/
theorem screencastSrcPushFrame_pushed (timestamp : UInt64) (payload : CString)
    (allowed : pthis.allowData = true) (clock : pthis.elementClock.isSome = true) :
    ∃ buf, (screencastSrcPushFrame adjust reading pthis timestamp payload).pushed =
        pthis.pushed ++ [.buffer buf] ∧
      buf.data = base64Decode payload.bytes payload.strlen := by
  -- Neither of the two reasons to skip a frame applies, and the result of decoding is not tested.
  obtain ⟨masterClock, present⟩ := Option.isSome_iff_exists.mp clock
  rw [screencastSrcPushFrame, if_neg (by simp [allowed]), present]
  exact ⟨_, rfl, rfl⟩

/--
A payload is pushed as exactly what it decodes to, or dropped, if and only if it is decodable; every
other payload makes a buffer of a null pointer.
-/
theorem pushes_decoded_iff (adjust : GstClockTime → Calibration → GstClockTime)
    (reading : CallReading) (pthis : ScreencastSrc) (timestamp : UInt64) (payload : CString)
    (allowed : pthis.allowData = true) (clock : pthis.elementClock.isSome = true) :
    ((base64Decode payload.bytes payload.strlen).isSome = true ↔ Decodable payload.text) ∧
      (PushesDecoded (base64Decode payload.bytes payload.strlen) pthis.pushed
          (screencastSrcPushFrame adjust reading pthis timestamp payload).pushed ↔
        Decodable payload.text) := by
  have accepts := base64Decode_isSome_iff payload
  obtain ⟨buf, pushed, wraps⟩ := screencastSrcPushFrame_pushed timestamp payload allowed clock
  refine ⟨accepts, ?_⟩
  rw [pushed, ← accepts]
  -- A buffer is appended in both cases: the first one asks for it, and the second one forbids it.
  cases decoded : base64Decode payload.bytes payload.strlen with
  | some data => exact ⟨fun _ => rfl, fun _ => ⟨buf, rfl, wraps.trans decoded⟩⟩
  | none =>
    constructor
    · intro unchanged
      simp [PushesDecoded] at unchanged
    · intro accepted
      exact absurd accepted Bool.false_ne_true

/-- A payload of four digits is decodable, and is pushed as the three bytes that it decodes to. -/
theorem fourDigits_pushed :
    ((base64Decode (CString.literal "AAAA").bytes (CString.literal "AAAA").strlen).isSome = true ↔
        Decodable (CString.literal "AAAA").text) ∧
      (PushesDecoded
          (base64Decode (CString.literal "AAAA").bytes (CString.literal "AAAA").strlen)
          readySource.pushed
          (screencastSrcPushFrame adjustAtUnitRate ⟨⟨⟨1, 0⟩, 5⟩, none⟩ readySource 1000
            (CString.literal "AAAA")).pushed ↔
        Decodable (CString.literal "AAAA").text) :=
  pushes_decoded_iff adjustAtUnitRate ⟨⟨⟨1, 0⟩, 5⟩, none⟩ readySource 1000
    (CString.literal "AAAA") rfl rfl

/-- A payload of three digits decodes to nothing, and a buffer of a null pointer is pushed. -/
theorem threeDigits_pushed_null :
    base64Decode (CString.literal "AAA").bytes (CString.literal "AAA").strlen = none ∧
      (screencastSrcPushFrame adjustAtUnitRate ⟨⟨⟨1, 0⟩, 5⟩, none⟩ readySource 1000
        (CString.literal "AAA")).pushed = [.buffer ⟨none, 5, 5⟩] ∧
      ¬ PushesDecoded (base64Decode (CString.literal "AAA").bytes (CString.literal "AAA").strlen)
        readySource.pushed
        (screencastSrcPushFrame adjustAtUnitRate ⟨⟨⟨1, 0⟩, 5⟩, none⟩ readySource 1000
          (CString.literal "AAA")).pushed := by
  -- Both calls are evaluated, and a list is never its own extension.
  have undecoded :
      base64Decode (CString.literal "AAA").bytes (CString.literal "AAA").strlen = none := by
    decide +kernel
  have pushed : (screencastSrcPushFrame adjustAtUnitRate ⟨⟨⟨1, 0⟩, 5⟩, none⟩ readySource 1000
      (CString.literal "AAA")).pushed = [.buffer ⟨none, 5, 5⟩] := by
    decide +kernel
  refine ⟨undecoded, pushed, ?_⟩
  rw [undecoded, pushed]
  intro unchanged
  exact absurd unchanged (List.cons_ne_nil _ _)

end Ichabod
