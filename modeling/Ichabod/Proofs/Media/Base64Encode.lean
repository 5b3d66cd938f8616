import Ichabod.Lib.Lines
import Ichabod.Media.Base64Buffers
import Ichabod.Proofs.Media.Base64

/-! The encoder writes the standard encoding in lines, and stays in the buffer that it allocates. -/

namespace Ichabod

open Base64

section Table

variable (in0 in1 in2 : UInt8)

/-- An index below 64 finds the digit of that value. -/
theorem base64TableAt_eq {index : UInt8} {value : Nat} (same : index.toNat = value)
    (small : value < 64) : base64TableAt index = digit value := by
  rw [base64TableAt, same, base64Table_eq, List.getD_eq_getElem?_getD, digit_getElem? small]
  rfl

/-- A mask of low bits leaves the remainder. -/
theorem toNat_and_mask {byte mask : UInt8} (bits : Nat) (low : mask.toNat = 2 ^ bits - 1) :
    (byte &&& mask).toNat = byte.toNat % 2 ^ bits := by
  rw [UInt8.toNat_and, low, Nat.and_two_pow_sub_one_eq_mod]

/-- What a shift to the right leaves is the quotient. -/
theorem toNat_shiftRight {byte shift : UInt8} (small : shift.toNat < 8) :
    (byte >>> shift).toNat = byte.toNat / 2 ^ shift.toNat := by
  rw [UInt8.toNat_shiftRight, Nat.mod_eq_of_lt small, Nat.shiftRight_eq_div_pow]

/-- The first character of a group holds the upper six bits of the first byte. -/
theorem char0_eq : base64TableAt (in0 >>> 2) = digit (in0.toNat / 4) := by
  have bound := in0.toNat_lt
  have high : (in0 >>> 2).toNat = in0.toNat / 4 := toNat_shiftRight (by decide)
  apply base64TableAt_eq high
  omega

/-- The second character holds the rest of the first byte and the upper half of the next one. -/
theorem char1_eq : base64TableAt (((in0 &&& 0x03) <<< 4) ||| (in1 >>> 4)) =
    digit (in0.toNat % 4 * 16 + in1.toNat / 16) := by
  have bound := in1.toNat_lt
  have high : (in0 &&& 0x03).toNat = in0.toNat % 4 := toNat_and_mask 2 rfl
  have low : (in1 >>> 4).toNat = in1.toNat / 16 := toNat_shiftRight (by decide)
  apply base64TableAt_eq
  · rw [shifted_or (by decide) (by rw [low]; show in1.toNat / 16 < 16; omega), high, low]
    show in0.toNat % 4 * 16 % 256 + in1.toNat / 16 = _
    omega
  · omega

/-- The third character holds the rest of the second byte and the upper two bits of the next one. -/
theorem char2_eq : base64TableAt (((in1 &&& 0x0f) <<< 2) ||| (in2 >>> 6)) =
    digit (in1.toNat % 16 * 4 + in2.toNat / 64) := by
  have bound := in2.toNat_lt
  have high : (in1 &&& 0x0f).toNat = in1.toNat % 16 := toNat_and_mask 4 rfl
  have low : (in2 >>> 6).toNat = in2.toNat / 64 := toNat_shiftRight (by decide)
  apply base64TableAt_eq
  · rw [shifted_or (by decide) (by rw [low]; show in2.toNat / 64 < 4; omega), high, low]
    show in1.toNat % 16 * 4 % 256 + in2.toNat / 64 = _
    omega
  · omega

/-- The fourth character holds the lower six bits of the third byte. -/
theorem char3_eq : base64TableAt (in2 &&& 0x3f) = digit (in2.toNat % 64) := by
  apply base64TableAt_eq (toNat_and_mask 6 rfl)
  show in2.toNat % 64 < 64
  omega

/-- Where there is no second byte, its upper half counts as zero. -/
theorem char1_last : base64TableAt ((in0 &&& 0x03) <<< 4) = digit (in0.toNat % 4 * 16) := by
  have filled := char1_eq in0 0
  simpa using filled

/-- Where there is no third byte, its upper bits count as zero. -/
theorem char2_last : base64TableAt ((in1 &&& 0x0f) <<< 2) = digit (in1.toNat % 16 * 4) := by
  have filled := char2_eq in1 0
  simpa using filled

end Table

section Groups

variable (in0 in1 in2 : UInt8) (input : Bytes)

/-- The four characters of a whole group. -/
def quad : Bytes :=
  [base64TableAt (in0 >>> 2), base64TableAt (((in0 &&& 0x03) <<< 4) ||| (in1 >>> 4)),
    base64TableAt (((in1 &&& 0x0f) <<< 2) ||| (in2 >>> 6)), base64TableAt (in2 &&& 0x3f)]

/-- Three bytes are written as the digits of one number. -/
theorem encode_quad :
    encode (in0 :: in1 :: in2 :: input) = quad in0 in1 in2 ++ encode input := by
  -- The bytes are the number in base 256, and the values of the characters are it in base 64.
  have bound0 := in0.toNat_lt
  have bound1 := in1.toNat_lt
  have bound2 := in2.toNat_lt
  rw [encode, quad, char0_eq, char1_eq, char2_eq, char3_eq]
  generalize same : in0.toNat * 65536 + in1.toNat * 256 + in2.toNat = group
  have value0 : group / 262144 = in0.toNat / 4 := by omega
  have value1 : group / 4096 % 64 = in0.toNat % 4 * 16 + in1.toNat / 16 := by omega
  have value2 : group / 64 % 64 = in1.toNat % 16 * 4 + in2.toNat / 64 := by omega
  have value3 : group % 64 = in2.toNat % 64 := by omega
  rw [value0, value1, value2, value3]
  rfl

/-- One byte is written with two padding characters. -/
theorem encode_one : encode [in0] =
    [base64TableAt (in0 >>> 2)] ++ [base64TableAt ((in0 &&& 0x03) <<< 4), 61] ++ [61] := by
  have bound := in0.toNat_lt
  have value0 : in0.toNat * 65536 / 262144 = in0.toNat / 4 := by omega
  have value1 : in0.toNat * 65536 / 4096 % 64 = in0.toNat % 4 * 16 := by omega
  rw [encode, char0_eq, char1_last, value0, value1]
  rfl

/-- Two bytes are written with one padding character. -/
theorem encode_two : encode [in0, in1] =
    [base64TableAt (in0 >>> 2)] ++ [base64TableAt (((in0 &&& 0x03) <<< 4) ||| (in1 >>> 4)),
      base64TableAt ((in1 &&& 0x0f) <<< 2)] ++ [61] := by
  have bound0 := in0.toNat_lt
  have bound1 := in1.toNat_lt
  rw [encode, char0_eq, char1_eq, char2_last]
  generalize same : in0.toNat * 65536 + in1.toNat * 256 = group
  have value0 : group / 262144 = in0.toNat / 4 := by omega
  have value1 : group / 4096 % 64 = in0.toNat % 4 * 16 + in1.toNat / 16 := by omega
  have value2 : group / 64 % 64 = in1.toNat % 16 * 4 := by omega
  rw [value0, value1, value2]
  rfl

end Groups

section Encoder

open CellWriter

variable {line src input : Bytes} {pos : CellWriter UInt8}

/-- Behind the loop, the last group is appended if there is one. -/
theorem encodeRest_appends (short : input.length < 3) :
    Appends (encode input) (encodeRest input) := by
  rcases input with - | ⟨in0, - | ⟨in1, - | ⟨in2, input⟩⟩⟩
  · exact appends_nothing
  · rw [encode_one, List.append_assoc]
    exact (appends_put _).bind ((appends_putAll _).bind (appends_put _))
  · rw [encode_two, List.append_assoc]
    exact (appends_put _).bind ((appends_putAll _).bind (appends_put _))
  · simp only [List.length_cons] at short
    omega

/-- What is left behind the loop is written, and then the end of a line that was begun. -/
theorem encodeLoop_short {lineLen : Nat} (short : src.length < 3) :
    encodeLoop src lineLen pos = (encodeRest src pos).bind fun pos =>
      if (if src.length ≠ 0 then lineLen + 4 else lineLen) ≠ 0 then pos.put 10 else some pos := by
  rcases src with - | ⟨in0, - | ⟨in1, - | ⟨in2, src⟩⟩⟩
  · rfl
  · rfl
  · rfl
  · simp only [List.length_cons] at short
    omega

/-- A line that was begun is ended behind the last group. -/
theorem encodeLoop_last (short : src.length < 3) (begun : line.length < 72)
    (whole : line.length % 4 = 0) :
    ∃ rest, Wrapped 72 [10] (line ++ encode src) (line ++ rest) ∧
      Appends rest (encodeLoop src line.length) := by
  have groups := encode_length src
  by_cases empty : line ++ encode src = []
  · -- Neither the line nor the input has anything left, and no line feed is written.
    obtain ⟨noLine, noCode⟩ := List.append_eq_nil_iff.mp empty
    have noInput : src.length = 0 := by
      rw [noCode, List.length_nil] at groups
      omega
    refine ⟨encode src, ?_, ?_⟩
    · rw [empty]
      exact .nil
    · intro pos fits
      obtain ⟨next, written, text, room⟩ := encodeRest_appends short pos fits
      refine ⟨next, ?_, text, room⟩
      rw [encodeLoop_short short, written, noLine]
      simp [noInput]
  · -- The line has at most seventeen groups, and the input has at most one.
    refine ⟨encode src ++ [10], ?_, ?_⟩
    · rw [← List.append_assoc]
      apply Wrapped.single empty
      rw [List.length_append]
      omega
    · have counted : (if src.length ≠ 0 then line.length + 4 else line.length) ≠ 0 := by
        have some := List.length_pos_iff.mpr empty
        rw [List.length_append] at some
        split
        · omega
        · omega
      intro pos fits
      obtain ⟨next, written, text, room⟩ :=
        ((encodeRest_appends short).bind (appends_put 10)) pos fits
      refine ⟨next, ?_, text, room⟩
      rw [encodeLoop_short short]
      simp only [if_pos counted]
      exact written

/-- With a line begun, the encoder appends the rest of that line and all further lines. -/
theorem encodeLoop_appends (begun : line.length < 72) (whole : line.length % 4 = 0) :
    ∃ rest, Wrapped 72 [10] (line ++ encode src) (line ++ rest) ∧
      Appends rest (encodeLoop src line.length) := by
  -- The recursion takes one group at a time, and each of its ends is the last line.
  induction src using encode.induct generalizing line with
  | case1 => exact encodeLoop_last (by simp) begun whole
  | case2 first => exact encodeLoop_last (by simp) begun whole
  | case3 first second => exact encodeLoop_last (by simp) begun whole
  | case4 in0 in1 in2 src ih =>
    rw [encode_quad, ← List.append_assoc]
    have longer : (line ++ quad in0 in1 in2).length = line.length + 4 := List.length_append
    by_cases full : 72 ≤ line.length + 4
    · -- A line has eighteen groups, so this group is the eighteenth one.
      obtain ⟨rest, wrapped, appends⟩ := ih (show ([] : Bytes).length < 72 by decide) rfl
      refine ⟨quad in0 in1 in2 ++ ([10] ++ rest), ?_, ?_⟩
      · have lines : Wrapped 72 [10] (line ++ quad in0 in1 in2 ++ encode src)
            (line ++ quad in0 in1 in2 ++ [10] ++ rest) := .full (by omega) wrapped
        simpa only [List.append_assoc] using lines
      · intro pos fits
        obtain ⟨next, written, text, room⟩ :=
          ((appends_putAll _).bind ((appends_put 10).bind appends)) pos fits
        refine ⟨next, ?_, text, room⟩
        rw [← written]
        simp only [encodeLoop, if_pos full]
        rfl
    · -- There is room for another group, and the line goes on.
      obtain ⟨rest, wrapped, appends⟩ := ih (show (line ++ quad in0 in1 in2).length < 72 by omega)
        (by omega)
      refine ⟨quad in0 in1 in2 ++ rest, ?_, ?_⟩
      · rw [← List.append_assoc]
        exact wrapped
      · rw [longer] at appends
        intro pos fits
        obtain ⟨next, written, text, room⟩ := ((appends_putAll _).bind appends) pos fits
        refine ⟨next, ?_, text, room⟩
        rw [← written]
        simp only [encodeLoop, if_neg full]
        rfl

end Encoder

section Room

variable {len : UInt64}

/-- Only the product can exceed `size_t`, and everything behind it is a sum of numbers. -/
theorem encodedRoom_toNat (len : UInt64) : (encodedRoom len).toNat =
    len.toNat * 4 % 2 ^ 64 / 3 + 4 + (len.toNat * 4 % 2 ^ 64 / 3 + 4) / 72 + 1 := by
  have one : (1 : UInt64).toNat = 1 := rfl
  have three : (3 : UInt64).toNat = 3 := rfl
  have four : (4 : UInt64).toNat = 4 := rfl
  have width : (72 : UInt64).toNat = 72 := rfl
  simp only [encodedRoom, UInt64.toNat_add, UInt64.toNat_mul, UInt64.toNat_div, one, three, four,
    width]
  -- A third of 2^64 leaves enough room for the line feeds and the constants.
  generalize product : len.toNat * 4 % 2 ^ 64 = rest
  have bound : rest < 2 ^ 64 := by omega
  have blocks : (rest / 3 + 4) % 2 ^ 64 = rest / 3 + 4 := by omega
  rw [blocks]
  have lines : (rest / 3 + 4 + (rest / 3 + 4) / 72) % 2 ^ 64 =
      rest / 3 + 4 + (rest / 3 + 4) / 72 := by omega
  rw [lines]
  omega

/-- Below 2^62 bytes, the product does not exceed it either. -/
theorem encodedRoom_eq (small : len.toNat < 2 ^ 62) :
    (encodedRoom len).toNat =
      len.toNat * 4 / 3 + 4 + (len.toNat * 4 / 3 + 4) / 72 + 1 := by
  have product : len.toNat * 4 % 2 ^ 64 = len.toNat * 4 := by omega
  rw [encodedRoom_toNat, product]

/-- The test for an overflow finds every length from 2^62 on, and no other one. -/
theorem encodedRoom_lt_iff : encodedRoom len < len ↔ 2 ^ 62 ≤ len.toNat := by
  have bound := len.toNat_lt
  rw [UInt64.lt_iff_toNat_lt]
  constructor
  · intro less
    by_contra small
    rw [encodedRoom_eq (by omega)] at less
    omega
  · -- The product loses a multiple of 2^64, and what is left is too small for any such length.
    intro large
    rw [encodedRoom_toNat]
    have lost : len.toNat * 4 % 2 ^ 64 ≤ len.toNat * 4 - 2 ^ 64 := by omega
    have rest : len.toNat * 4 % 2 ^ 64 < 2 ^ 64 := Nat.mod_lt _ (by decide)
    generalize len.toNat * 4 % 2 ^ 64 = product at lost rest
    omega

/-- The lines of an encoding and the terminator fit into the room. -/
theorem lines_fit (small : len.toNat < 2 ^ 62) {src lines : Bytes} (length : src.length = len.toNat)
    (wrapped : Wrapped 72 [10] (encode src) lines) :
    lines.length + 1 ≤ (encodedRoom len).toNat := by
  -- There is one line feed for every 72 characters, rounded up, and up to four bytes to spare.
  have characters := encode_length src
  have total := wrapped.length_eq (by decide)
  rw [List.length_singleton] at total
  have spare : (encode src).length + 1 ≤ len.toNat * 4 / 3 + 4 := by omega
  rw [encodedRoom_eq small]
  generalize len.toNat * 4 / 3 + 4 = blocks at spare
  omega

end Room

section Encode

variable {malloc : (size : Nat) → Option (Cells size)} {len : UInt64} (src : Cells len.toNat)

/-- Up to 2^62 bytes, the lines of the standard encoding and the terminator are written. -/
theorem base64Encode_lines (small : len.toNat < 2 ^ 62)
    (given : malloc (encodedRoom len).toNat ≠ none) :
    ∃ lines cells, Wrapped 72 [10] (encode src.val) lines ∧
      base64Encode malloc len src = .buffer cells lines.length ∧
      cells.take (lines.length + 1) = lines ++ [0] ∧
      cells.length = (encodedRoom len).toNat := by
  -- The lines are what the loop appends to an empty text, and the terminator comes on top.
  obtain ⟨lines, wrapped, appends⟩ : ∃ lines, Wrapped 72 [10] ([] ++ encode src.val)
      ([] ++ lines) ∧ CellWriter.Appends lines (encodeLoop src.val 0) :=
    encodeLoop_appends (by decide) rfl
  rw [List.nil_append, List.nil_append] at wrapped
  have room := lines_fit small src.property wrapped
  have accepted : ¬ encodedRoom len < len := by
    rw [encodedRoom_lt_iff]
    omega
  obtain ⟨allocated, allocation⟩ := Option.ne_none_iff_exists'.mp given
  have fits : (CellWriter.fresh allocated.val).text.length + lines.length ≤
      (CellWriter.fresh allocated.val).room := by
    rw [CellWriter.fresh_text, CellWriter.fresh_room, allocated.property, List.length_nil]
    omega
  obtain ⟨pos, ran, text, posRoom⟩ := appends _ fits
  rw [CellWriter.fresh_text, List.nil_append] at text
  rw [CellWriter.fresh_room, allocated.property] at posRoom
  have free : pos.text.length < pos.room := by
    rw [text, posRoom]
    omega
  obtain ⟨ended, put, endedText, endedRoom⟩ := CellWriter.put_spec 0 free
  have outLen : pos.pos = lines.length := by rw [← CellWriter.text_length, text]
  have endedPos : ended.pos = lines.length + 1 := by
    rw [← CellWriter.text_length, endedText, text, List.length_append]
    rfl
  refine ⟨lines, ended.cells, wrapped, ?_, ?_, endedRoom.trans posRoom⟩
  · simp only [base64Encode, if_neg accepted, allocation, ran, put, outLen]
  · rw [← endedPos, ← text]
    exact endedText

/-- The character that ends a line. -/
def LineFeed (char : UInt8) : Prop :=
  char = 10

/-- A text in lines is the text with line feeds inserted. -/
theorem inserted_of_wrapped {text lines : Bytes} (wrapped : Wrapped 72 [10] text lines) :
    Inserted LineFeed text lines := by
  -- The characters of a line are kept one by one, and the line feed behind them is new.
  have kept (line : Bytes) {text lines : Bytes}
      (rest : Inserted LineFeed text lines) :
      Inserted LineFeed (line ++ text) (line ++ lines) := by
    induction line with
    | nil => exact rest
    | cons char line ih => exact .keep char ih
  have feed : LineFeed 10 := rfl
  induction wrapped with
  | nil => exact .nil
  | @last line nonempty short =>
    have ended := kept line (.insert 10 feed .nil)
    rw [List.append_nil] at ended
    exact ended
  | @full line text lines exact rest ih =>
    rw [List.append_assoc]
    exact kept line (.insert 10 feed ih)

/-- The only NUL of an encoding in lines is the terminator. -/
theorem untilNul_lines {lines cells : Bytes} (wrapped : Wrapped 72 [10] (encode src.val) lines)
    (ended : cells.take (lines.length + 1) = lines ++ [0]) : CString.untilNul cells = lines := by
  -- Neither a symbol nor a line feed is one.
  have free : ∀ char ∈ lines, decide (char ≠ 0) = true := by
    intro char member
    apply decide_eq_true
    intro zero
    rw [zero] at member
    rcases (inserted_of_wrapped wrapped).mem member with code | feed
    · exact absurd (encode_symbols src.val 0 code) (by decide)
    · exact absurd feed (show (0 : UInt8) ≠ 10 by decide)
  have split := List.take_append_drop (lines.length + 1) cells
  rw [ended, List.append_assoc] at split
  rw [CString.untilNul, ← split, List.takeWhile_append_of_pos free]
  simp

end Encode

/--
Up to 2^62 bytes, the encoder gives the standard encoding in lines of 72 characters, with a NUL
behind it that still fits into the buffer, and from there on NULL, as without a buffer.
-/
theorem base64Encode_wrapped (malloc : (size : Nat) → Option (Cells size)) (len : UInt64)
    (src : Cells len.toNat) :
    (base64Encode malloc len src = .null ↔
        2 ^ 62 ≤ len.toNat ∨ malloc (encodedRoom len).toNat = none) ∧
      (len.toNat < 2 ^ 62 → malloc (encodedRoom len).toNat ≠ none →
        ∃ lines cells, Wrapped 72 [10] (encode src.val) lines ∧
          base64Encode malloc len src = .buffer cells lines.length ∧
          cells.take (lines.length + 1) = lines ++ [0] ∧
          cells.length = (encodedRoom len).toNat) := by
  refine ⟨⟨fun null => ?_, fun refused => ?_⟩, base64Encode_lines src⟩
  · -- A short text that is given a buffer is written into it.
    by_contra accepted
    rw [not_or] at accepted
    obtain ⟨lines, cells, _, written, _⟩ := base64Encode_lines src (by omega) accepted.2
    rw [null] at written
    cases written
  · rw [base64Encode]
    rcases refused with large | refused
    · exact if_pos (encodedRoom_lt_iff.mpr large)
    · rw [refused, ite_self]

/-- Two bytes are encoded as one line of one group, with a terminator in the last of six bytes. -/
example : base64Encode (fun size => some ⟨List.replicate size 7, List.length_replicate⟩) 2
    ⟨[102, 111], rfl⟩ = .buffer [90, 109, 56, 61, 10, 0, 7] 5 := by
  decide +kernel

end Ichabod
