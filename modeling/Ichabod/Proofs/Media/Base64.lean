import Mathlib.Algebra.GroupWithZero.Nat
import Ichabod.Lib.Base64
import Ichabod.Media.Base64

/-! The decoder gives back what the standard encoding was made from. -/

namespace Ichabod

open Base64

section Table

variable {table : UInt8 → UInt8} {start : Nat} {chars : Bytes}

/-- Filling leaves the other entries as they were. -/
theorem fillTable_of_not_mem {char : UInt8} (outside : char ∉ chars) :
    fillTable table start chars char = table char := by
  -- Each entry that is stored belongs to another character.
  induction chars generalizing table start with
  | nil => rfl
  | cons first rest ih =>
    rw [List.mem_cons, not_or] at outside
    rw [fillTable, ih outside.2, Function.update_of_ne outside.1]

/-- Each of several distinct characters finds its own place in the filled table. -/
theorem fillTable_getElem? (distinct : chars.Nodup) {place : Nat} {char : UInt8}
    (there : chars[place]? = some char) :
    fillTable table start chars char = UInt8.ofNat (start + place) := by
  -- Once a character has been stored, none of the later ones overwrites it.
  induction chars generalizing table start place with
  | nil => simp at there
  | cons first rest ih =>
    obtain ⟨fresh, distinct⟩ := List.nodup_cons.mp distinct
    cases place with
    | zero =>
      obtain rfl : first = char := by simpa using there
      rw [fillTable, fillTable_of_not_mem fresh, Function.update_self, Nat.add_zero]
    | succ place =>
      have later : rest[place]? = some char := by simpa using there
      rw [fillTable, ih distinct later]
      congr 1
      omega

end Table

/-- The program's table is the alphabet. -/
theorem base64Table_eq : base64Table = alphabet := by
  rfl

/-- No digit is the padding character. -/
theorem digit_ne_padding {value : Nat} (small : value < 64) : digit value ≠ padding := by
  -- Otherwise the padding character would be in the alphabet.
  intro same
  have member := digit_mem small
  rw [same] at member
  exact padding_not_mem member

/-- A digit is decoded to its value. -/
theorem dtable_digit {value : Nat} (small : value < 64) :
    dtable (digit value) = UInt8.ofNat value := by
  -- The entry for padding is stored last, and overwrites no digit.
  have there : base64Table[value]? = some (digit value) := by
    rw [base64Table_eq, digit_getElem? small]
  have distinct : base64Table.Nodup := by
    rw [base64Table_eq]
    exact alphabet_nodup
  have other : digit value ≠ 61 := digit_ne_padding small
  rw [dtable, Function.update_of_ne other, fillTable_getElem? distinct there, Nat.zero_add]

/-- Padding is decoded to zero bits. -/
theorem dtable_padding : dtable padding = 0 := by
  rw [dtable, padding, Function.update_self]

/-- Characters that can occur in no encoding are passed over. -/
theorem dtable_eq_iff (char : UInt8) : dtable char = 0x80 ↔ ¬ IsSymbol char := by
  -- No digit has the value 0x80, because values are below 64.
  constructor
  · rintro passed (isDigit | rfl)
    · obtain ⟨value, there⟩ := List.getElem?_of_mem isDigit
      have small : value < 64 := alphabet_length ▸ (List.getElem?_eq_some_iff.mp there).1
      obtain rfl : digit value = char := by
        have same := (digit_getElem? small).symm.trans there
        exact Option.some.inj same
      rw [dtable_digit small] at passed
      have sharp : value % 256 = 128 := congrArg UInt8.toNat passed
      omega
    · rw [dtable_padding] at passed
      exact absurd passed (by decide)
  · intro outside
    have noDigit : char ∉ base64Table := fun isDigit => outside (.inl isDigit)
    have noPadding : char ≠ 61 := fun isPadding => outside (.inr isPadding)
    rw [dtable, Function.update_of_ne noPadding, fillTable_of_not_mem noDigit]

/-- A value shifted up and a value that fits below it fill one byte. -/
theorem shifted_or {high low shift : UInt8} (small : shift.toNat < 8)
    (fits : low.toNat < 2 ^ shift.toNat) :
    ((high <<< shift) ||| low).toNat = high.toNat * 2 ^ shift.toNat % 256 + low.toNat := by
  -- What is left of the high value is a multiple of the power, so no bits overlap.
  have split : (256 : Nat) = 2 ^ (8 - shift.toNat) * 2 ^ shift.toNat := by
    have bits : 8 - shift.toNat + shift.toNat = 8 := by omega
    rw [← Nat.pow_add, bits]
  have kept : high.toNat * 2 ^ shift.toNat % 256 =
      (high.toNat % 2 ^ (8 - shift.toNat)) <<< shift.toNat := by
    rw [split, Nat.mul_mod_mul_right, Nat.shiftLeft_eq]
  rw [UInt8.toNat_or, UInt8.toNat_shiftLeft, Nat.mod_eq_of_lt small, Nat.shiftLeft_eq, kept,
    Nat.shiftLeft_add_eq_or_of_lt fits]

/-- The three bytes that four values are joined to. -/
def joined (block0 block1 block2 block3 : UInt8) : Bytes :=
  [(block0 <<< 2) ||| (block1 >>> 4), (block1 <<< 4) ||| (block2 >>> 2), (block2 <<< 6) ||| block3]

/-- A number below 256 survives as a byte. -/
theorem toNat_ofNat_small {value : Nat} (small : value < 256) :
    (UInt8.ofNat value).toNat = value :=
  Nat.mod_eq_of_lt small

/-- Four values below 64 are joined as the digits of one number. -/
theorem joined_ofNat {value0 value1 value2 value3 : Nat} (small0 : value0 < 64)
    (small1 : value1 < 64) (small2 : value2 < 64) (small3 : value3 < 64) :
    joined (.ofNat value0) (.ofNat value1) (.ofNat value2) (.ofNat value3) =
      [.ofNat (value0 * 4 + value1 / 16), .ofNat (value1 % 16 * 16 + value2 / 4),
        .ofNat (value2 % 4 * 64 + value3)] := by
  have byte0 := toNat_ofNat_small (show value0 < 256 by omega)
  have byte1 := toNat_ofNat_small (show value1 < 256 by omega)
  have byte2 := toNat_ofNat_small (show value2 < 256 by omega)
  have byte3 := toNat_ofNat_small (show value3 < 256 by omega)
  -- The low value of each byte is what the shift to the right leaves of the next one.
  have low1 : (UInt8.ofNat value1 >>> 4).toNat = value1 / 16 := by
    rw [UInt8.toNat_shiftRight, byte1]
    exact Nat.shiftRight_eq_div_pow value1 4
  have low2 : (UInt8.ofNat value2 >>> 2).toNat = value2 / 4 := by
    rw [UInt8.toNat_shiftRight, byte2]
    exact Nat.shiftRight_eq_div_pow value2 2
  have first : (UInt8.ofNat value0 <<< 2) ||| (UInt8.ofNat value1 >>> 4) =
      .ofNat (value0 * 4 + value1 / 16) := by
    apply UInt8.toNat_inj.mp
    rw [shifted_or (by decide) (by rw [low1]; show value1 / 16 < 4; omega), low1, byte0,
      toNat_ofNat_small (by omega)]
    show value0 * 4 % 256 + value1 / 16 = _
    omega
  have second : (UInt8.ofNat value1 <<< 4) ||| (UInt8.ofNat value2 >>> 2) =
      .ofNat (value1 % 16 * 16 + value2 / 4) := by
    apply UInt8.toNat_inj.mp
    rw [shifted_or (by decide) (by rw [low2]; show value2 / 4 < 16; omega), low2, byte1,
      toNat_ofNat_small (by omega)]
    show value1 * 16 % 256 + value2 / 4 = _
    omega
  have third : (UInt8.ofNat value2 <<< 6) ||| UInt8.ofNat value3 =
      .ofNat (value2 % 4 * 64 + value3) := by
    apply UInt8.toNat_inj.mp
    rw [shifted_or (by decide) (by rw [byte3]; show value3 < 64; omega), byte2, byte3,
      toNat_ofNat_small (by omega)]
    show value2 * 64 % 256 + value3 = _
    omega
  rw [joined, first, second, third]

section Loop

variable {src block out : Bytes} {pad value : Nat}

/-- A character that is passed over changes nothing. -/
theorem decodeLoop_skip {char : UInt8} (outside : ¬ IsSymbol char) :
    decodeLoop (char :: src) block pad out = decodeLoop src block pad out := by
  rw [decodeLoop]
  exact if_pos ((dtable_eq_iff char).mpr outside)

/-- A symbol is appended to a group that it does not complete. -/
theorem decodeLoop_append {char : UInt8} (symbol : IsSymbol char) (short : block.length < 3) :
    decodeLoop (char :: src) block pad out =
      decodeLoop src (block ++ [dtable char]) (if char = 61 then pad + 1 else pad) out := by
  -- A group with fewer than three values has another one to come.
  have counted : dtable char ≠ 0x80 := fun passed => (dtable_eq_iff char).mp passed symbol
  rw [decodeLoop]
  simp only [if_neg counted]
  split
  · simp at short
  · rfl

/-- What the decoder does behind a whole group with that much padding. -/
def afterGroup (src out : Bytes) : Nat → Option Bytes
  | 0 => decodeLoop src [] 0 out
  | 1 => some (out.take (out.length - 1))
  | 2 => some (out.take (out.length - 2))
  | _ => none

/-- A symbol that completes its group lets the three bytes be written. -/
theorem decodeLoop_complete {char block0 block1 block2 : UInt8} (symbol : IsSymbol char) :
    decodeLoop (char :: src) [block0, block1, block2] pad out =
      afterGroup src (out ++ joined block0 block1 block2 (dtable char))
        (if char = 61 then pad + 1 else pad) := by
  -- The padding counted so far decides how many of the three bytes are kept.
  have counted : dtable char ≠ 0x80 := fun passed => (dtable_eq_iff char).mp passed symbol
  rw [decodeLoop]
  simp only [if_neg counted]
  generalize (if char = 61 then pad + 1 else pad) = padded
  match padded with
  | 0 | 1 | 2 => rfl
  | padded + 3 => rfl

/-- Foreign characters make no difference to the decoder. -/
theorem decodeLoop_inserted {text longer : Bytes}
    (inserted : Inserted (fun char => ¬ IsSymbol char) text longer) :
    decodeLoop longer block pad out = decodeLoop text block pad out := by
  -- A character of the text is treated alike in both, and an inserted one is passed over.
  induction inserted generalizing block pad out with
  | nil => rfl
  | keep char rest ih =>
    simp only [decodeLoop, ih]
  | insert char outside rest ih => rw [decodeLoop_skip outside, ih]

/-- A digit is appended to a group that it does not complete. -/
theorem decodeLoop_digit (small : value < 64) (short : block.length < 3) :
    decodeLoop (digit value :: src) block pad out =
      decodeLoop src (block ++ [.ofNat value]) pad out := by
  have other : digit value ≠ 61 := digit_ne_padding small
  rw [decodeLoop_append (.inl (digit_mem small)) short, dtable_digit small, if_neg other]

/-- A padding character is appended and counted. -/
theorem decodeLoop_padding (short : block.length < 3) :
    decodeLoop (padding :: src) block pad out = decodeLoop src (block ++ [0]) (pad + 1) out := by
  rw [decodeLoop_append (.inr rfl) short, dtable_padding]
  rfl

/-- A text that ends in one byte leaves out the two bytes that the padding stands for. -/
theorem decodeLoop_one (first : UInt8) :
    decodeLoop (encode [first]) [] 0 out = some (out ++ [first]) := by
  have bound := first.toNat_lt
  have zero : (0 : UInt8) = .ofNat 0 := rfl
  simp only [encode]
  rw [decodeLoop_digit (by omega) (by simp), decodeLoop_digit (by omega) (by simp),
    decodeLoop_padding (by simp)]
  simp only [List.nil_append, List.cons_append]
  rw [decodeLoop_complete (.inr rfl), dtable_padding, zero,
    joined_ofNat (by omega) (by omega) (by omega) (by omega)]
  -- The first of the three bytes is the only one that counts.
  have byte : first.toNat * 65536 / 262144 * 4 + first.toNat * 65536 / 4096 % 64 / 16 =
      first.toNat := by omega
  rw [byte, UInt8.ofNat_toNat]
  simp [padding, afterGroup, List.take_length_add_append]

/-- A text that ends in two bytes leaves out the byte that the padding stands for. -/
theorem decodeLoop_two (first second : UInt8) :
    decodeLoop (encode [first, second]) [] 0 out = some (out ++ [first, second]) := by
  -- Three digits make up the first two bytes, and the rest of the third digit is zero.
  have firstBound := first.toNat_lt
  have secondBound := second.toNat_lt
  have zero : (0 : UInt8) = .ofNat 0 := rfl
  simp only [encode]
  generalize same : first.toNat * 65536 + second.toNat * 256 = group
  rw [decodeLoop_digit (by omega) (by simp), decodeLoop_digit (by omega) (by simp),
    decodeLoop_digit (by omega) (by simp)]
  simp only [List.nil_append, List.cons_append]
  rw [decodeLoop_complete (.inr rfl), dtable_padding, zero,
    joined_ofNat (by omega) (by omega) (by omega) (by omega)]
  have firstByte : group / 262144 * 4 + group / 4096 % 64 / 16 = first.toNat := by omega
  have secondByte : group / 4096 % 64 % 16 * 16 + group / 64 % 64 / 4 = second.toNat := by omega
  rw [firstByte, secondByte, UInt8.ofNat_toNat, UInt8.ofNat_toNat]
  simp [padding, afterGroup, List.take_length_add_append]

/-- A full group is decoded to its three bytes, and the decoder goes on behind it. -/
theorem decodeLoop_three (first second third : UInt8) (rest : Bytes) :
    decodeLoop (encode (first :: second :: third :: rest)) [] 0 out =
      decodeLoop (encode rest) [] 0 (out ++ [first, second, third]) := by
  have firstBound := first.toNat_lt
  have secondBound := second.toNat_lt
  have thirdBound := third.toNat_lt
  rw [encode]
  generalize same : first.toNat * 65536 + second.toNat * 256 + third.toNat = group
  have small : group % 64 < 64 := Nat.mod_lt _ (by omega)
  have other : digit (group % 64) ≠ 61 := digit_ne_padding small
  rw [decodeLoop_digit (by omega) (by simp), decodeLoop_digit (by omega) (by simp),
    decodeLoop_digit (by omega) (by simp)]
  simp only [List.nil_append, List.cons_append]
  rw [decodeLoop_complete (.inl (digit_mem small)), dtable_digit small, if_neg other,
    joined_ofNat (by omega) (by omega) (by omega) small]
  -- The four digits are the group in base 64, and the three bytes are the group in base 256.
  have firstByte : group / 262144 * 4 + group / 4096 % 64 / 16 = first.toNat := by omega
  have secondByte : group / 4096 % 64 % 16 * 16 + group / 64 % 64 / 4 = second.toNat := by omega
  have thirdByte : group / 64 % 64 % 4 * 64 + group % 64 = third.toNat := by omega
  rw [firstByte, secondByte, thirdByte, UInt8.ofNat_toNat, UInt8.ofNat_toNat, UInt8.ofNat_toNat]
  rfl

/-- From a clean state, the decoder appends exactly the bytes that were encoded. -/
theorem decodeLoop_encode (data : Bytes) :
    decodeLoop (encode data) [] 0 out = some (out ++ data) := by
  -- The recursion of the encoding takes three bytes at a time.
  induction data using encode.induct generalizing out with
  | case1 => simp [encode, decodeLoop]
  | case2 first => exact decodeLoop_one first
  | case3 first second => exact decodeLoop_two first second
  | case4 first second third rest ih =>
    rw [decodeLoop_three, ih]
    simp

end Loop

/-- All symbols of a text are counted in the first pass, and only those. -/
theorem counted_iff (char : UInt8) : decide (dtable char ≠ 0x80) = decide (IsSymbol char) := by
  rw [decide_eq_decide, Ne, dtable_eq_iff, Decidable.not_not]

/-- The first pass counts the characters of the encoding, and no inserted ones. -/
theorem countP_inserted {data text : Bytes}
    (inserted : Inserted (fun char => ¬ IsSymbol char) (encode data) text) :
    text.countP (fun char => decide (dtable char ≠ 0x80)) = (data.length + 2) / 3 * 4 := by
  -- Every character of the encoding counts, and there are four for each group.
  simp only [counted_iff]
  rw [inserted.countP_eq fun char outside => by simpa using outside, ← encode_length,
    List.countP_eq_length]
  intro char member
  simpa using encode_symbols data char member

/-- Decoding an encoding, whatever foreign characters were inserted, gives back the data. -/
theorem base64Decode_inserted {data text : Bytes} (nonempty : data ≠ [])
    (inserted : Inserted (fun char => ¬ IsSymbol char) (encode data) text) :
    base64Decode text text.length = some data := by
  -- The count of a non-empty text is a positive multiple of four, so the first pass accepts it.
  have counted := countP_inserted inserted
  have positive : 0 < data.length := List.length_pos_iff.mpr nonempty
  have whole : ¬ ((data.length + 2) / 3 * 4 = 0 ∨ (data.length + 2) / 3 * 4 % 4 ≠ 0) := by omega
  rw [base64Decode, List.take_length]
  simp only [counted, if_neg whole]
  rw [decodeLoop_inserted inserted, decodeLoop_encode, List.nil_append]

end Ichabod
