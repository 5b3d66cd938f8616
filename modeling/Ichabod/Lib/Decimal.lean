import Ichabod.Lib.CString

/-! Integers written as decimal text, and read back by `strtol`. -/

namespace CString

/-- A decimal digit is copied to the byte of the same value. -/
theorem digit_byte {char : Char} (digit : char.isDigit = true) :
    char.toUInt8.toNat = char.toNat ∧ 48 ≤ char.toUInt8 ∧ char.toUInt8 ≤ 57 := by
  -- The ten digits lie between 48 and 57, so nothing is cut off.
  simp only [Char.isDigit, Bool.and_eq_true, decide_eq_true_eq, UInt32.le_iff_toNat_le] at digit
  obtain ⟨low, high⟩ := digit
  have same : char.toUInt8.toNat = char.toNat := by
    have cut : char.toUInt8.toNat = char.toNat % 256 := rfl
    rw [cut]
    apply Nat.mod_eq_of_lt
    exact Nat.lt_of_le_of_lt high (by decide)
  refine ⟨same, ?_, ?_⟩
  · rw [UInt8.le_iff_toNat_le, same]
    exact low
  · rw [UInt8.le_iff_toNat_le, same]
    exact high

/-- The value of a text of digits is the one that the digits denote. -/
theorem digitsValue_digits {chars : List Char} (digits : ∀ char ∈ chars, char.isDigit = true)
    (value : Nat) :
    digitsValue value (chars.map Char.toUInt8) = Nat.ofDigitChars 10 chars value := by
  -- Both read the digits from the front, and multiply by ten in between.
  induction chars generalizing value with
  | nil => simp [digitsValue]
  | cons char rest ih =>
    obtain ⟨same, low, high⟩ := digit_byte (digits char List.mem_cons_self)
    have zero : '0'.toNat = 48 := rfl
    rw [List.map_cons, digitsValue, if_pos ⟨low, high⟩, same, Nat.ofDigitChars_cons, zero,
      ih fun other member => digits other (List.mem_cons_of_mem _ member), Nat.mul_comm]

/-- The digits of a natural number. -/
theorem toDigits_digits (value : Nat) : ∀ char ∈ Nat.toDigits 10 value, char.isDigit = true :=
  fun _ member => Nat.isDigit_of_mem_toDigits (by decide) (by decide) member

/-- Copied digits contain no terminator. -/
theorem zero_not_mem_digits {chars : List Char} (digits : ∀ char ∈ chars, char.isDigit = true) :
    0 ∉ chars.map Char.toUInt8 := by
  intro zero
  obtain ⟨char, member, same⟩ := List.mem_map.mp zero
  have low := (digit_byte (digits char member)).2.1
  rw [same] at low
  exact absurd low (by decide)

/-- The text of an integer: its digits, behind a sign if it is negative. -/
theorem text_decimal (value : Int) :
    (literal (toString value)).text =
      if 0 ≤ value then (Nat.toDigits 10 value.toNat).map Char.toUInt8
      else 45 :: (Nat.toDigits 10 (-value).toNat).map Char.toUInt8 := by
  -- Neither the sign nor the digits are cut at a terminator.
  have chars : ascii (toString value) =
      if 0 ≤ value then (Nat.toDigits 10 value.toNat).map Char.toUInt8
      else 45 :: (Nat.toDigits 10 (-value).toNat).map Char.toUInt8 := by
    rw [ascii, Int.toString_eq_repr, Int.repr_eq_if]
    split
    · rw [Nat.toList_repr]
    · rw [String.toList_append, Nat.toList_repr]
      rfl
  have free : 0 ∉ ascii (toString value) := by
    rw [chars]
    split
    · exact zero_not_mem_digits (toDigits_digits _)
    · rw [List.mem_cons, not_or]
      exact ⟨by decide, zero_not_mem_digits (toDigits_digits _)⟩
  rw [text_literal free, chars]

/-- A text of digits is read as the number they denote. -/
theorem number_digits {string : CString} {chars : List Char} (nonempty : chars ≠ [])
    (digits : ∀ char ∈ chars, char.isDigit = true)
    (text : string.text = chars.map Char.toUInt8) :
    string.number = (Nat.ofDigitChars 10 chars 0 : Nat) := by
  -- The first digit is neither a blank nor a sign.
  obtain ⟨char, rest, rfl⟩ := List.exists_cons_of_ne_nil nonempty
  have read := digitsValue_digits digits 0
  obtain ⟨_, low, _⟩ := digit_byte (digits char List.mem_cons_self)
  rw [List.map_cons] at text read
  have low : 48 ≤ char.toUInt8.toNat := UInt8.le_iff_toNat_le.mp low
  have noSpace : isSpace char.toUInt8 = false := by
    simp only [isSpace, Bool.or_eq_false_iff, Bool.and_eq_false_iff, decide_eq_false_iff_not,
      UInt8.le_iff_toNat_le, ← UInt8.toNat_inj]
    exact ⟨fun same : _ = 32 => by omega, .inr fun below : _ ≤ 13 => by omega⟩
  rw [← read, number, text, List.dropWhile_cons_of_neg (by simp [noSpace])]
  split
  · rename_i minus
    have same : char.toUInt8.toNat = 45 := congrArg UInt8.toNat (List.cons.inj minus).1
    omega
  · rename_i plus
    have same : char.toUInt8.toNat = 43 := congrArg UInt8.toNat (List.cons.inj plus).1
    omega
  · rfl

/-- Behind a minus sign, the number is negated. -/
theorem number_negated {string : CString} {chars : List Char}
    (digits : ∀ char ∈ chars, char.isDigit = true)
    (text : string.text = 45 :: chars.map Char.toUInt8) :
    string.number = -(Nat.ofDigitChars 10 chars 0 : Nat) := by
  have noSpace : isSpace 45 = false := by decide
  rw [number, text, List.dropWhile_cons_of_neg (by simp [noSpace])]
  simp only [digitsValue_digits digits]

/-- A number that was written as text stands in front of that text. -/
theorem number_decimal (value : Int) : (literal (toString value)).number = value := by
  -- Digits and sign are read in the two ways in which they are written.
  have text := text_decimal value
  split at text
  · rw [number_digits Nat.toDigits_ne_nil (toDigits_digits _) text, Nat.ofDigitChars_ten_toDigits]
    omega
  · rw [number_negated (toDigits_digits _) text, Nat.ofDigitChars_ten_toDigits]
    omega

/-- A number that was written as text is read back unchanged, if it fits into a `long`. -/
theorem strtol_decimal {value : Int} (low : longMin ≤ value) (high : value ≤ longMax) :
    (literal (toString value)).strtol = value := by
  rw [strtol, number_decimal, Int.min_eq_left high, Int.max_eq_right low]

-- A number that is too large stops at the limit, and its low bits are all set.
example : (literal "18446744073709551618").atoi = -1 := by decide

/-- The text of a number takes up to three bytes exactly from -99 to 999. -/
theorem strlen_decimal_le_three (value : Int) :
    (literal (toString value)).strlen ≤ 3 ↔ -99 ≤ value ∧ value ≤ 999 := by
  -- The sign takes the place of one digit.
  rw [strlen, text_decimal]
  split
  · rw [List.length_map, Nat.length_toDigits_le_iff (by decide) (by decide)]
    omega
  · rw [List.length_cons, List.length_map, Nat.add_le_add_iff_right (n := 1) (k := 2),
      Nat.length_toDigits_le_iff (by decide) (by decide)]
    omega

end CString
