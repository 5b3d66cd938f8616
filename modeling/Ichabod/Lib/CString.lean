import Mathlib.Data.List.TakeWhile

/-! NUL-terminated strings, read as the bytes before their first NUL. -/

/-- A buffer that a string function can read, because it contains a terminator. -/
structure CString where
  /-- The whole buffer, with everything after the first NUL. -/
  bytes : List UInt8
  /-- Reading the buffer always stops. -/
  terminated : 0 ∈ bytes
deriving DecidableEq

namespace CString

/-- The bytes before the first NUL, or all of them if there is none. -/
def untilNul (data : List UInt8) : List UInt8 :=
  data.takeWhile (· ≠ 0)

/-- What a string function sees of the buffer. -/
def text (string : CString) : List UInt8 :=
  untilNul string.bytes

/-- The buffer that holds a copy of the data and one NUL behind it. -/
def ofBytes (data : List UInt8) : CString :=
  ⟨data ++ [0], by simp⟩

/-- The bytes of an ASCII name. -/
def ascii (name : String) : List UInt8 :=
  name.toList.map Char.toUInt8

/-- A string literal. -/
def literal (name : String) : CString :=
  ofBytes (ascii name)

/-- The number of bytes before the first NUL. -/
def strlen (string : CString) : Nat :=
  string.text.length

/-- Whether `strcmp` of the two strings is zero. -/
def same (left right : CString) : Bool :=
  left.text == right.text

/-- `isspace` in the C locale. -/
def isSpace (byte : UInt8) : Bool :=
  byte = 32 || (9 ≤ byte && byte ≤ 13)

/-- The value of the decimal digits in front, behind digits of the given value. -/
def digitsValue (value : Nat) : List UInt8 → Nat
  | [] => value
  | byte :: rest =>
    if 48 ≤ byte ∧ byte ≤ 57 then digitsValue (value * 10 + (byte.toNat - 48)) rest else value

/-- The number in front of a string, behind blanks and a sign. -/
def number (string : CString) : Int :=
  match string.text.dropWhile isSpace with
  | 45 :: digits => -(digitsValue 0 digits : Int)
  | 43 :: digits => digitsValue 0 digits
  | digits => digitsValue 0 digits

/-- `LONG_MIN`, for a `long` of 64 bits. -/
def longMin : Int :=
  -9223372036854775808

/-- `LONG_MAX`. -/
def longMax : Int :=
  9223372036854775807

/-- `strtol` to the base ten, which stops at the limits of a `long`. -/
def strtol (string : CString) : Int :=
  max longMin (min string.number longMax)

/-- `atol`. -/
def atol (string : CString) : Int64 :=
  .ofInt string.strtol

/-- `atoi`, which keeps the low 32 bits of what `strtol` returns. -/
def atoi (string : CString) : Int32 :=
  .ofInt string.strtol

/-- Data without a NUL is not cut. -/
theorem untilNul_of_free {data : List UInt8} (free : 0 ∉ data) : untilNul data = data := by
  -- Every byte passes the test that the cut is made by.
  rw [untilNul, List.takeWhile_eq_self_iff]
  intro byte member
  simpa using fun zero : byte = 0 => free (zero ▸ member)

/-- A copied part reads as its bytes up to the first NUL among them. -/
@[simp] theorem text_ofBytes (data : List UInt8) : (ofBytes data).text = untilNul data := by
  -- The appended terminator is never part of the text.
  induction data with
  | nil => rfl
  | cons byte rest ih =>
    simp only [ofBytes, text, untilNul, List.cons_append, List.takeWhile_cons] at ih ⊢
    split
    · rw [ih]
    · rfl

/-- A literal without a NUL reads as its own characters. -/
theorem text_literal {name : String} (free : 0 ∉ ascii name) :
    (literal name).text = ascii name := by
  rw [literal, text_ofBytes, untilNul_of_free free]

/-- Two strings compare equal exactly if they read as the same text. -/
theorem same_iff (left right : CString) : left.same right = true ↔ left.text = right.text := by
  simp [same]

/-- A copied part compares equal to a literal exactly if its text is the literal's. -/
theorem literal_same_ofBytes (name : String) (data : List UInt8) (free : 0 ∉ ascii name) :
    (literal name).same (ofBytes data) = true ↔ untilNul data = ascii name := by
  -- Both sides are compared as texts, and the literal is its own text.
  rw [same_iff, text_literal free, text_ofBytes]
  exact eq_comm

/-- The text occupies the front of the buffer. -/
theorem take_strlen (string : CString) : string.bytes.take string.strlen = string.text := by
  -- The text is a prefix of the buffer, and its own length cuts it off there.
  have front : string.text <+: string.bytes := List.takeWhile_prefix _
  exact (List.prefix_iff_eq_take.mp front).symm

end CString
