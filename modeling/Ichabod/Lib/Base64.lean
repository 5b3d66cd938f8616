import Ichabod.Lib.CString

/-! Padded base64 as three bytes in four digits, and texts with foreign characters in between. -/

namespace Base64

/-- The digits in the order of their values. -/
def alphabet : List UInt8 :=
  CString.ascii "ABCDEFGHIJKLMNOPQRSTUVWXYZabcdefghijklmnopqrstuvwxyz0123456789+/"

/-- The character that fills up the last group. -/
def padding : UInt8 := 61

/-- The digit of a value below 64. -/
def digit (value : Nat) : UInt8 :=
  alphabet.getD value padding

/-- The standard encoding, which reads each group of three bytes as one number. -/
def encode : List UInt8 → List UInt8
  | [] => []
  | [first] =>
    let group := first.toNat * 65536
    [digit (group / 262144), digit (group / 4096 % 64), padding, padding]
  | [first, second] =>
    let group := first.toNat * 65536 + second.toNat * 256
    [digit (group / 262144), digit (group / 4096 % 64), digit (group / 64 % 64), padding]
  | first :: second :: third :: rest =>
    let group := first.toNat * 65536 + second.toNat * 256 + third.toNat
    digit (group / 262144) :: digit (group / 4096 % 64) :: digit (group / 64 % 64) ::
      digit (group % 64) :: encode rest

/-- A character that can occur in an encoding. -/
def IsSymbol (char : UInt8) : Prop :=
  char ∈ alphabet ∨ char = padding

instance (char : UInt8) : Decidable (IsSymbol char) :=
  inferInstanceAs (Decidable (_ ∨ _))

/-- The second text is the first one with some foreign characters inserted at any positions. -/
inductive Inserted (foreign : UInt8 → Prop) : List UInt8 → List UInt8 → Prop where
  | nil : Inserted foreign [] []
  /-- A character of the first text. -/
  | keep (char : UInt8) {text longer : List UInt8} (rest : Inserted foreign text longer) :
      Inserted foreign (char :: text) (char :: longer)
  /-- An inserted one. -/
  | insert (char : UInt8) (outside : foreign char) {text longer : List UInt8}
      (rest : Inserted foreign text longer) : Inserted foreign text (char :: longer)

/-- The symbols of a text, without the foreign characters in between. -/
def symbols (text : List UInt8) : List UInt8 :=
  text.filter fun char => IsSymbol char

/-- The first group of four that holds padding, or nothing. -/
def paddedGroup : List UInt8 → List UInt8
  | char0 :: char1 :: char2 :: char3 :: rest =>
    if padding ∈ [char0, char1, char2, char3] then [char0, char1, char2, char3]
    else paddedGroup rest
  | _ => []

/-- A text that is not empty, has whole groups only, and does not fill up more than two bytes. -/
def Decodable (text : List UInt8) : Prop :=
  symbols text ≠ [] ∧ (symbols text).length % 4 = 0 ∧
    (paddedGroup (symbols text)).count padding < 3

/-- There is one digit for each value below 64. -/
theorem alphabet_length : alphabet.length = 64 := by
  decide

/-- No two values share a digit. -/
theorem alphabet_nodup : alphabet.Nodup := by
  decide

/-- Padding is not a digit. -/
theorem padding_not_mem : padding ∉ alphabet := by
  decide

/-- The digit of a value stands at that place of the alphabet. -/
theorem digit_getElem? {value : Nat} (small : value < 64) :
    alphabet[value]? = some (digit value) := by
  -- The default of the lookup is never needed below the length of the alphabet.
  have inside : value < alphabet.length := by
    rw [alphabet_length]
    exact small
  rw [digit, List.getD_eq_getElem?_getD, List.getElem?_eq_getElem inside]
  rfl

/-- The digit of a value is in the alphabet. -/
theorem digit_mem {value : Nat} (small : value < 64) : digit value ∈ alphabet :=
  List.mem_of_getElem? (digit_getElem? small)

/-- An encoding holds nothing but digits and padding. -/
theorem encode_symbols (data : List UInt8) : ∀ char ∈ encode data, IsSymbol char := by
  -- The values of the digits are remainders and quotients of a number below 2^24.
  fun_induction encode data with
  | case1 => simp
  | case2 first group =>
    have smallFirst := first.toNat_lt
    intro char member
    simp only [List.mem_cons, List.not_mem_nil, or_false] at member
    rcases member with rfl | rfl | rfl | rfl
    · exact .inl (digit_mem (by omega))
    · exact .inl (digit_mem (by omega))
    · exact .inr rfl
    · exact .inr rfl
  | case3 first second group =>
    have smallFirst := first.toNat_lt
    have smallSecond := second.toNat_lt
    intro char member
    simp only [List.mem_cons, List.not_mem_nil, or_false] at member
    rcases member with rfl | rfl | rfl | rfl
    · exact .inl (digit_mem (by omega))
    · exact .inl (digit_mem (by omega))
    · exact .inl (digit_mem (by omega))
    · exact .inr rfl
  | case4 first second third rest group ih =>
    have smallFirst := first.toNat_lt
    have smallSecond := second.toNat_lt
    have smallThird := third.toNat_lt
    intro char member
    simp only [List.mem_cons] at member
    rcases member with rfl | rfl | rfl | rfl | later
    · exact .inl (digit_mem (by omega))
    · exact .inl (digit_mem (by omega))
    · exact .inl (digit_mem (by omega))
    · exact .inl (digit_mem (by omega))
    · exact ih char later

/-- Each group of up to three bytes takes four characters. -/
theorem encode_length (data : List UInt8) : (encode data).length = (data.length + 2) / 3 * 4 := by
  -- The recursion takes three bytes at a time, and each of its ends writes one group of four.
  fun_induction encode data with
  | case1 => rfl
  | case2 first group => simp
  | case3 first second group => simp
  | case4 first second third rest group ih =>
    simp only [List.length_cons, ih]
    omega

/-- What is foreign in a narrow sense may be inserted in a wider one. -/
theorem Inserted.mono {foreign wider : UInt8 → Prop} {text longer : List UInt8}
    (inserted : Inserted foreign text longer) (widen : ∀ char, foreign char → wider char) :
    Inserted wider text longer := by
  induction inserted with
  | nil => exact .nil
  | keep kept rest ih => exact .keep kept ih
  | insert added outside rest ih => exact .insert added (widen added outside) ih

/-- A longer text holds the characters of the shorter one and foreign ones. -/
theorem Inserted.mem {foreign : UInt8 → Prop} {text longer : List UInt8}
    (inserted : Inserted foreign text longer) {char : UInt8} (member : char ∈ longer) :
    char ∈ text ∨ foreign char := by
  -- The induction follows the longer text, one character at a time.
  induction inserted with
  | nil => simp at member
  | keep kept rest ih =>
    rcases List.mem_cons.mp member with rfl | later
    · exact .inl List.mem_cons_self
    · exact (ih later).imp_left (List.mem_cons_of_mem _)
  | insert added outside rest ih =>
    rcases List.mem_cons.mp member with rfl | later
    · exact .inr outside
    · exact ih later

/-- A count that passes over foreign characters is that of the shorter text. -/
theorem Inserted.countP_eq {foreign : UInt8 → Prop} {text longer : List UInt8}
    (inserted : Inserted foreign text longer) {counts : UInt8 → Bool}
    (passes : ∀ char, foreign char → counts char = false) :
    longer.countP counts = text.countP counts := by
  -- An inserted character adds to the length of the text, but never to the count.
  induction inserted with
  | nil => rfl
  | keep kept rest ih => rw [List.countP_cons, List.countP_cons, ih]
  | insert added outside rest ih => rw [List.countP_cons, ih, passes added outside]; simp

/-- A text is its symbols with foreign characters inserted. -/
theorem symbols_inserted (text : List UInt8) :
    Inserted (fun char => ¬ IsSymbol char) (symbols text) text := by
  -- The filter keeps or drops one character at a time, as the relation does.
  induction text with
  | nil => exact .nil
  | cons char rest ih =>
    by_cases symbol : IsSymbol char
    · have kept : symbols (char :: rest) = char :: symbols rest :=
        List.filter_cons_of_pos (decide_eq_true symbol)
      rw [kept]
      exact .keep char ih
    · have dropped : symbols (char :: rest) = symbols rest :=
        List.filter_cons_of_neg (by simpa using symbol)
      rw [dropped]
      exact .insert char symbol ih

/-- What is kept of a text are symbols. -/
theorem isSymbol_of_mem {text : List UInt8} {char : UInt8} (member : char ∈ symbols text) :
    IsSymbol char := by
  simpa using (List.mem_filter.mp member).2

end Base64
