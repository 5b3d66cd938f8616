import Ichabod.Proofs.Media.Base64Encode
import Ichabod.Proofs.Media.Undecodable

/-! The decoder stays in its two buffers, and gives back what the encoder was given. -/

namespace Ichabod

open Base64

section Decoder

variable {src collected : Bytes} {pad : Nat} {block pos : CellWriter UInt8}

/-- A result that is NULL where nothing is expected, and a buffer with the expected bytes else. -/
def CodecResult.Gives : CodecResult → Option Bytes → Prop
  | .null, expected => expected = none
  | .outside, _ => False
  | .buffer cells outLen, expected => outLen ≤ cells.length ∧ expected = some (cells.take outLen)

/-- A pointer gives the text in front of it. -/
theorem buffer_gives (pos : CellWriter UInt8) :
    (CodecResult.buffer pos.cells pos.pos).Gives (some pos.text) :=
  ⟨pos.inside, rfl⟩

/-- The count of symbols grows by one for a symbol. -/
theorem countP_symbol {char : UInt8} (symbol : dtable char ≠ 0x80) :
    (char :: src).countP (fun char => decide (dtable char ≠ 0x80)) =
      src.countP (fun char => decide (dtable char ≠ 0x80)) + 1 :=
  List.countP_cons_of_pos (decide_eq_true symbol)

/-- Any other character does not count. -/
theorem countP_foreign {char : UInt8} (foreign : dtable char = 0x80) :
    (char :: src).countP (fun char => decide (dtable char ≠ 0x80)) =
      src.countP (fun char => decide (dtable char ≠ 0x80)) := by
  apply List.countP_cons_of_neg
  simp [foreign]

/-- Behind a whole group, the pointer goes back over the bytes that the padding stands for. -/
theorem ofWriter_back_gives {count : Nat} (enough : count ≤ pos.text.length) :
    (CodecResult.ofWriter (pos.back count)).Gives
      (some (pos.text.take (pos.text.length - count))) := by
  obtain ⟨next, moved, text, -⟩ := CellWriter.back_spec enough
  rw [moved, ← text]
  exact buffer_gives next

/-- A group is written behind the text, and then its padding decides how the decoder goes on. -/
theorem decodeInto_group {char block0 block1 block2 : UInt8} (symbol : IsSymbol char)
    (blockText : block.text = [block0, block1, block2]) (blockRoom : block.room = 4)
    (fits : pos.text.length + 3 ≤ pos.room)
    (later : ∀ next middle : CellWriter UInt8, next.text = [] → next.room = 4 →
      middle.text = pos.text ++ joined block0 block1 block2 (dtable char) →
      middle.room = pos.room →
      (decodeInto src next 0 middle).Gives (decodeLoop src [] 0 middle.text)) :
    (decodeInto (char :: src) block pad pos).Gives
      (decodeLoop (char :: src) [block0, block1, block2] pad pos.text) := by
  have counted : dtable char ≠ 0x80 := fun passed => (dtable_eq_iff char).mp passed symbol
  -- The fourth value fills the block, so its cells are the four values.
  have free : block.text.length < block.room := by
    rw [blockText, blockRoom]
    exact Nat.lt_succ_self 3
  obtain ⟨full, stored, fullText, fullRoom⟩ := CellWriter.put_spec (dtable char) free
  rw [blockText] at fullText
  rw [blockRoom] at fullRoom
  have four : full.pos = 4 := by
    rw [← CellWriter.text_length, fullText]
    rfl
  have cells : full.cells = [block0, block1, block2, dtable char] := by
    rw [CellWriter.cells_eq_text (by rw [fullText, fullRoom]; rfl), fullText]
    rfl
  obtain ⟨middle, written, middleText, middleRoom⟩ :=
    CellWriter.putAll_spec (joined block0 block1 block2 (dtable char)) fits
  rw [decodeLoop_complete symbol, ← middleText]
  rw [joined] at written
  simp only [decodeInto, if_neg counted, stored, if_pos four, cells, written]
  have behind : middle.text.length = pos.text.length + 3 := by
    rw [middleText, List.length_append]
    rfl
  generalize (if char = 61 then pad + 1 else pad) = padded
  rcases padded with - | - | - | padded
  · exact later full.rewind middle rfl fullRoom middleText middleRoom
  · exact ofWriter_back_gives (by omega)
  · exact ofWriter_back_gives (by omega)
  · simp [afterGroup, CodecResult.Gives]

/-- In its buffers, the decoder gives what it gives on lists, whatever the buffers held before. -/
theorem decodeInto_gives (blockText : block.text = collected) (blockRoom : block.room = 4)
    (more : collected.length < 4)
    (fits : pos.text.length + (collected.length +
      src.countP (fun char => decide (dtable char ≠ 0x80))) / 4 * 3 ≤ pos.room) :
    (decodeInto src block pad pos).Gives (decodeLoop src collected pad pos.text) := by
  -- What is left of the text and the values collected so far pay for the room that is still needed.
  induction src generalizing collected pad block pos with
  | nil => exact buffer_gives pos
  | cons char src ih =>
    by_cases foreign : dtable char = 0x80
    · rw [countP_foreign foreign] at fits
      rw [decodeLoop_skip ((dtable_eq_iff char).mp foreign)]
      simp only [decodeInto, if_pos foreign]
      exact ih blockText blockRoom more fits
    · have symbol : IsSymbol char := by
        by_contra outside
        exact foreign ((dtable_eq_iff char).mpr outside)
      rw [countP_symbol foreign] at fits
      rcases Nat.lt_or_ge collected.length 3 with short | three
      · -- The value is stored in the block, which it does not fill.
        have free : block.text.length < block.room := by
          rw [blockText, blockRoom]
          exact more
        obtain ⟨next, stored, nextText, nextRoom⟩ := CellWriter.put_spec (dtable char) free
        rw [blockText] at nextText
        have length : next.text.length = collected.length + 1 := by
          rw [nextText, List.length_append]
          rfl
        have below : next.pos ≠ 4 := by
          rw [← CellWriter.text_length]
          omega
        rw [decodeLoop_append symbol short, ← nextText]
        simp only [decodeInto, if_neg foreign, stored, if_neg below]
        apply ih rfl (nextRoom.trans blockRoom) (by omega)
        rw [length, Nat.add_right_comm, Nat.add_assoc]
        exact fits
      · -- The value fills the block, and a third of what was counted is used up.
        obtain ⟨block0, block1, block2, rfl⟩ : ∃ block0 block1 block2, collected =
            [block0, block1, block2] := List.length_eq_three.mp (by omega)
        rw [List.length_cons, List.length_cons, List.length_cons, List.length_nil] at fits
        apply decodeInto_group symbol blockText blockRoom (by omega)
        intro next middle nextText nextRoom middleText middleRoom
        apply ih nextText nextRoom (by decide)
        rw [middleText, middleRoom, List.length_append, List.length_nil]
        show pos.text.length + 3 + _ ≤ _
        omega

variable {malloc : (size : Nat) → Option (Cells size)}

/-- `base64_decode` stays in its two buffers, and gives what it gives on lists. -/
theorem base64DecodeInto_gives (block : Cells 4) (src : Bytes) (len : Nat)
    (given : malloc (decodedRoom ((src.take len).countP fun char => dtable char ≠ 0x80)) ≠ none) :
    (base64DecodeInto malloc block src len).Gives (base64Decode src len) := by
  -- The first pass counts the symbols, and the room is three bytes for each four of them.
  rw [base64DecodeInto, base64Decode]
  generalize src.take len = src at given
  obtain ⟨allocated, allocation⟩ := Option.ne_none_iff_exists'.mp given
  by_cases rejected : src.countP (fun char => decide (dtable char ≠ 0x80)) = 0 ∨
      src.countP (fun char => decide (dtable char ≠ 0x80)) % 4 ≠ 0
  · simp only [if_pos rejected]
    exact rfl
  · simp only [if_neg rejected, allocation]
    have fits : (CellWriter.fresh allocated.val).text.length + (([] : Bytes).length +
        src.countP (fun char => decide (dtable char ≠ 0x80))) / 4 * 3 ≤
          (CellWriter.fresh allocated.val).room := by
      rw [CellWriter.fresh_room, allocated.property, CellWriter.fresh_text, List.length_nil,
        decodedRoom]
      omega
    exact decodeInto_gives CellWriter.fresh_text block.property (by simp) fits

end Decoder

/-- Without a buffer, the decoder gives NULL. -/
theorem base64DecodeInto_refused {malloc : (size : Nat) → Option (Cells size)} (block : Cells 4)
    (src : Bytes) (len : Nat)
    (refused :
      malloc (decodedRoom ((src.take len).countP fun char => dtable char ≠ 0x80)) = none) :
    base64DecodeInto malloc block src len = .null := by
  rw [base64DecodeInto]
  simp only [refused, ite_self]

/--
Whatever its buffers held before, the decoder stays in them and gives the decoded bytes of every
decodable text, and NULL for every other one, as without a buffer.
-/
theorem base64DecodeInto_exact (malloc : (size : Nat) → Option (Cells size)) (block : Cells 4)
    (payload : CString) :
    (base64DecodeInto malloc block payload.bytes payload.strlen = .null ↔
        ¬ Decodable payload.text ∨ malloc (decodedRoom (symbols payload.text).length) = none) ∧
      (Decodable payload.text → malloc (decodedRoom (symbols payload.text).length) ≠ none →
        ∃ cells data,
          base64DecodeInto malloc block payload.bytes payload.strlen = .buffer cells data.length ∧
          base64Decode payload.bytes payload.strlen = some data ∧
          cells.take data.length = data) := by
  have accepts := base64Decode_isSome_iff payload
  have counted : (payload.bytes.take payload.strlen).countP
      (fun char => decide (dtable char ≠ 0x80)) = (symbols payload.text).length := by
    rw [payload.take_strlen]
    exact countP_symbols payload.text
  by_cases refused : malloc (decodedRoom (symbols payload.text).length) = none
  · have null := base64DecodeInto_refused block payload.bytes payload.strlen (counted ▸ refused)
    exact ⟨iff_of_true null (.inr refused), fun _ given => absurd refused given⟩
  · have gives := base64DecodeInto_gives block payload.bytes payload.strlen (counted ▸ refused)
    -- Which of the three results it is decides what the decoder on lists must have given.
    generalize base64DecodeInto malloc block payload.bytes payload.strlen = result at gives
    cases result with
    | null =>
      have undecoded : base64Decode payload.bytes payload.strlen = none := gives
      rw [undecoded] at accepts
      have broken : ¬ Decodable payload.text := fun decodable =>
        absurd (accepts.mpr decodable) Bool.false_ne_true
      exact ⟨iff_of_true rfl (.inl broken), fun decodable => absurd decodable broken⟩
    | outside => exact gives.elim
    | buffer cells outLen =>
      obtain ⟨within, decoded⟩ := gives
      rw [decoded] at accepts
      have decodable : Decodable payload.text := accepts.mp rfl
      have length : (cells.take outLen).length = outLen := by
        rw [List.length_take, Nat.min_eq_left within]
      refine ⟨iff_of_false (fun same => by cases same) ?_, fun _ _ => ?_⟩
      · exact not_or.mpr ⟨not_not.mpr decodable, refused⟩
      · exact ⟨cells, cells.take outLen, by rw [length], decoded, by rw [length]⟩

/--
What was encoded is decoded to the same bytes, or to NULL if there are none, and its length is that
of the encoded text as a C string, as long as both functions are given their buffers.
-/
theorem base64Decode_base64Encode (malloc mallocDecoded : (size : Nat) → Option (Cells size))
    (block : Cells 4) (len : UInt64) (src : Cells len.toNat) (small : len.toNat < 2 ^ 62)
    (given : malloc (encodedRoom len).toNat ≠ none)
    (givenDecoded : src.val ≠ [] →
      mallocDecoded (decodedRoom ((len.toNat + 2) / 3 * 4)) ≠ none) :
    ∃ cells outLen, base64Encode malloc len src = .buffer cells outLen ∧
      (CString.untilNul cells).length = outLen ∧
      (base64DecodeInto mallocDecoded block cells outLen).Gives
        (if src.val = [] then none else some src.val) := by
  obtain ⟨lines, cells, wrapped, encoded, ended, -⟩ := base64Encode_lines src small given
  have text := untilNul_lines src wrapped ended
  refine ⟨cells, lines.length, encoded, by rw [text], ?_⟩
  -- The decoder sees the lines only, and passes over the line feeds between the groups.
  have front : cells.take lines.length = lines := by
    have shorter := congrArg (List.take lines.length) ended
    rw [List.take_take, Nat.min_eq_left (Nat.le_succ _), List.take_left] at shorter
    exact shorter
  have seen : base64Decode cells lines.length = base64Decode lines lines.length := by
    rw [base64Decode, base64Decode, front, List.take_length]
  have foreign : ∀ char, LineFeed char → ¬ IsSymbol char := by
    intro char feed
    rw [show char = 10 from feed]
    decide
  have inserted := (inserted_of_wrapped wrapped).mono foreign
  have counted := countP_inserted inserted
  rw [src.property, ← front] at counted
  by_cases empty : src.val = []
  · rw [if_pos empty]
    by_cases refused : mallocDecoded (decodedRoom ((len.toNat + 2) / 3 * 4)) = none
    · rw [base64DecodeInto_refused block cells lines.length (counted ▸ refused)]
      rfl
    · have gives := base64DecodeInto_gives block cells lines.length (counted ▸ refused)
      -- An empty text has no lines, and a count of zero symbols is rejected.
      rw [empty, encode] at wrapped
      have none := wrapped.unique (by decide) .nil
      rw [seen, none] at gives
      rw [none]
      exact gives
  · have gives := base64DecodeInto_gives block cells lines.length (counted ▸ givenDecoded empty)
    rw [seen, base64Decode_inserted empty inserted] at gives
    rw [if_neg empty]
    exact gives

/-- The three bytes of one group survive, whatever the buffers held before. -/
theorem threeBytes_survive :
    ∃ cells outLen, base64Encode (fun size => some ⟨List.replicate size 7, List.length_replicate⟩)
        3 ⟨[102, 111, 111], rfl⟩ = .buffer cells outLen ∧
      (CString.untilNul cells).length = outLen ∧
      (base64DecodeInto (fun size => some ⟨List.replicate size 8, List.length_replicate⟩)
        ⟨[1, 2, 3, 4], rfl⟩ cells outLen).Gives
        (if ([102, 111, 111] : Bytes) = [] then none else some [102, 111, 111]) :=
  base64Decode_base64Encode (fun size => some ⟨List.replicate size 7, List.length_replicate⟩)
    (fun size => some ⟨List.replicate size 8, List.length_replicate⟩)
    ⟨[1, 2, 3, 4], rfl⟩ 3 ⟨[102, 111, 111], rfl⟩ (by decide) (by simp) (by simp)

end Ichabod
