import Mathlib.Data.List.Basic

/-! A pointer that writes a fixed number of cells from front to back, and never outside them. -/

/-- A block of cells, with the place of the next one to be written. -/
structure CellWriter (α : Type) where
  /-- All cells of the block, whatever they hold. -/
  cells : List α
  /-- The place of the pointer. -/
  pos : Nat
  /-- The pointer may stand behind the last cell, but no further. -/
  inside : pos ≤ cells.length

namespace CellWriter

variable {α : Type}

/-- A new block with unspecified contents, and the pointer at its start. -/
def fresh (cells : List α) : CellWriter α :=
  ⟨cells, 0, Nat.zero_le _⟩

/-- The number of cells. -/
def room (writer : CellWriter α) : Nat :=
  writer.cells.length

/-- What stands in front of the pointer. -/
def text (writer : CellWriter α) : List α :=
  writer.cells.take writer.pos

/-- `*pos++ = cell`, where `none` is an access outside the block. -/
def put (writer : CellWriter α) (cell : α) : Option (CellWriter α) :=
  if free : writer.pos < writer.cells.length then
    some ⟨writer.cells.set writer.pos cell, writer.pos + 1, by rw [List.length_set]; exact free⟩
  else none

/-- Several cells in a row. -/
def putAll (writer : CellWriter α) : List α → Option (CellWriter α)
  | [] => some writer
  | cell :: rest => (writer.put cell).bind fun writer => writer.putAll rest

/-- `pos -= count`, where `none` is a pointer in front of the block. -/
def back (writer : CellWriter α) (count : Nat) : Option (CellWriter α) :=
  if count ≤ writer.pos then
    some ⟨writer.cells, writer.pos - count, Nat.le_trans (Nat.sub_le _ _) writer.inside⟩
  else none

/-- The pointer at the start again, with the cells as they are. -/
def rewind (writer : CellWriter α) : CellWriter α :=
  ⟨writer.cells, 0, Nat.zero_le _⟩

variable {writer : CellWriter α} {cells : List α} {count : Nat}

@[simp] theorem fresh_text : (fresh cells).text = [] :=
  rfl

@[simp] theorem fresh_room : (fresh cells).room = cells.length :=
  rfl

@[simp] theorem rewind_text : writer.rewind.text = [] :=
  rfl

@[simp] theorem rewind_room : writer.rewind.room = writer.room :=
  rfl

/-- The pointer stands behind the text. -/
theorem text_length : writer.text.length = writer.pos := by
  rw [text, List.length_take, Nat.min_eq_left writer.inside]

/-- A cell is appended wherever there is one left. -/
theorem put_spec (cell : α) (free : writer.text.length < writer.room) :
    ∃ next, writer.put cell = some next ∧ next.text = writer.text ++ [cell] ∧
      next.room = writer.room := by
  -- The cells in front of the pointer are kept, and the one that it stands at is replaced.
  rw [text_length] at free
  refine ⟨_, dif_pos free, ?_, List.length_set⟩
  have bound : writer.pos < (writer.cells.set writer.pos cell).length := by
    rw [List.length_set]
    exact free
  show (writer.cells.set writer.pos cell).take (writer.pos + 1) = writer.cells.take writer.pos ++ _
  rw [List.take_succ_eq_append_getElem bound, List.getElem_set_self,
    List.take_set_of_le (Nat.le_refl _)]

/-- Cells are appended wherever there are enough of them left. -/
theorem putAll_spec (added : List α) (fits : writer.text.length + added.length ≤ writer.room) :
    ∃ next, writer.putAll added = some next ∧ next.text = writer.text ++ added ∧
      next.room = writer.room := by
  induction added generalizing writer with
  | nil => exact ⟨writer, rfl, (List.append_nil _).symm, rfl⟩
  | cons cell rest ih =>
    rw [List.length_cons] at fits
    obtain ⟨middle, put, middleText, middleRoom⟩ :=
      put_spec cell (show writer.text.length < writer.room by omega)
    have fits' : middle.text.length + rest.length ≤ middle.room := by
      rw [middleText, middleRoom, List.length_append, List.length_singleton]
      omega
    obtain ⟨next, putRest, nextText, nextRoom⟩ := ih fits'
    refine ⟨next, ?_, ?_, nextRoom.trans middleRoom⟩
    · rw [putAll, put]
      exact putRest
    · rw [nextText, middleText, List.append_assoc]
      rfl

/-- A step that appends the given cells to every block with room for them. -/
def Appends (added : List α) (step : CellWriter α → Option (CellWriter α)) : Prop :=
  ∀ writer : CellWriter α, writer.text.length + added.length ≤ writer.room →
    ∃ next, step writer = some next ∧ next.text = writer.text ++ added ∧ next.room = writer.room

/-- `*pos++` appends one cell. -/
theorem appends_put (cell : α) : Appends [cell] fun writer => writer.put cell := by
  intro writer fits
  exact put_spec cell fits

/-- Several of them append several cells. -/
theorem appends_putAll (added : List α) : Appends added fun writer => writer.putAll added := by
  intro writer fits
  exact putAll_spec added fits

/-- Nothing is appended where nothing is done. -/
theorem appends_nothing : Appends ([] : List α) some := by
  intro writer fits
  exact ⟨writer, rfl, (List.append_nil _).symm, rfl⟩

/-- Two steps in a row append what both append. -/
theorem Appends.bind {first second : List α} {step next : CellWriter α → Option (CellWriter α)}
    (front : Appends first step) (back : Appends second next) :
    Appends (first ++ second) fun writer => (step writer).bind next := by
  intro writer fits
  rw [List.length_append] at fits
  obtain ⟨middle, stepped, middleText, middleRoom⟩ := front writer (by omega)
  have fits' : middle.text.length + second.length ≤ middle.room := by
    rw [middleText, middleRoom, List.length_append]
    omega
  obtain ⟨last, continued, lastText, lastRoom⟩ := back middle fits'
  refine ⟨last, ?_, ?_, lastRoom.trans middleRoom⟩
  · show (step writer).bind next = some last
    rw [stepped]
    exact continued
  · rw [lastText, middleText, List.append_assoc]

/-- Going back removes that many cells from the end of the text. -/
theorem back_spec (enough : count ≤ writer.text.length) :
    ∃ next, writer.back count = some next ∧
      next.text = writer.text.take (writer.text.length - count) ∧ next.room = writer.room := by
  rw [text_length] at enough
  refine ⟨_, if_pos enough, ?_, rfl⟩
  show writer.cells.take (writer.pos - count) = _
  rw [text_length, text, List.take_take, Nat.min_eq_left (Nat.sub_le _ _)]

/-- A text as long as the block is the whole of it. -/
theorem cells_eq_text (filled : writer.text.length = writer.room) :
    writer.cells = writer.text := by
  rw [text_length, room] at filled
  rw [text, filled, List.take_length]

end CellWriter
