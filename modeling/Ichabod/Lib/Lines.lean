import Mathlib.Data.List.Basic

/-! Texts cut into lines of one width, each of them ended by the same terminator. -/

/-- The second text is the first one, cut into lines of the given width that are all ended alike. -/
inductive Wrapped {α : Type} (width : Nat) (ending : List α) : List α → List α → Prop where
  /-- A text without characters has no lines. -/
  | nil : Wrapped width ending [] []
  /-- The last line may be shorter, but it is not empty. -/
  | last {line : List α} (nonempty : line ≠ []) (short : line.length < width) :
      Wrapped width ending line (line ++ ending)
  /-- Every line before it is full. -/
  | full {line text lines : List α} (exact : line.length = width)
      (rest : Wrapped width ending text lines) :
      Wrapped width ending (line ++ text) (line ++ ending ++ lines)

namespace Wrapped

variable {α : Type} {width : Nat} {ending text lines other : List α}

/-- A text of one line, whether or not it fills that line. -/
theorem single (nonempty : text ≠ []) (fits : text.length ≤ width) :
    Wrapped width ending text (text ++ ending) := by
  -- A line that is full is the only one, because nothing follows it.
  rcases Nat.lt_or_eq_of_le fits with short | exact
  · exact .last nonempty short
  · have alone : Wrapped width ending (text ++ []) (text ++ ending ++ []) := .full exact .nil
    rw [List.append_nil, List.append_nil] at alone
    exact alone

/-- The number of lines is the number of characters over the width, rounded up. -/
theorem length_eq (wrapped : Wrapped width ending text lines) (positive : 0 < width) :
    lines.length = text.length + (text.length + width - 1) / width * ending.length := by
  -- A full line adds its width to the characters, and one to the rounded quotient.
  induction wrapped with
  | nil =>
    have none : (width - 1) / width = 0 := Nat.div_eq_of_lt (by omega)
    simp [none]
  | @last line nonempty short =>
    have some : 0 < line.length := List.length_pos_iff.mpr nonempty
    have one : (line.length + width - 1) / width = 1 := by
      rw [Nat.div_eq_iff positive]
      omega
    simp [one]
  | @full line text lines exact rest ih =>
    have more : (width + text.length + width - 1) / width =
        (text.length + width - 1) / width + 1 := by
      rw [← Nat.add_div_right _ positive]
      congr 1
      omega
    simp only [List.length_append, ih, exact, more, Nat.add_mul, Nat.one_mul]
    omega

/-- A text can be cut in one way only. -/
theorem unique (wrapped : Wrapped width ending text lines) (positive : 0 < width)
    (again : Wrapped width ending text other) : lines = other := by
  -- The length of the text decides which of the three cases applies, and where the first line ends.
  induction wrapped generalizing other with
  | nil =>
    generalize same : ([] : List α) = empty at again
    cases again with
    | nil => rfl
    | last nonempty short => exact absurd same.symm nonempty
    | full exact rest =>
      have none := congrArg List.length same
      simp only [List.length_nil, List.length_append] at none
      omega
  | @last line nonempty short =>
    cases again with
    | nil => exact absurd rfl nonempty
    | last _ _ => rfl
    | full exact rest =>
      simp only [List.length_append] at short
      omega
  | @full line text lines exact rest ih =>
    generalize same : line ++ text = joined at again
    cases again with
    | nil =>
      have none := congrArg List.length same
      simp only [List.length_nil, List.length_append] at none
      omega
    | last nonempty short =>
      have longer := congrArg List.length same
      simp only [List.length_append] at longer
      omega
    | full exact' rest' =>
      obtain ⟨sameLine, sameText⟩ := List.append_inj same (exact.trans exact'.symm)
      subst sameLine sameText
      rw [ih rest']

end Wrapped
