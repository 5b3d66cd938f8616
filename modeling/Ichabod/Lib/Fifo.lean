import Mathlib.Data.List.Basic
import Mathlib.Data.List.Perm.Basic

/-! Items that leave a queue in order, wait in any number of hands, and are done in some order. -/

namespace Fifo

universe u

variable {Item : Type u}

/-- Equal fronts split the same list at the same place. -/
theorem prefix_split {done front later : List Item} (within : done <+: front ++ later)
    (short : done.length ≤ front.length) : ∃ rest, front = done ++ rest := by
  -- Both lists are prefixes of the same list, and the shorter one is a prefix of the longer one.
  obtain ⟨rest, split⟩ :=
    List.prefix_of_prefix_length_le within (List.prefix_append front later) short
  exact ⟨rest, split.symm⟩

/-- The first of a list of increasing keys is its only element with a least key. -/
theorem head_iff_least {key : Item → Nat} {items : List Item}
    (increasing : items.Pairwise fun a b => key a < key b) {item : Item} (member : item ∈ items) :
    (∃ rest, items = item :: rest) ↔ ∀ other ∈ items, key item ≤ key other := by
  -- Keys grow along the list, so the head is below everything behind it.
  cases items with
  | nil => simp at member
  | cons head rest =>
    obtain ⟨below, _⟩ := List.pairwise_cons.mp increasing
    constructor
    · rintro ⟨_, same⟩ other inside
      obtain ⟨rfl, rfl⟩ := List.cons.inj same
      rcases List.mem_cons.mp inside with rfl | behind
      · exact Nat.le_refl _
      · exact Nat.le_of_lt (below other behind)
    · intro least
      rcases List.mem_cons.mp member with rfl | behind
      · exact ⟨rest, rfl⟩
      · -- An element behind the head has a greater key than the head.
        have smaller := below item behind
        have atMost := least head (by simp)
        omega

/-- What is in hand is, up to order, the item in one of the hands and what the others hold. -/
theorem perm_cons_eraseIdx {held : List Item} {hand : Nat} {item : Item}
    (there : held[hand]? = some item) : held.Perm (item :: held.eraseIdx hand) := by
  obtain ⟨inside, rfl⟩ := List.getElem?_eq_some_iff.mp there
  exact (List.getElem_cons_eraseIdx_perm inside).symm

/--
An item in hand is the next one due exactly if no other item in hand was taken earlier.

The items done so far are the first ones of the queue, and those taken are the ones done or in hand.
-/
theorem next_due_iff {key : Item → Nat} {done held taken later : List Item}
    (increasing : taken.Pairwise fun a b => key a < key b) (parts : (done ++ held).Perm taken)
    (inOrder : done <+: taken ++ later) {item : Item} (member : item ∈ held) :
    done ++ [item] <+: taken ++ later ↔ ∀ other ∈ held, key item ≤ key other := by
  -- What is in hand is, up to order, what follows the items done among those taken.
  have count : done.length + held.length = taken.length := by
    simpa using parts.length_eq
  obtain ⟨rest, split⟩ := prefix_split inOrder (by omega)
  subst split
  have inHand : held.Perm rest := (List.perm_append_left_iff done).mp parts
  have due : item ∈ rest := inHand.mem_iff.mp member
  have sorted := (List.pairwise_append.mp increasing).2.1
  have least : (∀ other ∈ held, key item ≤ key other) ↔ ∀ other ∈ rest, key item ≤ key other := by
    constructor
    · intro all other inside
      exact all other (inHand.mem_iff.mpr inside)
    · intro all other inside
      exact all other (inHand.mem_iff.mp inside)
  rw [least, ← head_iff_least sorted due, List.append_assoc, List.prefix_append_right_inj]
  constructor
  · intro within
    obtain ⟨tail, starts⟩ := within
    cases rest with
    | nil => simp at due
    | cons head behind =>
      have same : item = head := by simpa using congrArg List.head? starts
      exact ⟨behind, by rw [same]⟩
  · intro least
    obtain ⟨behind, same⟩ := least
    exact ⟨behind ++ later, by simp [same]⟩

end Fifo
