import Mathlib.Logic.Function.Basic
import Ichabod.Lib.Interleaving

/-! Ledgers of blocks that are created, used and released, with one life for each block. -/

namespace Ledger

universe u v

/-- What happens to one block. -/
inductive Entry (Block : Type u) where
  | create (block : Block)
  | use (block : Block)
  | release (block : Block)
deriving DecidableEq

/-- How far a block has come in its life. -/
inductive Status where
  | fresh
  | live
  | released
deriving DecidableEq

section Posting

variable {Block : Type u} [DecidableEq Block]

/-- Posts one entry, and fails if the block has not come that far or is past it. -/
def post (book : Block → Status) : Entry Block → Option (Block → Status)
  | .create block =>
    if book block = .fresh then some (Function.update book block .live) else none
  | .use block => if book block = .live then some book else none
  | .release block =>
    if book block = .live then some (Function.update book block .released) else none

/-- The book in which nothing has been created. -/
def blank : Block → Status :=
  fun _ => .fresh

/-- Every entry of the log finds its block in the right state, the first one in a blank book. -/
def Proper (log : List (Entry Block)) : Prop :=
  ∃ book, Interleaving.run post blank log = some book

/-- Every block that is created is released exactly once. -/
def Settled (log : List (Entry Block)) : Prop :=
  ∀ block, .create block ∈ log → log.count (.release block) = 1

variable {book final : Block → Status} {block : Block} {log : List (Entry Block)}

/-- A fresh block can be created. -/
theorem run_create (fresh : book block = .fresh) :
    Interleaving.run post book (.create block :: log) =
      Interleaving.run post (Function.update book block .live) log := by
  rw [Interleaving.run, post, if_pos fresh, Option.bind_some]

/-- A live block can be used. -/
theorem run_use (live : book block = .live) :
    Interleaving.run post book (.use block :: log) = Interleaving.run post book log := by
  rw [Interleaving.run, post, if_pos live, Option.bind_some]

/-- A live block can be released. -/
theorem run_release (live : book block = .live) :
    Interleaving.run post book (.release block :: log) =
      Interleaving.run post (Function.update book block .released) log := by
  rw [Interleaving.run, post, if_pos live, Option.bind_some]

/-- Live blocks can be used as often as it takes. -/
theorem run_uses {blocks : List Block} (live : ∀ block ∈ blocks, book block = .live) :
    Interleaving.run post book (blocks.map Entry.use ++ log) = Interleaving.run post book log := by
  -- No use changes the book.
  induction blocks with
  | nil => rfl
  | cons block rest ih =>
    rw [List.map_cons, List.cons_append, run_use (live block List.mem_cons_self)]
    exact ih fun other member => live other (List.mem_cons_of_mem block member)

/-- Different live blocks can be released one after the other. -/
theorem run_releases {blocks : List Block} (distinct : blocks.Nodup)
    (live : ∀ block ∈ blocks, book block = .live) :
    ∃ released : Block → Status,
      Interleaving.run post book (blocks.map Entry.release ++ log) =
        Interleaving.run post released log ∧
      ∀ block, released block = if block ∈ blocks then .released else book block := by
  -- Each release leaves the blocks behind it live.
  induction blocks generalizing book with
  | nil => exact ⟨book, rfl, fun block => by simp⟩
  | cons block rest ih =>
    obtain ⟨apart, distinct⟩ := List.nodup_cons.mp distinct
    have still : ∀ other ∈ rest, Function.update book block .released other = .live := by
      intro other member
      have different : other ≠ block := fun same => apart (same ▸ member)
      rw [Function.update_of_ne different]
      exact live other (List.mem_cons_of_mem block member)
    obtain ⟨released, ran, status⟩ := ih distinct still
    refine ⟨released, ?_, fun other => ?_⟩
    · rw [List.map_cons, List.cons_append, run_release (live block List.mem_cons_self), ran]
    · rw [status other]
      by_cases same : other = block
      · simp [same, apart]
      · simp [same]

/-- How often a block has been created that has come that far. -/
def Status.creations : Status → Nat
  | .fresh => 0
  | .live | .released => 1

/-- How often a block has been released that has come that far. -/
def Status.releases : Status → Nat
  | .fresh | .live => 0
  | .released => 1

/-- One entry adds itself to what its block has gone through, and leaves the other blocks alone. -/
theorem post_counts {next : Block → Status} {entry : Entry Block}
    (posted : post book entry = some next) (block : Block) :
    [entry].count (.create block) + (book block).creations = (next block).creations ∧
      [entry].count (.release block) + (book block).releases = (next block).releases := by
  -- Creating leads from fresh to live, and releasing from live to released.
  cases entry with
  | create other =>
    rw [post, Option.ite_none_right_eq_some, Option.some.injEq] at posted
    obtain ⟨fresh, rfl⟩ := posted
    by_cases same : block = other
    · subst same
      simp [fresh, Status.creations, Status.releases]
    · simp [Function.update_of_ne same, Ne.symm same]
  | use other =>
    rw [post, Option.ite_none_right_eq_some, Option.some.injEq] at posted
    obtain ⟨_, rfl⟩ := posted
    simp
  | release other =>
    rw [post, Option.ite_none_right_eq_some, Option.some.injEq] at posted
    obtain ⟨live, rfl⟩ := posted
    by_cases same : block = other
    · subst same
      simp [live, Status.creations, Status.releases]
    · simp [Function.update_of_ne same, Ne.symm same]

/-- A whole log adds up to what its blocks have gone through. -/
theorem run_counts (ran : Interleaving.run post book log = some final) (block : Block) :
    log.count (.create block) + (book block).creations = (final block).creations ∧
      log.count (.release block) + (book block).releases = (final block).releases := by
  -- The sums telescope along the log.
  induction log generalizing book with
  | nil =>
    obtain rfl : book = final := Option.some.inj ran
    simp
  | cons entry rest ih =>
    obtain ⟨next, posted, ran⟩ := Interleaving.run_cons_iff.mp ran
    obtain ⟨created, released⟩ := post_counts posted block
    obtain ⟨laterCreated, laterReleased⟩ := ih ran
    rw [← List.singleton_append, List.count_append, List.count_append]
    constructor <;> omega

/-- In a proper log, no block is created or released twice. -/
theorem Proper.counts_le (proper : Proper log) (block : Block) :
    log.count (.create block) ≤ 1 ∧ log.count (.release block) ≤ 1 := by
  obtain ⟨book, ran⟩ := proper
  obtain ⟨created, released⟩ := run_counts ran block
  -- No status stands for more than one creation or more than one release.
  have bounds : (book block).creations ≤ 1 ∧ (book block).releases ≤ 1 := by
    cases book block <;> decide
  omega

/-- A log is settled if and only if it leaves no block live. -/
theorem settled_iff (ran : Interleaving.run post blank log = some final) :
    Settled log ↔ ∀ block, final block ≠ .live := by
  constructor
  · intro settled block live
    obtain ⟨created, released⟩ := run_counts ran block
    rw [live] at created released
    simp only [blank, Status.creations, Status.releases] at created released
    have once := settled block (List.count_pos_iff.mp (by omega))
    omega
  · intro dead block created
    obtain ⟨everCreated, released⟩ := run_counts ran block
    have positive := List.count_pos_iff.mpr created
    have stands := dead block
    cases status : final block with
    | fresh =>
      simp only [status, blank, Status.creations] at everCreated
      omega
    | live => exact absurd status stands
    | released =>
      simp only [status, blank, Status.releases] at released
      omega

end Posting

section Pages

variable {Key : Type u} {Block : Type v} [DecidableEq Key]

/-- The entries about the blocks of one owner. -/
def page (key : Key) (log : List (Key × Entry Block)) : List (Entry Block) :=
  log.filterMap fun (owner, entry) => if owner = key then some entry else none

/-- The entries that one owner makes. -/
def entriesOf (key : Key) (entries : List (Entry Block)) : List (Key × Entry Block) :=
  entries.map fun entry => (key, entry)

/-- A page grows with the log. -/
theorem page_append (key : Key) (log later : List (Key × Entry Block)) :
    page key (log ++ later) = page key log ++ page key later :=
  List.filterMap_append

/-- An owner's entries go to its own page. -/
theorem page_own (key : Key) (entries : List (Entry Block)) :
    page key (entriesOf key entries) = entries := by
  induction entries with
  | nil => rfl
  | cons entry rest ih =>
    have first : page key (entriesOf key (entry :: rest)) =
        entry :: page key (entriesOf key rest) :=
      List.filterMap_cons_some (if_pos rfl)
    rw [first, ih]

/-- An owner's entries go to no other page. -/
theorem page_other {key other : Key} (different : other ≠ key) (entries : List (Entry Block)) :
    page key (entriesOf other entries) = [] := by
  induction entries with
  | nil => rfl
  | cons entry rest ih =>
    have first : page key (entriesOf other (entry :: rest)) = page key (entriesOf other rest) :=
      List.filterMap_cons_none (if_neg different)
    rw [first, ih]

end Pages

end Ledger
