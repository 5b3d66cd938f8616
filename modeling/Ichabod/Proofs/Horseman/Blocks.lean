import Ichabod.Horseman.Ledger
import Ichabod.Proofs.Horseman.Stream

/-! How receiving and parsing a message create its blocks, and hand them over to a job. -/

namespace Ichabod

open Interleaving Ledger

/-- The blocks of a chain whose first node belongs to the part at that place. -/
def blocks : Nat → Envelope → List Block
  | _, [] => []
  | place, szData :: next =>
    (if szData.isSome then [.text place] else []) ++ .node place :: blocks (place + 1) next

section Chain

variable {place : Nat} {env : Envelope}

/-- A block of a chain belongs to its first node or to one behind it. -/
theorem mem_blocks_cons {block : Block} {szData : Option CString} :
    block ∈ blocks place (szData :: env) ↔
      (szData.isSome = true ∧ block = .text place) ∨ block = .node place ∨
        block ∈ blocks (place + 1) env := by
  rw [blocks, List.mem_append, List.mem_cons]
  by_cases present : szData.isSome = true
  · simp [present]
  · simp [present]

/-- All blocks of a chain belong to one of its parts. -/
theorem bounds_of_mem {part : Nat}
    (member : .node part ∈ blocks place env ∨ .text part ∈ blocks place env) :
    place ≤ part ∧ part < place + env.length := by
  -- The places grow by one from node to node.
  induction env generalizing place with
  | nil => simp [blocks] at member
  | cons szData next ih =>
    rw [List.length_cons]
    by_cases first : part = place
    · omega
    · have later : .node part ∈ blocks (place + 1) next ∨ .text part ∈ blocks (place + 1) next := by
        simpa [mem_blocks_cons, first] using member
      have bounds := ih later
      omega

/-- A chain has no blocks of parts outside of it. -/
theorem not_mem_blocks {part : Nat} (outside : part < place ∨ place + env.length ≤ part) :
    .node part ∉ blocks place env ∧ .text part ∉ blocks place env := by
  constructor
  · intro member
    have bounds := bounds_of_mem (.inl member)
    omega
  · intro member
    have bounds := bounds_of_mem (.inr member)
    omega

/-- A chain does not hold the blocks that a parser allocates. -/
theorem not_mem_blocks_parsed : .dispatch ∉ blocks place env ∧ .record ∉ blocks place env := by
  induction env generalizing place with
  | nil => simp [blocks]
  | cons szData next ih => simp [mem_blocks_cons, ih]

/-- Giving back a chain releases exactly its blocks. -/
theorem run_envelopeFree {book : Block → Status}
    (live : ∀ block ∈ blocks place env, book block = .live) :
    run post book (envelopeFree place env) =
      some fun block => if block ∈ blocks place env then .released else book block := by
  -- Each turn releases the blocks of one node, none of which occurs again.
  induction env generalizing place book with
  | nil => simp [envelopeFree, blocks, run]
  | cons szData next ih =>
    have outside : .node place ∉ blocks (place + 1) next ∧ .text place ∉ blocks (place + 1) next :=
      not_mem_blocks (.inl (Nat.lt_succ_self place))
    obtain ⟨noNode, noText⟩ := outside
    have node : book (.node place) = .live := live _ (by simp [mem_blocks_cons])
    have others : ∀ block ∈ blocks (place + 1) next, book block = .live :=
      fun block member => live block (by simp [mem_blocks_cons, member])
    have away : ∀ block ∈ blocks (place + 1) next, block ≠ .node place ∧ block ≠ .text place := by
      intro block member
      exact ⟨fun same => noNode (same ▸ member), fun same => noText (same ▸ member)⟩
    cases szData with
    | none =>
      simp only [envelopeFree, Option.isSome_none, Bool.false_eq_true, if_false,
        List.singleton_append]
      rw [run_use node, run_release node, ih fun block member => by
        rw [Function.update_of_ne (away block member).1]
        exact others block member]
      congr 1
      funext block
      simp only [mem_blocks_cons, Function.update_apply]
      grind
    | some string =>
      have text : book (.text place) = .live := live _ (by simp [mem_blocks_cons])
      simp only [envelopeFree, Option.isSome_some, if_true, List.cons_append, List.nil_append]
      rw [run_use node, run_release text,
        run_release (by rw [Function.update_of_ne (by simp)]; exact node),
        ih fun block member => by
          rw [Function.update_of_ne (away block member).1,
            Function.update_of_ne (away block member).2]
          exact others block member]
      congr 1
      funext block
      simp only [mem_blocks_cons, Function.update_apply]
      grind

/-- A longer chain has the blocks of its two parts. -/
theorem blocks_append (later : Envelope) :
    blocks place (env ++ later) = blocks place env ++ blocks (place + env.length) later := by
  induction env generalizing place with
  | nil => rfl
  | cons szData next ih =>
    rw [List.cons_append, blocks, ih, blocks, List.append_assoc, List.length_cons,
      Nat.add_right_comm, ← Nat.add_assoc]
    rfl

/-- The front of a chain has blocks of the chain only. -/
theorem mem_blocks_take {count : Nat} {block : Block}
    (member : block ∈ blocks place (env.take count)) : block ∈ blocks place env := by
  rw [← List.take_append_drop count env, blocks_append]
  exact List.mem_append_left _ member

/-- Every part has its node. -/
theorem node_mem_blocks {part : Nat} (inside : part < env.length) :
    .node (place + part) ∈ blocks place env := by
  induction env generalizing place part with
  | nil => simp at inside
  | cons szData next ih =>
    rw [mem_blocks_cons]
    cases part with
    | zero => exact .inr (.inl rfl)
    | succ part =>
      have later : .node (place + 1 + part) ∈ blocks (place + 1) next :=
        ih (Nat.lt_of_succ_lt_succ inside)
      rw [Nat.add_assoc, Nat.add_comm 1 part] at later
      exact .inr (.inr later)

end Chain

/-- The book in which some of the blocks that were made are still held. -/
def bookOf (held made : List Block) (block : Block) : Status :=
  if block ∈ held then .live else if block ∈ made then .released else .fresh

/-- What is held is live. -/
theorem bookOf_held {held made : List Block} {block : Block} (member : block ∈ held) :
    bookOf held made block = .live :=
  if_pos member

/-- A chain that has been received: at least one part, and a string in every node. -/
def Received (env : Envelope) : Prop :=
  env ≠ [] ∧ ∀ szData ∈ env, szData.isSome = true

section Receive

variable {env msg : Envelope} {outcomes later : List RecvOutcome}

/-- One more string is hung on a chain, with a node of its own unless the root is empty. -/
theorem run_putEntries (shape : env = [none] ∨ Received env) (szMsg : CString) :
    run post (bookOf (blocks 0 env) (blocks 0 env)) (putEntries env) =
        some (bookOf (blocks 0 (env.put szMsg)) (blocks 0 (env.put szMsg))) ∧
      Received (env.put szMsg) := by
  rcases shape with rfl | ⟨nonempty, filled⟩
  · constructor
    · rw [putEntries, if_pos rfl, run_create (by simp [bookOf, blocks]),
        run_use (by simp [bookOf, blocks]), run]
      congr 1
      funext block
      simp only [bookOf, blocks, Envelope.put, Function.update_apply]
      grind
    · simp [Received, Envelope.put]
  · obtain ⟨front, last, rfl⟩ := (List.eq_nil_or_concat env).resolve_left nonempty
    rw [List.concat_eq_append] at *
    obtain ⟨string, rfl⟩ := Option.isSome_iff_exists.mp (filled last (by simp))
    have grown : Envelope.put (front ++ [some string]) szMsg =
        front ++ [some string] ++ [some szMsg] := by
      rw [put_append, List.append_assoc]
      rfl
    have notRoot : front ++ [some string] ≠ [none] := by
      intro root
      simpa using filled none (root ▸ List.mem_singleton_self none)
    rw [grown]
    generalize size : front ++ [some string] = env at *
    have outside : .node env.length ∉ blocks 0 env ∧ .text env.length ∉ blocks 0 env :=
      not_mem_blocks (.inr (by omega))
    obtain ⟨noNode, noText⟩ := outside
    have positive : 0 < env.length := List.length_pos_iff.mpr nonempty
    have lastNode : .node (env.length - 1) ∈ blocks 0 env := by
      have member : .node (0 + (env.length - 1)) ∈ blocks 0 env := node_mem_blocks (by omega)
      rwa [Nat.zero_add] at member
    constructor
    · rw [putEntries, if_neg notRoot, run_create (by simp [bookOf, noText]),
        run_use (by simp [bookOf, lastNode]),
        run_create (by simp [bookOf, noNode]), run_use (by simp), run]
      congr 1
      funext block
      simp only [bookOf, blocks_append, blocks, Function.update_apply]
      grind
    · refine ⟨by simp, fun szData member => ?_⟩
      rcases List.mem_append.mp member with earlier | new
      · exact filled szData earlier
      · rw [List.mem_singleton.mp new]
        rfl

/-- A received message holds the blocks of its chain, and no others have been made. -/
theorem run_receiveEntries (shape : env = [none] ∨ Received env)
    (received : receiveMessage env outcomes = some (some msg, later)) :
    run post (bookOf (blocks 0 env) (blocks 0 env)) (receiveEntries env outcomes) =
        some (bookOf (blocks 0 msg) (blocks 0 msg)) ∧ Received msg := by
  -- Each turn of the loop hangs one string on the chain.
  fun_induction receiveMessage env outcomes with
  | case1 env => simp at received
  | case2 env rest => simp at received
  | case3 env outcome rest again next more ih =>
    obtain ⟨put, shape⟩ := run_putEntries shape (.ofBytes outcome.data)
    rw [receiveEntries, run_append put, if_pos more]
    · exact ih (.inr shape) received
    · exact again
  | case4 env outcome rest again next more =>
    obtain ⟨put, shape⟩ := run_putEntries shape (.ofBytes outcome.data)
    simp only [Option.some.injEq, Prod.mk.injEq] at received
    obtain ⟨rfl, _⟩ := received
    rw [receiveEntries, run_append put, if_neg more]
    · exact ⟨rfl, shape⟩
    · exact again

end Receive

variable {Double : Type}

/-- What nobody points to any more once the record has been made. -/
def MsgDispatch.lost : MsgDispatch Double → List Block
  | .frame _ => []
  -- The name of the output type has been compared, and is not stored.
  | .output _ => [.text 1]

namespace Handling

/-- The blocks that the receiver holds. -/
def chain (handling : Handling Double) : List Block :=
  match handling.receiver with
  | .timedOut | .returned => []
  | .parsing | .queueing | .rejected | .freeing => blocks 0 handling.remaining

/-- The blocks that the job holds, with those that nobody holds any more. -/
def work (handling : Handling Double) : List Block :=
  match handling.asyncMsg with
  | none => []
  | some asyncMsg =>
    .dispatch :: asyncMsg.lost ++
      if handling.job = .ended then [] else .record :: asyncMsg.string.toList

/-- The blocks that have been created so far. -/
def made (handling : Handling Double) : List Block :=
  blocks 0 handling.envelope ++
  match handling.receiver with
  | .timedOut | .parsing => []
  | .queueing | .rejected | .freeing | .returned =>
    .dispatch :: if handling.asyncMsg.isSome then [.record] else []

/-- How far the blocks of the message have come. -/
def book (handling : Handling Double) : Block → Status :=
  bookOf (handling.chain ++ handling.work) handling.made

end Handling

/-- The chain has the parts that the record was made from. -/
def MadeFrom : Option (MsgDispatch Double) → Envelope → Prop
  | none, env => ∃ type args, env = some type :: args
  | some (.frame data), env => ∃ type payload args, env = some type :: some payload :: args ∧
    ((data.eos = true ∧ data.szData = none) ∨ (data.eos = false ∧ data.szData = some payload ∧
      ∃ timestamp rest, args = some timestamp :: rest))
  | some (.output _), env => ∃ type name location args,
    env = some type :: some name :: some location :: args

/-- A parser that succeeds has found the parts that it needs. -/
theorem madeFrom_of_parsed [Zero Double] {atof : Bytes → Double} {env : Envelope}
    {asyncMsg : Option (MsgDispatch Double)} (parsed : parseDispatch atof env = .ok asyncMsg) :
    MadeFrom asyncMsg env := by
  -- Every parser ends in a fault as soon as a part is missing.
  rcases env with - | ⟨- | type, args⟩
  · simp [parseDispatch] at parsed
  · simp [parseDispatch] at parsed
  · rw [parseDispatch] at parsed
    split at parsed
    · rcases args with - | ⟨- | payload, rest⟩
      · simp [envelopeParseFrame, Except.map] at parsed
      · simp [envelopeParseFrame, Except.map] at parsed
      · simp only [envelopeParseFrame] at parsed
        split at parsed
        · obtain rfl := Except.ok.inj parsed
          exact ⟨type, payload, rest, rfl, .inl ⟨rfl, rfl⟩⟩
        · rcases rest with - | ⟨- | timestamp, rest⟩
          · simp [Except.map] at parsed
          · simp [Except.map] at parsed
          · obtain rfl := Except.ok.inj parsed
            exact ⟨type, payload, some timestamp :: rest, rfl,
              .inr ⟨rfl, rfl, timestamp, rest, rfl⟩⟩
    · split at parsed
      · rcases args with - | ⟨- | name, rest⟩
        · simp [envelopeParseOutput, Except.map] at parsed
        · simp [envelopeParseOutput, Except.map] at parsed
        · rcases rest with - | ⟨- | location, rest⟩
          · simp [envelopeParseOutput, Except.map] at parsed
          · simp [envelopeParseOutput, Except.map] at parsed
          · obtain rfl := Except.ok.inj parsed
            exact ⟨type, name, location, rest, rfl⟩
      · obtain rfl := Except.ok.inj parsed
        exact ⟨type, args, rfl⟩

/-- The state behind the parsers, and in front of the queue. -/
def Handling.parsed (env : Envelope) (asyncMsg : Option (MsgDispatch Double)) :
    Handling Double :=
  ⟨env, if asyncMsg.isSome then .queueing else .freeing, asyncMsg, .absent⟩

section Parse

variable {type payload name location timestamp : CString} {args : Envelope}

/-- A message that asks for nothing loses its dispatch again. -/
theorem run_parseEntries_none :
    run post (bookOf (blocks 0 (some type :: args)) (blocks 0 (some type :: args)))
        (parseEntries (none : Option (MsgDispatch Double)) (some type :: args)) =
      some (Handling.parsed (some type :: args) (none : Option (MsgDispatch Double))).book := by
  obtain ⟨noDispatch, _⟩ : .dispatch ∉ blocks 0 (some type :: args) ∧
    .record ∉ blocks 0 (some type :: args) := not_mem_blocks_parsed
  simp only [parseEntries, List.cons_append, List.nil_append]
  rw [run_create (by simp [bookOf, noDispatch]),
    run_use (by simp [bookOf, mem_blocks_cons]), run_use (by simp [bookOf, mem_blocks_cons]),
    run_release (by simp), run]
  congr 1
  funext block
  simp only [Handling.book, Handling.parsed, Handling.chain, Handling.work, Handling.made,
    Handling.remaining, bookOf, Function.update_apply, Option.isSome_none]
  grind

/-- Up to its second part, a message for a job is treated alike by both parsers. -/
theorem run_opening (later : List (Entry Block)) :
    run post (bookOf (blocks 0 (some type :: some payload :: args))
          (blocks 0 (some type :: some payload :: args)))
        (.create .dispatch :: .use (.node 0) :: .use (.text 0) :: .create .record ::
          .use (.node 1) :: .use (.text 1) :: later) =
      run post (bookOf (.record :: .dispatch :: blocks 0 (some type :: some payload :: args))
        (.record :: .dispatch :: blocks 0 (some type :: some payload :: args))) later := by
  -- The dispatch and the record are new, and the two parts have just been received.
  have noParsed : .dispatch ∉ blocks 0 (some type :: some payload :: args) ∧
    .record ∉ blocks 0 (some type :: some payload :: args) := not_mem_blocks_parsed
  rw [run_create (by simp [bookOf, noParsed.1]), run_use (by simp [bookOf, mem_blocks_cons]),
    run_use (by simp [bookOf, mem_blocks_cons]), run_create (by simp [bookOf, noParsed.2]),
    run_use (by simp [bookOf, mem_blocks_cons]), run_use (by simp [bookOf, mem_blocks_cons])]
  congr 1
  funext block
  simp only [bookOf, Function.update_apply, List.mem_cons]
  grind

/-- What is kept of the rest of the chain is what the record points to, and what is lost. -/
theorem run_closing {rest tail : Envelope} (asyncMsg : MsgDispatch Double)
    (kept : ∀ block, block ∈ blocks 1 rest ↔
      block ∈ blocks 1 tail ∨ block ∈ asyncMsg.lost ∨ asyncMsg.string = some block)
    (apart : ∀ block ∈ blocks 1 tail, block ∉ asyncMsg.lost ∧ asyncMsg.string ≠ some block)
    (later : List (Entry Block)) :
    run post (bookOf (.record :: .dispatch :: blocks 0 (some type :: rest))
          (.record :: .dispatch :: blocks 0 (some type :: rest)))
        (envelopeFree 1 tail ++ later) =
      run post (Handling.parsed (some type :: rest) (some asyncMsg)).book later := by
  have noParsed : .dispatch ∉ blocks 1 tail ∧ .record ∉ blocks 1 tail := not_mem_blocks_parsed
  obtain ⟨noNode, noText⟩ : .node 0 ∉ blocks 1 tail ∧ .text 0 ∉ blocks 1 tail :=
    not_mem_blocks (.inl (by omega))
  have live : ∀ block ∈ blocks 1 tail,
      bookOf (.record :: .dispatch :: blocks 0 (some type :: rest))
        (.record :: .dispatch :: blocks 0 (some type :: rest)) block = .live := by
    intro block member
    exact bookOf_held (by simp [mem_blocks_cons, kept, member])
  rw [run_append (run_envelopeFree live)]
  congr 1
  funext block
  have keptHere := kept block
  have apartHere := apart block
  clear kept apart live
  simp only [Handling.book, Handling.parsed, Handling.chain, Handling.work, Handling.made,
    Handling.remaining, bookOf, Option.isSome_some, if_true, List.take_succ_cons, List.take_zero,
    List.mem_append, List.mem_cons, blocks, List.not_mem_nil, or_false, reduceCtorEq, if_false,
    Option.mem_toList]
  grind

/-- Behind the parsers, the receiver may still look at the dispatch and at the record. -/
theorem run_looks (env : Envelope) (asyncMsg : MsgDispatch Double) :
    run post (Handling.parsed env (some asyncMsg)).book [.use .record, .use .dispatch] =
        some (Handling.parsed env (some asyncMsg)).book ∧
      run post (Handling.parsed env (some asyncMsg)).book [.use .dispatch] =
        some (Handling.parsed env (some asyncMsg)).book := by
  have record : (Handling.parsed env (some asyncMsg)).book .record = .live :=
    bookOf_held (by simp [Handling.parsed, Handling.chain, Handling.work])
  have dispatch : (Handling.parsed env (some asyncMsg)).book .dispatch = .live :=
    bookOf_held (by simp [Handling.parsed, Handling.chain, Handling.work])
  rw [run_use record, run_use dispatch]
  exact ⟨rfl, rfl⟩

/-- The parsers turn the blocks of a chain into those of a job. -/
theorem run_parseEntries {env : Envelope} {asyncMsg : Option (MsgDispatch Double)}
    (found : MadeFrom asyncMsg env) :
    run post (bookOf (blocks 0 env) (blocks 0 env)) (parseEntries asyncMsg env) =
      some (Handling.parsed env asyncMsg).book := by
  -- The parsers differ in what they leave of the chain behind the type.
  match asyncMsg with
  | none =>
    obtain ⟨type, args, rfl⟩ := found
    exact run_parseEntries_none
  | some (.frame data) =>
    obtain ⟨type, payload, args, rfl, ⟨eos, noData⟩ | ⟨running, image, later⟩⟩ := found
    · simp only [parseEntries, parseFrameEntries, eos, if_true, List.tail_cons, List.cons_append,
        List.nil_append]
      rw [run_opening, run_closing (.frame data)]
      · exact (run_looks _ _).1
      · simp [MsgDispatch.lost, MsgDispatch.string, noData]
      · simp [MsgDispatch.lost, MsgDispatch.string, noData]
    · obtain ⟨timestamp, rest, rfl⟩ := later
      simp only [parseEntries, parseFrameEntries, running, Bool.false_eq_true, if_false,
        List.tail_cons, List.set_cons_zero, List.cons_append, List.nil_append]
      have string : (MsgDispatch.frame data).string = some (.text 1) := by
        simp [MsgDispatch.string, image]
      have behind : .node 1 ∉ blocks 2 (some timestamp :: rest) ∧
        .text 1 ∉ blocks 2 (some timestamp :: rest) := not_mem_blocks (.inl (by omega))
      rw [run_opening, run_use (bookOf_held (by simp [mem_blocks_cons])),
        run_use (bookOf_held (by simp [mem_blocks_cons])), run_closing (.frame data)]
      · exact (run_looks _ _).1
      · intro block
        simp only [mem_blocks_cons, string, MsgDispatch.lost]
        grind
      · intro block member
        simp only [mem_blocks_cons] at member behind
        simp only [string, MsgDispatch.lost]
        grind
  | some (.output data) =>
    obtain ⟨type, name, location, args, rfl⟩ := found
    simp only [parseEntries, parseOutputEntries, List.tail_cons, List.set_cons_zero,
      List.set_cons_succ, List.cons_append, List.nil_append]
    have behindName : .node 1 ∉ blocks 2 (none :: args) ∧ .text 1 ∉ blocks 2 (none :: args) :=
      not_mem_blocks (.inl (by omega))
    have behindLocation : .node 2 ∉ blocks 3 args ∧ .text 2 ∉ blocks 3 args :=
      not_mem_blocks (.inl (by omega))
    rw [run_opening, run_use (bookOf_held (by simp [mem_blocks_cons])),
      run_closing (.output data)]
    · exact (run_looks _ _).2
    · intro block
      simp only [mem_blocks_cons, MsgDispatch.lost, MsgDispatch.string]
      grind
    · intro block member
      simp only [mem_blocks_cons] at member behindName
      simp only [MsgDispatch.lost, MsgDispatch.string]
      grind

end Parse

end Ichabod
