import Ichabod.Proofs.Horseman.Blocks

/-! Which blocks of a message are released in the end, and which are lost. -/

namespace Ichabod

open Interleaving Ledger

variable {Double : Type}

/-- The string of a record belongs to its message, behind the type part. -/
theorem string_facts {env : Envelope} {asyncMsg : MsgDispatch Double}
    (found : MadeFrom (some asyncMsg) env) {string : Block}
    (points : asyncMsg.string = some string) :
    string ∈ blocks 0 env ∧ string ∉ blocks 0 (env.take 1) ∧ string ∉ asyncMsg.lost ∧
      string ≠ .dispatch ∧ string ≠ .record := by
  cases asyncMsg with
  | frame data =>
    obtain ⟨type, payload, args, rfl, ⟨_, noData⟩ | ⟨_, image, _⟩⟩ := found
    · simp [MsgDispatch.string, noData] at points
    · simp only [MsgDispatch.string, image, Option.map_some, Option.some.injEq] at points
      subst points
      simp [blocks, MsgDispatch.lost]
  | output data =>
    obtain ⟨type, name, location, args, rfl⟩ := found
    simp only [MsgDispatch.string, Option.some.injEq] at points
    subst points
    simp [blocks, MsgDispatch.lost]

namespace Handling

section Job

variable {handling : Handling Double} {asyncMsg : MsgDispatch Double}

/-- Until its job has ended, a dispatch can be used with all that it leads to. -/
theorem live_of_job (there : handling.asyncMsg = some asyncMsg) :
    handling.book .dispatch = .live ∧
      (handling.job ≠ .ended → handling.book .record = .live ∧
        ∀ string, asyncMsg.string = some string → handling.book string = .live) := by
  have dispatch : .dispatch ∈ handling.work := by
    rw [work, there]
    simp
  refine ⟨bookOf_held (List.mem_append_right _ dispatch), fun goes => ?_⟩
  have record : .record ∈ handling.work := by
    simp only [work, there, if_neg goes]
    simp
  refine ⟨bookOf_held (List.mem_append_right _ record), fun string points => ?_⟩
  have pointed : string ∈ handling.work := by
    simp only [work, there, if_neg goes, points]
    simp
  exact bookOf_held (List.mem_append_right _ pointed)

/-- A callback finds everything that it reads. -/
theorem run_callback (there : handling.asyncMsg = some asyncMsg)
    (goes : handling.job ≠ .ended) :
    run post handling.book asyncMsg.callback = some handling.book := by
  obtain ⟨dispatch, rest⟩ := live_of_job there
  obtain ⟨record, strings⟩ := rest goes
  rw [MsgDispatch.callback, List.cons_append, run_use dispatch, List.cons_append, run_use record,
    List.nil_append]
  cases points : asyncMsg.string with
  | none => rfl
  | some string =>
    exact run_use (strings string points)

/-- The two after callbacks give back the record and what it points to. -/
theorem afterCallback_eq (asyncMsg : MsgDispatch Double) :
    asyncMsg.afterCallback = recordFree asyncMsg.string := by
  cases asyncMsg <;> rfl

/-- The receiver holds blocks of what is left of the chain. -/
theorem mem_remaining {block : Block} (member : block ∈ handling.chain) :
    block ∈ blocks 0 handling.remaining := by
  rw [chain] at member
  split at member
  all_goals first | exact member | simp at member

/-- The type part does not belong to the job. -/
theorem not_mem_work (there : handling.asyncMsg = some asyncMsg)
    (found : MadeFrom (some asyncMsg) handling.envelope) {block : Block}
    (front : block ∈ blocks 0 (handling.envelope.take 1)) : block ∉ handling.work := by
  -- The job holds what the parsers allocated, and a string from behind the type part.
  have noParsed : .dispatch ∉ blocks 0 (handling.envelope.take 1) ∧
    .record ∉ blocks 0 (handling.envelope.take 1) := not_mem_blocks_parsed
  have noName : .text 1 ∉ blocks 0 (handling.envelope.take 1) := by
    intro member
    have bounds := bounds_of_mem (.inr member)
    rw [List.length_take] at bounds
    omega
  have noLost : block ∉ asyncMsg.lost := by
    cases asyncMsg with
    | frame data => simp [MsgDispatch.lost]
    | output data =>
      rw [MsgDispatch.lost, List.mem_singleton]
      rintro rfl
      exact noName front
  have noString : asyncMsg.string ≠ some block := fun points =>
    (string_facts found points).2.1 front
  rw [work, there]
  simp only [List.mem_append, List.mem_cons, noLost, or_false]
  intro held
  rcases held with rfl | held
  · exact noParsed.1 front
  · split at held
    · simp at held
    · rcases List.mem_cons.mp held with rfl | pointed
      · exact noParsed.2 front
      · exact noString (by simpa using pointed)

end Job

/-- What is true of a message at each stage. -/
structure Ordered [Zero Double] (atof : Bytes → Double) (handling : Handling Double) : Prop where
  /-- A receive that has timed out leaves nothing but an empty root. -/
  empty : handling.receiver = .timedOut → handling.envelope = [none]
  /-- A message has been received whole. -/
  received : handling.receiver ≠ .timedOut → Received handling.envelope
  /-- Before it is parsed, it has no job. -/
  unparsed : handling.receiver = .timedOut ∨ handling.receiver = .parsing →
    handling.asyncMsg = none ∧ handling.job = .absent
  /-- Behind that, its record is what the parsers made of it. -/
  parsed : handling.receiver ≠ .timedOut → handling.receiver ≠ .parsing →
    parseDispatch atof handling.envelope = .ok handling.asyncMsg
  /-- Between the parsers and the queue, there is a dispatch without a job. -/
  unqueued : handling.receiver = .queueing ∨ handling.receiver = .rejected →
    handling.asyncMsg.isSome = true ∧ handling.job = .absent

section Steps

variable [Zero Double] {atof : Bytes → Double} {handling : Handling Double}
  {asyncMsg : MsgDispatch Double}

/-- The job of a record is behind the parsers. -/
theorem Ordered.behind (ordered : handling.Ordered atof)
    (there : handling.asyncMsg = some asyncMsg) :
    handling.receiver ≠ .timedOut ∧ handling.receiver ≠ .parsing := by
  constructor
  · intro stands
    simp [(ordered.unparsed (.inl stands)).1] at there
  · intro stands
    simp [(ordered.unparsed (.inr stands)).1] at there

/-- The record was made from parts that are there. -/
theorem Ordered.found (ordered : handling.Ordered atof)
    (there : handling.asyncMsg = some asyncMsg) :
    MadeFrom (some asyncMsg) handling.envelope := by
  obtain ⟨received, parsed⟩ := ordered.behind there
  have ok := ordered.parsed received parsed
  rw [there] at ok
  exact madeFrom_of_parsed ok

/-- Giving back a record ends its job. -/
theorem run_afterCallback (ordered : handling.Ordered atof)
    (there : handling.asyncMsg = some asyncMsg) (goes : handling.job ≠ .ended) :
    run post handling.book asyncMsg.afterCallback =
      some { handling with job := .ended }.book := by
  obtain ⟨_, rest⟩ := live_of_job there
  obtain ⟨record, strings⟩ := rest goes
  obtain ⟨received, parsed⟩ := ordered.behind there
  -- The record and its string were made, and the job was the only one that held them.
  have recordMade : .record ∈ handling.made := by
    cases stands : handling.receiver <;> simp_all [made]
  have recordChain : .record ∉ handling.chain :=
    fun member => not_mem_blocks_parsed.2 (mem_remaining member)
  have recordKept : .record ∉ asyncMsg.lost := by
    cases asyncMsg <;> simp [MsgDispatch.lost]
  have before : handling.work =
      .dispatch :: asyncMsg.lost ++ .record :: asyncMsg.string.toList := by
    simp only [work, there, if_neg goes]
  have after : { handling with job := .ended }.work = .dispatch :: asyncMsg.lost := by
    simp only [work, there, if_true, List.append_nil]
  have ends : { handling with job := .ended }.book =
      bookOf (handling.chain ++ .dispatch :: asyncMsg.lost) handling.made := by
    rw [book, after]
    rfl
  rw [afterCallback_eq, recordFree, List.cons_append, run_use record, ends]
  cases points : asyncMsg.string with
  | none =>
    rw [Option.map_none, Option.toList_none, List.nil_append, run_release record, run]
    congr 1
    funext block
    rw [points] at before
    simp only [book, before, bookOf, Function.update_apply]
    grind
  | some string =>
    obtain ⟨inside, noChain, kept, _, other⟩ := string_facts (ordered.found there) points
    have taken : handling.remaining = handling.envelope.take 1 := by
      rw [remaining, there]
      rfl
    have stringMade : string ∈ handling.made := List.mem_append_left _ inside
    have stringChain : string ∉ handling.chain :=
      fun member => noChain (taken ▸ mem_remaining member)
    rw [Option.map_some, Option.toList_some, List.singleton_append,
      run_release (strings string points),
      run_release (by rw [Function.update_of_ne other.symm]; exact record), run]
    congr 1
    funext block
    rw [points] at before
    simp only [book, before, bookOf, Function.update_apply]
    grind

/-- The last call of `envelope_free` gives back what the receiver holds. -/
theorem run_free (ordered : handling.Ordered atof) (stands : handling.receiver = .freeing) :
    run post handling.book (envelopeFree 0 handling.remaining) =
      some { handling with receiver := .returned }.book := by
  have holds : handling.chain = blocks 0 handling.remaining := by rw [chain, stands]
  have live : ∀ block ∈ blocks 0 handling.remaining, handling.book block = .live := by
    intro block member
    rw [← holds] at member
    exact bookOf_held (List.mem_append_left _ member)
  have same : { handling with receiver := .returned }.made = handling.made := by
    rw [made, made, stands]
  have ends : { handling with receiver := .returned }.book =
      bookOf handling.work handling.made := by
    rw [book, same]
    rfl
  -- What is left of the chain was received, and none of it belongs to the job.
  have apart : ∀ block ∈ blocks 0 handling.remaining,
      block ∈ handling.made ∧ block ∉ handling.work := by
    intro block member
    cases there : handling.asyncMsg with
    | none =>
      rw [remaining, there] at member
      exact ⟨List.mem_append_left _ member, by simp [work, there]⟩
    | some asyncMsg =>
      rw [remaining, there] at member
      have front : block ∈ blocks 0 (handling.envelope.take 1) := member
      exact ⟨List.mem_append_left _ (mem_blocks_take front),
        not_mem_work there (ordered.found there) front⟩
  rw [run_envelopeFree live, ends]
  congr 1
  funext block
  have here := apart block
  rw [book, holds]
  simp only [bookOf]
  grind

/-- A message that has been received holds its chain, and nothing else has been made. -/
theorem Ordered.book_parsing (ordered : handling.Ordered atof)
    (stands : handling.receiver = .parsing) :
    handling.book = bookOf (blocks 0 handling.envelope) (blocks 0 handling.envelope) := by
  obtain ⟨noRecord, _⟩ := ordered.unparsed (.inr stands)
  have left : handling.remaining = handling.envelope := by
    rw [remaining, noRecord]
    rfl
  simp only [book, chain, work, made, stands, noRecord, left, List.append_nil]

/-- Parsing leaves a job, or a chain that is given back. -/
theorem run_parse (ordered : handling.Ordered atof) (stands : handling.receiver = .parsing)
    {record : Option (MsgDispatch Double)}
    (parsed : parseDispatch atof handling.envelope = .ok record) :
    run post handling.book (parseEntries record handling.envelope) =
        some (Handling.parsed handling.envelope record).book ∧
      (Handling.parsed handling.envelope record).Ordered atof := by
  have received := ordered.received (by simp [stands])
  rw [ordered.book_parsing stands]
  refine ⟨run_parseEntries (madeFrom_of_parsed parsed), ⟨?_, fun _ => received, ?_, ?_, ?_⟩⟩
  · cases record <;> simp [Handling.parsed]
  · cases record <;> simp [Handling.parsed]
  · exact fun _ _ => parsed
  · cases record <;> simp [Handling.parsed]

/-- Behind the parsers, the receiver moves on with a whole message. -/
theorem Ordered.freeing (ordered : handling.Ordered atof) (job : JobPc)
    {receiver : HandlingPc} (late : receiver = .freeing ∨ receiver = .returned)
    (behind : handling.receiver ≠ .timedOut ∧ handling.receiver ≠ .parsing) :
    { handling with receiver := receiver, job := job }.Ordered atof := by
  have ok := ordered.parsed behind.1 behind.2
  have whole := ordered.received behind.1
  rcases late with rfl | rfl
  · exact ⟨by simp, fun _ => whole, by simp, fun _ _ => ok, by simp⟩
  · exact ⟨by simp, fun _ => whole, by simp, fun _ _ => ok, by simp⟩

/-- The job moves on without the receiver. -/
theorem Ordered.moved (ordered : handling.Ordered atof) (job : JobPc)
    (there : handling.asyncMsg = some asyncMsg) (goes : handling.job ≠ .absent) :
    { handling with job := job }.Ordered atof := by
  obtain ⟨received, parsed⟩ := ordered.behind there
  refine ⟨ordered.empty, ordered.received, fun early => ?_, ordered.parsed, fun early => ?_⟩
  · rcases early with stands | stands
    · exact absurd stands received
    · exact absurd stands parsed
  · exact absurd (ordered.unqueued early).2 goes

/-- A callback reads its job at its start and at its end, and changes nothing. -/
theorem run_reading (ordered : handling.Ordered atof) (there : handling.asyncMsg = some asyncMsg)
    (stands : handling.job = .queued ∨ handling.job = .issuing) {job : JobPc}
    (moves : job = .issuing ∨ job = .issued) :
    run post handling.book asyncMsg.callback = some { handling with job := job }.book ∧
      { handling with job := job }.Ordered atof := by
  -- The job holds the same blocks until it has ended.
  have goes : handling.job ≠ .ended ∧ handling.job ≠ .absent := by
    rcases stands with here | here <;> simp [here]
  have still : job ≠ .ended := by
    rcases moves with rfl | rfl <;> simp
  have same : { handling with job := job }.book = handling.book := by
    simp only [book, chain, work, made, remaining, if_neg goes.1, if_neg still]
  rw [run_callback there goes.1, same]
  exact ⟨rfl, ordered.moved job there goes.2⟩

/-- The queue takes the dispatch or leaves it to the receiver. -/
theorem run_queueWork (ordered : handling.Ordered atof) (stands : handling.receiver = .queueing) :
    (run post handling.book [.use .dispatch] = some { handling with receiver := .rejected }.book ∧
        { handling with receiver := .rejected }.Ordered atof) ∧
      run post handling.book [.use .dispatch] =
          some { handling with receiver := .freeing, job := .queued }.book ∧
        { handling with receiver := .freeing, job := .queued }.Ordered atof := by
  obtain ⟨isSome, noJob⟩ := ordered.unqueued (.inl stands)
  obtain ⟨asyncMsg, there⟩ := Option.isSome_iff_exists.mp isSome
  obtain ⟨dispatch, _⟩ := live_of_job there
  have behind := ordered.behind there
  have ok := ordered.parsed behind.1 behind.2
  have whole := ordered.received behind.1
  -- The blocks stay where they are.
  have rejected : { handling with receiver := .rejected }.book = handling.book := by
    simp only [book, chain, work, made, remaining, stands]
  have queued : { handling with receiver := .freeing, job := .queued }.book = handling.book := by
    simp only [book, chain, work, made, remaining, stands, noJob, reduceCtorEq, if_false]
  rw [run_use dispatch, rejected, queued]
  exact ⟨⟨rfl, by simp, fun _ => whole, by simp, fun _ _ => ok, fun _ => ⟨isSome, noJob⟩⟩, rfl,
    ordered.freeing .queued (.inl rfl) behind⟩

/-- Every step finds the blocks that it works on, and leaves the book as it should be. -/
theorem step_book {action : HandlingAction} {next : Handling Double}
    {entries : List (Entry Block)} (ordered : handling.Ordered atof)
    (taken : handling.step atof action = some (next, entries)) :
    run post handling.book entries = some next.book ∧ next.Ordered atof := by
  -- Each action writes entries of its own, about which there is a lemma.
  cases action with
  | parse =>
    rw [step] at taken
    split at taken
    · rename_i record stands ok
      simp only [Option.some.injEq, Prod.mk.injEq] at taken
      obtain ⟨rfl, rfl⟩ := taken
      have same : { handling with
          receiver := if record.isSome then .queueing else .freeing
          asyncMsg := record } = Handling.parsed handling.envelope record := by
        rw [(ordered.unparsed (.inr stands)).2]
        rfl
      rw [same]
      exact run_parse ordered stands ok
    · simp at taken
  | queueWork ret =>
    rw [step] at taken
    split at taken
    · rename_i stands
      obtain ⟨rejects, accepts⟩ := run_queueWork ordered stands
      split at taken
      · simp only [Option.some.injEq, Prod.mk.injEq] at taken
        obtain ⟨rfl, rfl⟩ := taken
        exact rejects
      · simp only [Option.some.injEq, Prod.mk.injEq] at taken
        obtain ⟨rfl, rfl⟩ := taken
        exact accepts
    · simp at taken
  | reject =>
    rw [step] at taken
    split at taken
    · rename_i asyncMsg stands there
      simp only [Option.some.injEq, Prod.mk.injEq] at taken
      obtain ⟨rfl, rfl⟩ := taken
      obtain ⟨_, noJob⟩ := ordered.unqueued (.inr stands)
      obtain ⟨dispatch, _⟩ := live_of_job there
      have same : { handling with receiver := .freeing, job := .ended }.book =
          { handling with job := .ended }.book := by
        simp only [book, chain, work, made, remaining, stands]
      rw [run_use dispatch, run_afterCallback ordered there (by simp [noJob]), same]
      exact ⟨rfl, ordered.freeing .ended (.inl rfl) (ordered.behind there)⟩
    · simp at taken
  | free =>
    rw [step] at taken
    split at taken
    · rename_i stands
      simp only [Option.some.injEq, Prod.mk.injEq] at taken
      obtain ⟨rfl, rfl⟩ := taken
      exact ⟨run_free ordered stands,
        ordered.freeing handling.job (.inr rfl) (by simp [stands])⟩
    · simp at taken
  | issue =>
    rw [step] at taken
    split at taken
    · rename_i asyncMsg stands there
      simp only [Option.some.injEq, Prod.mk.injEq] at taken
      obtain ⟨rfl, rfl⟩ := taken
      exact run_reading ordered there (.inl stands) (.inl rfl)
    · simp at taken
  | issued =>
    rw [step] at taken
    split at taken
    · rename_i asyncMsg stands there
      simp only [Option.some.injEq, Prod.mk.injEq] at taken
      obtain ⟨rfl, rfl⟩ := taken
      exact run_reading ordered there (.inr stands) (.inr rfl)
    · simp at taken
  | after =>
    rw [step] at taken
    split at taken
    · rename_i asyncMsg stands there
      simp only [Option.some.injEq, Prod.mk.injEq] at taken
      obtain ⟨rfl, rfl⟩ := taken
      obtain ⟨dispatch, _⟩ := live_of_job there
      have still : { handling with job := .ended }.asyncMsg = some asyncMsg := there
      rw [List.cons_append, run_use dispatch,
        run_append (run_afterCallback ordered there (by simp [stands])),
        run_use (live_of_job still).1]
      exact ⟨rfl, ordered.moved .ended there (by simp [stands])⟩
    · simp at taken

end Steps

end Handling

namespace Handlings

/-- Every page of the ledger is what its message has come to. -/
structure Kept [Zero Double] (atof : Bytes → Double) (s : Handlings Double) : Prop where
  pages : ∀ number handling, s.calls[number]? = some handling →
    run post blank (page number s.log) = some handling.book ∧ handling.Ordered atof
  /-- Nothing is written about messages to come. -/
  unused : ∀ number, s.calls.length ≤ number → page number s.log = []

variable [Zero Double] {atof : Bytes → Double}

/-- Only a receive that times out leaves no chain. -/
theorem receiveMessage_none {arrival : Arrival} {later : List RecvOutcome}
    (received : receiveMessage [none] arrival.outcomes = some (none, later)) :
    arrival = .timeout := by
  cases arrival with
  | message whole =>
    have delivered := receiveMessage_message whole []
    rw [List.append_nil] at delivered
    simp [Arrival.outcomes, delivered] at received
  | timeout => rfl
  | failure =>
    have failed := receiveMessage_failure []
    simp [Arrival.outcomes, failed] at received

/-- The first entries of a call say what was received. -/
theorem run_receive (atof : Bytes → Double) {arrival : Arrival} {msg : Option Envelope}
    {later : List RecvOutcome}
    (received : receiveMessage [none] arrival.outcomes = some (msg, later)) :
    run post blank (.create (.node 0) :: receiveEntries [none] arrival.outcomes) =
        some (Handling.begun msg : Handling Double).book ∧
      (Handling.begun msg : Handling Double).Ordered atof := by
  have root : Function.update blank (.node 0) .live =
      bookOf (blocks 0 [none]) (blocks 0 [none]) := by
    funext block
    simp only [bookOf, blocks, blank, Function.update_apply]
    grind
  rw [run_create rfl, root]
  cases msg with
  | none =>
    obtain rfl := receiveMessage_none received
    have entries : receiveEntries [none] Arrival.timeout.outcomes = envelopeFree 0 [none] := rfl
    rw [entries, run_envelopeFree fun block member => bookOf_held member]
    constructor
    · congr 1
      funext block
      simp only [Handling.begun, Handling.book, Handling.chain, Handling.work, Handling.made,
        bookOf]
      grind
    · exact ⟨fun _ => rfl, by simp [Handling.begun], fun _ => ⟨rfl, rfl⟩, by simp [Handling.begun],
        by simp [Handling.begun]⟩
  | some msg =>
    obtain ⟨ran, whole⟩ := run_receiveEntries (.inl rfl) received
    have ordered : (Handling.begun (some msg) : Handling Double).Ordered atof :=
      ⟨by simp [Handling.begun], fun _ => whole, fun _ => ⟨rfl, rfl⟩, by simp [Handling.begun],
        by simp [Handling.begun]⟩
    exact ⟨ran.trans (congrArg some (ordered.book_parsing rfl).symm), ordered⟩

/-- Every step keeps the ledger. -/
theorem kept_step (s : Handlings Double) (action : HandlingsAction) (t : Handlings Double)
    (kept : s.Kept atof) (taken : s.step atof action = some t) : t.Kept atof := by
  -- A step writes to one page only, and the others are those of before.
  cases action with
  | receive arrival =>
    rw [step] at taken
    split at taken
    · split at taken
      · simp at taken
      · rename_i msg later received
        obtain rfl := Option.some.inj taken
        obtain ⟨ran, ordered⟩ := run_receive atof received
        refine ⟨fun number handling there => ?_, fun number beyond => ?_⟩
        · rw [page_append]
          rcases Nat.lt_trichotomy number s.calls.length with earlier | rfl | beyond
          · rw [List.getElem?_append_left earlier] at there
            rw [page_other (by omega), List.append_nil]
            exact kept.pages number handling there
          · obtain rfl : Handling.begun msg = handling := by simpa using there
            rw [kept.unused _ (Nat.le_refl _), page_own, List.nil_append]
            exact ⟨ran, ordered⟩
          · rw [List.getElem?_eq_none (by simp; omega)] at there
            simp at there
        · simp only [List.length_append, List.length_singleton] at beyond
          rw [page_append, kept.unused number (by omega), page_other (by omega)]
          rfl
    · simp at taken
  | act number action =>
    rw [step] at taken
    split at taken
    · simp at taken
    · rename_i handling there
      split at taken
      · simp at taken
      · rename_i next entries moved
        obtain rfl := Option.some.inj taken
        obtain ⟨before, ordered⟩ := kept.pages number handling there
        obtain ⟨ran, stillOrdered⟩ := Handling.step_book ordered moved
        have inside : number < s.calls.length := (List.getElem?_eq_some_iff.mp there).1
        refine ⟨fun other handling standsThere => ?_, fun other beyond => ?_⟩
        · rw [page_append]
          by_cases same : number = other
          · subst same
            obtain rfl : next = handling := by
              simpa [List.getElem?_set_self inside] using standsThere
            rw [page_own, run_append before]
            exact ⟨ran, stillOrdered⟩
          · rw [List.getElem?_set_ne same] at standsThere
            rw [page_other same, List.append_nil]
            exact kept.pages other handling standsThere
        · rw [List.length_set] at beyond
          rw [page_append, kept.unused other beyond, page_other (by omega)]
          rfl

/-- Every reachable state has kept its ledger. -/
theorem kept_of_reachable {s : Handlings Double} (reached : Reachable (step atof) start s) :
    s.Kept atof := by
  apply reachable_invariant (Kept atof) kept_step ?_ reached
  exact ⟨by simp [start], fun _ _ => rfl⟩

end Handlings

namespace Handling

/-- The receiver has returned from the call, and the job that came of it has ended. -/
def Over (handling : Handling Double) : Prop :=
  (handling.receiver = .timedOut ∨ handling.receiver = .returned) ∧
    (handling.asyncMsg.isSome = true → handling.job = .ended)

instance (handling : Handling Double) : Decidable handling.Over :=
  inferInstanceAs (Decidable (_ ∧ _))

/-- Once a message has been handled, nothing is live but its dispatch and what was lost before. -/
theorem Over.live_iff {handling : Handling Double} (handled : handling.Over) (block : Block) :
    handling.book block = .live ↔ ∃ asyncMsg, handling.asyncMsg = some asyncMsg ∧
      (block = .dispatch ∨ block ∈ asyncMsg.lost) := by
  obtain ⟨returned, ended⟩ := handled
  have noChain : handling.chain = [] := by
    rcases returned with stands | stands <;> rw [chain, stands]
  have live : handling.book block = .live ↔ block ∈ handling.work := by
    rw [book, noChain, List.nil_append, bookOf]
    split
    · simp_all
    · split <;> simp_all
  rw [live, work]
  cases there : handling.asyncMsg with
  | none => simp
  | some asyncMsg => simp [ended (by simp [there])]

end Handling

/-- A message of one of the two types that ask for a job. -/
def OfHandledType : Envelope → Prop
  | some type :: _ => type.text = CString.ascii "frame" ∨ type.text = CString.ascii "output"
  | _ => False

/-- The parsers make a record of the messages of these types only. -/
theorem isSome_iff_handled [Zero Double] {atof : Bytes → Double} {env : Envelope}
    {asyncMsg : Option (MsgDispatch Double)} (parsed : parseDispatch atof env = .ok asyncMsg) :
    asyncMsg.isSome = true ↔ OfHandledType env := by
  match env with
  | [] => simp [parseDispatch] at parsed
  | none :: _ => simp [parseDispatch] at parsed
  | some type :: args =>
    -- The parsers compare the type with the two names in turn.
    have isFrame : CString.same (.literal "frame") type = true ↔
        type.text = CString.ascii "frame" := by
      rw [CString.same_iff, CString.text_literal (by decide)]
      exact eq_comm
    have isOutput : CString.same (.literal "output") type = true ↔
        type.text = CString.ascii "output" := by
      rw [CString.same_iff, CString.text_literal (by decide)]
      exact eq_comm
    rw [parseDispatch] at parsed
    rw [OfHandledType, ← isFrame, ← isOutput]
    split at parsed
    · rename_i frame
      cases made : envelopeParseFrame atof args with
      | error fault => simp [made, Except.map] at parsed
      | ok data =>
        rw [made] at parsed
        obtain rfl := Except.ok.inj parsed
        simp [frame]
    · split at parsed
      · rename_i output
        cases made : envelopeParseOutput args with
        | error fault => simp [made, Except.map] at parsed
        | ok data =>
          rw [made] at parsed
          obtain rfl := Except.ok.inj parsed
          simp [output]
      · rename_i noFrame noOutput
        obtain rfl := Except.ok.inj parsed
        simp [noFrame, noOutput]

section Runs

variable [Zero Double] {atof : Bytes → Double} {s : Handlings Double}

/-- A message that has been handled has a record exactly if its type asks for a job. -/
theorem Handling.Over.isSome_iff {handling : Handling Double} (handled : handling.Over)
    (ordered : handling.Ordered atof) :
    handling.asyncMsg.isSome = true ↔ OfHandledType handling.envelope := by
  rcases handled.1 with stands | stands
  · rw [(ordered.unparsed (.inl stands)).1, ordered.empty stands]
    simp [OfHandledType]
  · exact isSome_iff_handled (ordered.parsed (by simp [stands]) (by simp [stands]))

/-- A message that has been handled has given back all blocks unless its type asks for a job. -/
theorem Handlings.Kept.settled_iff (kept : s.Kept atof) {number : Nat}
    {handling : Handling Double} (there : s.calls[number]? = some handling)
    (handled : handling.Over) :
    Settled (page number s.log) ↔ ¬ OfHandledType handling.envelope := by
  obtain ⟨ran, ordered⟩ := kept.pages number handling there
  rw [Ledger.settled_iff ran, ← handled.isSome_iff ordered]
  constructor
  · intro dead isSome
    obtain ⟨asyncMsg, made⟩ := Option.isSome_iff_exists.mp isSome
    exact dead .dispatch ((handled.live_iff .dispatch).mpr ⟨asyncMsg, made, .inl rfl⟩)
  · intro noRecord block live
    obtain ⟨asyncMsg, made, _⟩ := (handled.live_iff block).mp live
    exact noRecord (by simp [made])

/-- A page that is written on belongs to a message. -/
theorem Handlings.Kept.written (kept : s.Kept atof) {number : Nat} {entry : Entry Block}
    (member : entry ∈ page number s.log) : ∃ handling, s.calls[number]? = some handling := by
  by_cases inside : number < s.calls.length
  · exact ⟨_, List.getElem?_eq_getElem inside⟩
  · rw [kept.unused number (by omega)] at member
    simp at member

/-- Every page is in order. -/
theorem Handlings.Kept.proper (kept : s.Kept atof) (number : Nat) :
    Proper (page number s.log) := by
  by_cases inside : number < s.calls.length
  · exact ⟨_, (kept.pages number _ (List.getElem?_eq_getElem inside)).1⟩
  · rw [kept.unused number (by omega)]
    exact ⟨blank, rfl⟩

end Runs

/--
In every run, every block is created before it is used, and released at most once and not before its
last use; once a message has been handled, all of its blocks are released if and only if its type
asks for no job.
-/
theorem settled_iff_unhandled [Zero Double] (atof : Bytes → Double) {s : Handlings Double}
    (reached : Reachable (Handlings.step atof) Handlings.start s) :
    (∀ number, Proper (page number s.log)) ∧
      (∀ (number : Nat) (handling : Handling Double), s.calls[number]? = some handling →
        handling.Over → (Settled (page number s.log) ↔ ¬ OfHandledType handling.envelope)) ∧
      ((∀ (number : Nat) (block : Block), .create block ∈ page number s.log →
          .release block ∉ page number s.log →
          ∃ handling : Handling Double, s.calls[number]? = some handling ∧ ¬ handling.Over) ↔
        ∀ (number : Nat) (handling : Handling Double), s.calls[number]? = some handling →
          handling.Over → ¬ OfHandledType handling.envelope) := by
  have kept := Handlings.kept_of_reachable reached
  refine ⟨kept.proper, fun number handling there handled => kept.settled_iff there handled, ?_⟩
  constructor
  · intro inFlight number handling there handled
    rw [← kept.settled_iff there handled]
    intro block created
    -- A block that is not released would have to be in flight.
    by_contra count
    have below := ((kept.proper number).counts_le block).2
    have never : .release block ∉ page number s.log := by
      rw [← List.count_eq_zero]
      omega
    obtain ⟨other, sameThere, going⟩ := inFlight number block created never
    obtain rfl : handling = other := Option.some.inj (there.symm.trans sameThere)
    exact going handled
  · intro unhandled number block created never
    obtain ⟨handling, there⟩ := kept.written created
    refine ⟨handling, there, fun handled => ?_⟩
    have settled := (kept.settled_iff there handled).mpr (unhandled number handling there handled)
    have once := settled block created
    rw [List.count_eq_zero_of_not_mem never] at once
    exact absurd once (by decide)

/-- An output that is rejected, and then a message of an unknown type. -/
def rejectedOutput : List HandlingsAction :=
  [.receive (.message ⟨CString.ascii "output", [CString.ascii "file", CString.ascii "a"]⟩),
    .act 0 .parse, .act 0 (.queueWork 1), .act 0 .reject, .act 0 .free,
    .receive (.message ⟨CString.ascii "noise", []⟩), .act 1 .parse, .act 1 .free]

/-- Only the second of the two messages is settled. -/
theorem rejectedOutput_settled :
    ∃ final : Handlings Nat,
      run (Handlings.step fun _ => 0) Handlings.start rejectedOutput = some final ∧
      (∀ number, Proper (page number final.log)) ∧
      (∀ (number : Nat) (handling : Handling Nat), final.calls[number]? = some handling →
        handling.Over → (Settled (page number final.log) ↔ ¬ OfHandledType handling.envelope)) ∧
      ((∀ (number : Nat) (block : Block), .create block ∈ page number final.log →
          .release block ∉ page number final.log →
          ∃ handling : Handling Nat, final.calls[number]? = some handling ∧ ¬ handling.Over) ↔
        ∀ (number : Nat) (handling : Handling Nat), final.calls[number]? = some handling →
          handling.Over → ¬ OfHandledType handling.envelope) := by
  have ended : ∃ final : Handlings Nat,
      run (Handlings.step fun _ => 0) Handlings.start rejectedOutput = some final ∧
        final.calls.length = 2 ∧ ∀ handling ∈ final.calls, handling.Over := run_ends (by decide)
  obtain ⟨final, ran, _⟩ := ended
  exact ⟨final, ran, settled_iff_unhandled (fun _ => 0) ⟨rejectedOutput, ran⟩⟩

/-- A frame whose job is accepted and performed to the end. -/
def performedFrame : List HandlingsAction :=
  [.receive (.message ⟨CString.ascii "frame", [CString.ascii "AAAA", CString.ascii "1"]⟩),
    .act 0 .parse, .act 0 (.queueWork 0), .act 0 .issue, .act 0 .free, .act 0 .issued,
    .act 0 .after]

/-- The dispatch of the frame has been created, and nobody will release it. -/
theorem performedFrame_leaks :
    ∃ final : Handlings Nat,
      run (Handlings.step fun _ => 0) Handlings.start performedFrame = some final ∧
      (∀ handling ∈ final.calls, handling.Over) ∧
      .create .dispatch ∈ page 0 final.log ∧ .release .dispatch ∉ page 0 final.log ∧
      ¬ Settled (page 0 final.log) := by
  have ended : ∃ final : Handlings Nat,
      run (Handlings.step fun _ => 0) Handlings.start performedFrame = some final ∧
        (∀ handling ∈ final.calls, handling.Over) ∧
        .create .dispatch ∈ page 0 final.log ∧ .release .dispatch ∉ page 0 final.log :=
    run_ends (by decide)
  obtain ⟨final, ran, handled, created, never⟩ := ended
  refine ⟨final, ran, handled, created, never, fun settled => ?_⟩
  have once := settled .dispatch created
  rw [List.count_eq_zero_of_not_mem never] at once
  exact absurd once (by decide)

end Ichabod
