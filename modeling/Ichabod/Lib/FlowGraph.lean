import Mathlib.Data.List.Chain

/-! What can flow through a directed graph in which some nodes let nothing pass. -/

namespace FlowGraph

universe u

variable {Node : Type u}

/-- Something that is at the first node can come to the second one. -/
inductive Reaches (edge : Node → Node → Prop) (passes : Node → Prop) : Node → Node → Prop where
  /-- It is there already. -/
  | here (node : Node) : Reaches edge passes node node
  /-- It passes the node where it is, and goes on behind the next one. -/
  | step {source next target : Node} (passed : passes source) (along : edge source next)
      (rest : Reaches edge passes next target) : Reaches edge passes source target

/-- A set of nodes that is only entered through certain gates. -/
def EnteredBy (edge : Node → Node → Prop) (region gates : Node → Prop) : Prop :=
  -- Edges within the region are not restricted.
  ∀ source target, edge source target → region target → region source ∨ gates source

variable {edge wider : Node → Node → Prop} {passes : Node → Prop} {region gates : Node → Prop}
  {source before target : Node}

namespace Reaches

/-- A flow can be prolonged by one edge at its end. -/
theorem tail (front : Reaches edge passes source before) (passed : passes before)
    (along : edge before target) : Reaches edge passes source target := by
  -- The new edge is handed down to where the flow ends.
  induction front with
  | here node => exact .step passed along (.here target)
  | step first edge rest ih => exact .step first edge (ih passed along)

/-- A flow that has moved came over some edge at its end. -/
theorem last (flow : Reaches edge passes source target) :
    source = target ∨
      ∃ before, Reaches edge passes source before ∧ passes before ∧ edge before target := by
  -- The last edge of the rest is the last edge of the whole, unless the rest has none.
  induction flow with
  | here node => exact .inl rfl
  | @step source next target passed along rest ih =>
    right
    rcases ih with rfl | ⟨before, front, passedBefore, alongBefore⟩
    · exact ⟨source, .here source, passed, along⟩
    · exact ⟨before, .step passed along front, passedBefore, alongBefore⟩

/-- A flow that is to move goes over some edge at its beginning. -/
theorem reaches_front_iff (moved : source ≠ target) :
    Reaches edge passes source target ↔
      passes source ∧ ∃ next, edge source next ∧ Reaches edge passes next target := by
  constructor
  · intro flow
    cases flow with
    | here => exact absurd rfl moved
    | step passed along rest => exact ⟨passed, _, along, rest⟩
  · intro parts
    obtain ⟨passed, next, along, rest⟩ := parts
    exact .step passed along rest

/-- A graph with more edges has the same flows, and perhaps others. -/
theorem mono (flow : Reaches edge passes source target)
    (edges : ∀ source target, edge source target → wider source target) :
    Reaches wider passes source target := by
  -- The flow takes the same nodes in the wider graph.
  induction flow with
  | here node => exact .here node
  | step passed along rest ih => exact .step passed (edges _ _ along) ih

/-- What flows into a region from outside has passed one of its gates. -/
theorem passes_gate (entered : EnteredBy edge region gates)
    (flow : Reaches edge passes source target) (outside : ¬ region source)
    (inside : region target) : ∃ gate, gates gate ∧ passes gate := by
  -- Some edge of the flow leads into the region, and that edge comes from a gate.
  induction flow with
  | here node => exact absurd inside outside
  | @step source next target passed along rest ih =>
    by_cases now : region next
    · rcases entered source next along now with within | gate
      · exact absurd within outside
      · exact ⟨source, gate, passed⟩
    · exact ih now inside

/-- Nothing flows into a region that has no gates. -/
theorem stays_outside (closed : EnteredBy edge region fun _ => False)
    (flow : Reaches edge passes source target) (outside : ¬ region source) : ¬ region target := by
  intro inside
  obtain ⟨_, none, _⟩ := passes_gate closed flow outside inside
  exact none

/-- Where a node is only fed from one place, what comes to it has come over that edge. -/
theorem reaches_next_iff (moved : source ≠ target)
    (single : ∀ other, edge other target → Reaches edge passes source other → other = before) :
    Reaches edge passes source target ↔
      Reaches edge passes source before ∧ passes before ∧ edge before target := by
  constructor
  · intro flow
    rcases flow.last with same | ⟨other, front, passed, along⟩
    · exact absurd same moved
    · -- The edge at the end starts where the node is fed from.
      obtain rfl := single other along front
      exact ⟨front, passed, along⟩
  · intro parts
    obtain ⟨front, passed, along⟩ := parts
    exact front.tail passed along

/--
Along a line of nodes that are each fed from the one before, exactly the complete line lets flow.

The line starts where the flow has come to, and the source of the flow is not met again.
-/
theorem reaches_line_iff {line : List Node} (moved : source ∉ line)
    (single : List.IsChain (fun before next => ∀ other, edge other next →
      Reaches edge passes source other → other = before) (before :: line)) :
    Reaches edge passes source ((before :: line).getLast (List.cons_ne_nil before line)) ↔
      Reaches edge passes source before ∧
        List.IsChain (fun before next => passes before ∧ edge before next) (before :: line) := by
  -- The line is followed forwards, and each node takes over from the one before it.
  induction line generalizing before with
  | nil => simp
  | cons next line ih =>
    obtain ⟨fedOnce, single⟩ := List.isChain_cons_cons.mp single
    have apart : source ≠ next := fun same => moved (same ▸ List.mem_cons_self)
    have later : source ∉ line := fun there => moved (List.mem_cons_of_mem next there)
    rw [List.getLast_cons (List.cons_ne_nil next line), ih later single,
      reaches_next_iff apart fedOnce, List.isChain_cons_cons]
    simp only [and_assoc]

end Reaches

end FlowGraph
