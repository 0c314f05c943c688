import Mathlib

/-!
# Strongly connected components

Tarjan's algorithm with an explicit call stack, over a graph given as adjacency
lists, one step at a time.

* `State.step` — one turn of the loop: follow the next edge of the node on top of
  the calls, or finish that node.
* `components` — each node's component, and how many there are.
-/

set_option autoImplicit false

namespace SozuGateway
namespace Lib
namespace Tarjan

/-- A graph: each node's targets. -/
abbrev Graph := List (List ℕ)

/-- The targets of a node. -/
def Graph.targets (edges : Graph) (node : ℕ) : List ℕ := edges.getD node []

/-- The variables of the search.  An absent index or component is one not seen
yet; both stacks have their top first. -/
structure State where
  index : ℕ → Option ℕ := fun _ => none
  low : ℕ → ℕ := fun _ => 0
  onStack : ℕ → Bool := fun _ => false
  stack : List ℕ := []
  component : ℕ → Option ℕ := fun _ => none
  nextIndex : ℕ := 0
  components : ℕ := 0
  /-- Each open node, with the next edge to follow. -/
  calls : List (ℕ × ℕ) := []

namespace State

/-- Open a node. -/
def visit (s : State) (node : ℕ) : State :=
  { s with
    index := Function.update s.index node (some s.nextIndex)
    low := Function.update s.low node s.nextIndex
    nextIndex := s.nextIndex + 1
    stack := node :: s.stack
    onStack := Function.update s.onStack node true
    calls := (node, 0) :: s.calls }

/-- Take the members of a component off the stack, down to its first node. -/
def popComponent (node : ℕ) (s : State) : List ℕ → State
  | [] => { s with stack := [] }
  | member :: stack =>
      let s :=
        { s with
          onStack := Function.update s.onStack member false
          component := Function.update s.component member (some s.components) }
      if member = node then { s with stack } else popComponent node s stack

/-- Close the node on top of the calls: hand its low point to the node below, and
take its component off the stack when the node is the first of it. -/
def finish (s : State) (node : ℕ) (calls : List (ℕ × ℕ)) : State :=
  let s : State := { s with calls }
  let s : State :=
    match calls with
    | (parent, _) :: _ =>
        { s with low := Function.update s.low parent (min (s.low parent) (s.low node)) }
    | [] => s
  if some (s.low node) = s.index node then
    let s := popComponent node s s.stack
    { s with components := s.components + 1 }
  else s

/-- Follow an edge: open its target, or lower the node's low point to a target
still on the stack. -/
def follow (s : State) (node target : ℕ) : State :=
  match s.index target with
  | none => s.visit target
  | some i =>
      if s.onStack target then { s with low := Function.update s.low node (min (s.low node) i) }
      else s

/-- One turn of the loop. -/
def step (edges : Graph) (s : State) : State :=
  match s.calls with
  | [] => s
  | (node, edge) :: calls =>
      match (edges.targets node)[edge]? with
      | some target => follow { s with calls := (node, edge + 1) :: calls } node target
      | none => finish s node calls

/-- Turn the loop until no call is open. -/
def loop (edges : Graph) : ℕ → State → State
  | 0, s => s
  | fuel + 1, s => if s.calls = [] then s else loop edges fuel (s.step edges)

end State

/-- How many turns the loop can take: one for each edge and one for each node. -/
def fuel (edges : Graph) : ℕ := (edges.map fun targets => targets.length + 1).sum

/-- Search from a root that was not seen yet. -/
def search (edges : Graph) (s : State) (root : ℕ) : State :=
  match s.index root with
  | some _ => s
  | none => (s.visit root).loop edges (fuel edges)

/-- The state after every root. -/
def searchAll (edges : Graph) : State := (List.range edges.length).foldl (search edges) {}

/-- The strongly connected components of a graph: each node's component, and how
many there are. -/
def components (edges : Graph) : (ℕ → ℕ) × ℕ :=
  (fun node => ((searchAll edges).component node).getD 0, (searchAll edges).components)

example : (List.range 4).map (components [[1], [2], [1], [0, 2]]).1 = [1, 0, 0, 2] := by decide

end Tarjan
end Lib
end SozuGateway
