import SozuGateway.Translator.Order
import SozuGateway.Lib.Tarjan

/-!
# The order of the trades

`transfer_order`: of the same-fingerprint replaces that both give and take SNI
names, the one giving a name runs before the one taking it, cycles aside.

* `Trade` — such a replace.
* `tradeEdges` — the graph of a batch: an edge from each trade to a name it gives,
  and from the name to each trade that takes it.
* `transferOrder` — each trade's position: components of that graph in a
  topological order, the JSON encoding breaking ties.
-/

set_option autoImplicit false

namespace SozuGateway

namespace Translator

open Lib Sozu

/-- An SNI name as Sōzu's resolver keys it: per listener, ASCII-lowercased. -/
abbrev SniKey := SocketAddr ×ₗ String

/-- A same-fingerprint `ReplaceCertificate` that gives some names to its
certificate and takes others off it. -/
structure Trade where
  request : Request
  gives : BTreeSet SniKey
  takes : BTreeSet SniKey

/-! ## The graph -/

/-- The names a batch of trades moves, in order. -/
def movedNames (trades : List Trade) : List SniKey :=
  (BTreeSet.ofList (trades.flatMap fun t => t.gives.toList ++ t.takes.toList)).toList

/-- The trades giving a name. -/
def givers (trades : List Trade) (name : SniKey) : List ℕ :=
  (List.range trades.length).filter fun i => ∃ t ∈ trades[i]?, name ∈ t.gives

/-- The trades taking a name. -/
def takers (trades : List Trade) (name : SniKey) : List ℕ :=
  (List.range trades.length).filter fun i => ∃ t ∈ trades[i]?, name ∈ t.takes

/-- Add the node of a name that is both given and taken. -/
def addName (trades : List Trade) (edges : Tarjan.Graph) (name : SniKey) : Tarjan.Graph :=
  if givers trades name = [] ∨ takers trades name = [] then edges
  else
    (givers trades name).foldl (fun e giver => e.modify giver (· ++ [edges.length])) edges ++
      [takers trades name]

/-- The trades, then one node for each name both given and taken. -/
def tradeEdges (trades : List Trade) : Tarjan.Graph :=
  (movedNames trades).foldl (addName trades) (List.replicate trades.length [])

/-! ## The order of its components -/

/-- Each trade's place in the JSON order. -/
def jsonPlace (lib : Library) (trades : List Trade) (trade : ℕ) : ℕ :=
  (sortBy (fun i => (trades[i]?.map fun t => lib.json t.request).getD "")
    (List.range trades.length)).idxOf trade

/-- What the search for an order keeps: the components left to run and how many
edges each waits for, and the positions given out. -/
structure Topo where
  ready : List ℕ
  waiting : ℕ → ℕ
  position : ℕ → ℕ
  next : ℕ

section Run

variable (edges : Tarjan.Graph) (component : ℕ → ℕ) (place : ℕ → ℕ) (count : ℕ)

/-- The nodes of a component. -/
def members (c : ℕ) : List ℕ := (List.range edges.length).filter fun node => component node = c

/-- The trades of a component, in the JSON order. -/
def tradesOn (c : ℕ) : List ℕ :=
  sortBy place ((members edges component c).filter fun node => node < count)

/-- Where a component stands among those ready: one holding no trade first, the
others by their first trade. -/
def priority (c : ℕ) : (ℕ ×ₗ ℕ) ×ₗ ℕ :=
  match (((members edges component c).filter fun node => node < count).map place).min? with
  | none => toLex (toLex (0, 0), c)
  | some first => toLex (toLex (1, first), c)

/-- The targets, in another component, of the edges leaving a component. -/
def leaving (c : ℕ) : List ℕ :=
  ((members edges component c).flatMap edges.targets).map component |>.filter fun d => d ≠ c

/-- One edge into a component was followed. -/
def release (s : Topo) (c : ℕ) : Topo :=
  { s with
    waiting := Function.update s.waiting c (s.waiting c - 1)
    ready := if s.waiting c - 1 = 0 then c :: s.ready else s.ready }

/-- Give a trade the next position. -/
def place1 (s : Topo) (trade : ℕ) : Topo :=
  { s with position := Function.update s.position trade s.next, next := s.next + 1 }

/-- Run the component that stands first among those ready. -/
def runNext (s : Topo) : Topo :=
  match sortBy (priority edges component place count) s.ready with
  | [] => s
  | c :: ready =>
      (leaving edges component c).foldl release
        ((tradesOn edges component place count c).foldl place1 { s with ready })

/-- How many edges enter a component from another. -/
def entering (c : ℕ) : ℕ :=
  (((List.range edges.length).flatMap fun node =>
    (edges.targets node).filter fun target => component target ≠ component node).map
      component).count c

/-- Every component that waits for none is ready. -/
def start (components : ℕ) : Topo where
  ready := (List.range components).filter fun c => entering edges component c = 0
  waiting := entering edges component
  position := fun _ => 0
  next := 0

end Run

/-- The order the trades of one batch run in, as each trade's position. -/
def transferOrder (lib : Library) (trades : List Trade) : List ℕ :=
  let edges := tradeEdges trades
  let (component, components) := Tarjan.components edges
  let run := runNext edges component (jsonPlace lib trades) trades.length
  (List.range trades.length).map (run^[components] (start edges component components)).position

@[simp] theorem length_transferOrder (lib : Library) (trades : List Trade) :
    (transferOrder lib trades).length = trades.length := by
  simp [transferOrder]

end Translator

end SozuGateway
