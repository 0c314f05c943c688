import SozuGateway.Lib.Components

/-!
# The strongly connected components of a batch

* `stronglyConnected` — the search over every root, each root's loop given a number of turns.
* `stronglyConnected_eq` — with enough turns for one root it returns, whatever more it is given.
* `strongly_connected_sorted` — what it returns.
-/

set_option autoImplicit false

namespace SozuGateway
namespace Translator

open Lib.Tarjan

/-- The loop of one root, `while let Some(&(node, edge)) = calls.last()`: it leaves when no call
is open, and has not left when the turns run out. -/
def followCalls (edges : Graph) : ℕ → State → Option State
  | 0, s => if s.calls = [] then some s else none
  | turns + 1, s => if s.calls = [] then some s else followCalls edges turns (s.step edges)

/-- One root of the search. -/
def fromRoot (edges : Graph) (turns : ℕ) (s : State) (root : ℕ) : Option State :=
  match s.index root with
  | some _ => some s
  | none => followCalls edges turns (s.visit root)

/-- The strongly connected components of a graph given as adjacency lists: each node's component,
absent while it is `UNSEEN`, and how many there are. -/
def stronglyConnected (edges : Graph) (turns : ℕ) : Option (List (Option ℕ) × ℕ) := do
  let s ← (List.range edges.length).foldlM (fromRoot edges turns) {}
  return ((List.range edges.length).map s.component, s.components)

/-! ## The loop ends -/

/-- A loop that has left after some turns has left after more, in the same state. -/
theorem followCalls_eq {edges : Graph} {n turns : ℕ} (hle : n ≤ turns) {s : State}
    (hdone : (s.loop edges n).calls = []) :
    followCalls edges turns s = some (s.loop edges n) := by
  induction n generalizing s turns with
  | zero =>
    rw [State.loop] at hdone ⊢
    cases turns <;> simp [followCalls, hdone]
  | succ n ih =>
    obtain ⟨turns, rfl⟩ := Nat.exists_eq_add_of_le' (Nat.le_of_add_left_le hle)
    by_cases hcalls : s.calls = []
    · simp [followCalls, State.loop, hcalls]
    · rw [State.loop, if_neg hcalls] at hdone ⊢
      rw [followCalls, if_neg hcalls]
      exact ih (by omega) hdone

/-- **With a turn for each node and each edge, the search of a root returns.** -/
theorem fromRoot_eq {edges : Graph} (hwf : edges.WellFormed) {turns : ℕ}
    (hle : fuel edges ≤ turns) {s : State} (h : State.Holds edges s []) {root : ℕ}
    (hroot : root < edges.length) : fromRoot edges turns s root = some (search edges s root) := by
  have hdone := (search_done hwf h hroot).1.calls
  rw [fromRoot]
  cases hindex : s.index root with
  | some i => simp only [search, hindex]
  | none =>
    simp only [search, hindex] at hdone ⊢
    exact followCalls_eq hle (by simpa using hdone)

/-- **So does the search of them all.** -/
theorem stronglyConnected_eq {edges : Graph} (hwf : edges.WellFormed) {turns : ℕ}
    (hle : fuel edges ≤ turns) :
    stronglyConnected edges turns =
      some ((List.range edges.length).map (searchAll edges).component,
        (searchAll edges).components) := by
  have hfold : ∀ (roots : List ℕ) (s : State), (∀ r ∈ roots, r < edges.length) →
      State.Holds edges s [] →
      roots.foldlM (fromRoot edges turns) s = some (roots.foldl (search edges) s) := by
    intro roots
    induction roots with
    | nil => exact fun s _ _ => rfl
    | cons root roots ih =>
      intro s hroots h
      have hroot := hroots root List.mem_cons_self
      rw [List.foldlM_cons, fromRoot_eq hwf hle h hroot]
      exact ih _ (fun r hr => hroots r (List.mem_cons_of_mem _ hr)) (search_done hwf h hroot).1
  have hempty : State.Holds edges {} [] := ⟨State.core_empty edges, rfl, trivial⟩
  rw [stronglyConnected, hfold _ _ (by simp) hempty]
  rfl

/-- **`stronglyConnected` returns, and what it returns are the strongly connected components,
each numbered below those that lead to it.** -/
theorem strongly_connected_sorted (edges : Graph) (hwf : edges.WellFormed) :
    ∃ component count enough,
      (∀ turns ≥ enough, stronglyConnected edges turns = some (component, count)) ∧
      component.length = edges.length ∧
      (∀ u < edges.length, ∃ c < count, component[u]? = some (some c)) ∧
      (∀ c < count, ∃ u < edges.length, component[u]? = some (some c)) ∧
      (∀ u < edges.length, ∀ v < edges.length,
        component[u]? = component[v]? ↔ Reaches edges u v ∧ Reaches edges v u) ∧
      ∀ u v, Edge edges u v → component[u]? ≠ component[v]? →
        ∃ c d, component[u]? = some (some c) ∧ component[v]? = some (some d) ∧ d < c := by
  have hcore := (searchAll_done hwf).1.core
  have hassigned : ∀ {v}, (searchAll edges).component v ≠ none ↔ v < edges.length :=
    searchAll_assigned hwf
  have hget : ∀ {u}, u < edges.length →
      ((List.range edges.length).map (searchAll edges).component)[u]? =
        some ((searchAll edges).component u) := by
    intro u hu
    simp [hu]
  refine ⟨_, _, fuel edges, fun turns hle => stronglyConnected_eq hwf hle, by simp, ?_, ?_, ?_, ?_⟩
  · intro u hu
    obtain ⟨c, hc⟩ := Option.ne_none_iff_exists'.1 (hassigned.2 hu)
    exact ⟨c, (hcore.closed u c hc).1, by rw [hget hu, hc]⟩
  · intro c hc
    obtain ⟨u, hu⟩ := hcore.used c hc
    have hlt : u < edges.length := hassigned.1 (by simp [hu])
    exact ⟨u, hlt, by rw [hget hlt, hu]⟩
  · intro u hu v hv
    rw [hget hu, hget hv, Option.some_inj]
    exact hcore.exact u v (hassigned.2 hu) (hassigned.2 hv)
  · intro u v hedge hne
    have hv : v < edges.length := hwf u v hedge
    have hu : u < edges.length := by
      by_contra hge
      rw [Edge, Graph.targets, List.getD_eq_default _ _ (not_lt.1 hge)] at hedge
      exact absurd hedge List.not_mem_nil
    obtain ⟨c, hc⟩ := Option.ne_none_iff_exists'.1 (hassigned.2 hu)
    obtain ⟨d, hd⟩ := Option.ne_none_iff_exists'.1 (hassigned.2 hv)
    rw [hget hu, hget hv, hc, hd] at hne
    refine ⟨c, d, by rw [hget hu, hc], by rw [hget hv, hd], ?_⟩
    exact lt_of_le_of_ne (hcore.falling u c hc v hedge d hd) fun heq => hne (heq ▸ rfl)

/-- Two nodes on a cycle, a self loop and an edge written twice, and a node that leads to all. -/
def cyclicGraph : Graph := [[1, 1], [2], [1, 2], [0, 2]]

theorem wellFormed_cyclicGraph : cyclicGraph.WellFormed := by
  intro u v hv
  by_cases hu : u < 4
  · revert v
    revert u
    decide
  · rw [Graph.targets, List.getD_eq_default _ _ (by simpa [cyclicGraph] using hu)] at hv
    exact absurd hv List.not_mem_nil

theorem strongly_connected_sorted_cycle :
    ∃ component count enough,
      (∀ turns ≥ enough, stronglyConnected cyclicGraph turns = some (component, count)) ∧
      component.length = 4 ∧
      (∀ u < 4, ∃ c < count, component[u]? = some (some c)) ∧
      (∀ c < count, ∃ u < 4, component[u]? = some (some c)) ∧
      (∀ u < 4, ∀ v < 4, component[u]? = component[v]? ↔
        Reaches cyclicGraph u v ∧ Reaches cyclicGraph v u) ∧
      ∀ u v, Edge cyclicGraph u v → component[u]? ≠ component[v]? →
        ∃ c d, component[u]? = some (some c) ∧ component[v]? = some (some d) ∧ d < c :=
  strongly_connected_sorted cyclicGraph wellFormed_cyclicGraph

example : stronglyConnected [[1], [2], [1], [0, 2]] 8 =
    some ([some 1, some 0, some 0, some 2], 3) := by decide

end Translator
end SozuGateway
