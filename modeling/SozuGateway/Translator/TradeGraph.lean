import SozuGateway.Translator.Transfer
import SozuGateway.Lib.Components

/-!
# The graph of the trades

What `tradeEdges` builds, and what its strongly connected components say about the trades.

* `GivesTo` — one trade gives a name another takes.
* `HasNames` — the edges of a trade lead to the names it gives, those of a name to the trades
  that take it.
* `reaches_iff` — one trade reaches another along the edges exactly when it does by giving.
-/

set_option autoImplicit false

namespace SozuGateway

namespace Translator

open Lib Sozu Tarjan Relation

/-- One trade gives a name another takes. -/
def GivesTo (trades : List Trade) (i j : ℕ) : Prop :=
  ∃ t ∈ trades[i]?, ∃ t' ∈ trades[j]?, ∃ name, name ∈ t.gives ∧ name ∈ t'.takes

/-- Two trades of one strongly connected component. -/
def Connected (trades : List Trade) (i j : ℕ) : Prop :=
  ReflTransGen (GivesTo trades) i j ∧ ReflTransGen (GivesTo trades) j i

variable {trades : List Trade} {name : SniKey} {i j x : ℕ}

theorem mem_givers : i ∈ givers trades name ↔ ∃ t ∈ trades[i]?, name ∈ t.gives := by
  simp only [givers, List.mem_filter, List.mem_range, decide_eq_true_eq, and_iff_right_iff_imp]
  rintro ⟨t, ht, -⟩
  exact (List.getElem?_eq_some_iff.1 ht).1

theorem mem_takers : i ∈ takers trades name ↔ ∃ t ∈ trades[i]?, name ∈ t.takes := by
  simp only [takers, List.mem_filter, List.mem_range, decide_eq_true_eq, and_iff_right_iff_imp]
  rintro ⟨t, ht, -⟩
  exact (List.getElem?_eq_some_iff.1 ht).1

theorem lt_of_mem_givers (hi : i ∈ givers trades name) : i < trades.length := by
  obtain ⟨t, ht, -⟩ := mem_givers.1 hi
  exact (List.getElem?_eq_some_iff.1 ht).1

theorem lt_of_mem_takers (hi : i ∈ takers trades name) : i < trades.length := by
  obtain ⟨t, ht, -⟩ := mem_takers.1 hi
  exact (List.getElem?_eq_some_iff.1 ht).1

theorem givesTo_iff :
    GivesTo trades i j ↔ ∃ name, i ∈ givers trades name ∧ j ∈ takers trades name := by
  constructor
  · rintro ⟨t, ht, t', ht', name, hgives, htakes⟩
    exact ⟨name, mem_givers.2 ⟨t, ht, hgives⟩, mem_takers.2 ⟨t', ht', htakes⟩⟩
  · rintro ⟨name, hi, hj⟩
    obtain ⟨t, ht, hgives⟩ := mem_givers.1 hi
    obtain ⟨t', ht', htakes⟩ := mem_takers.1 hj
    exact ⟨t, ht, t', ht', name, hgives, htakes⟩

theorem GivesTo.lt (h : GivesTo trades i j) : i < trades.length ∧ j < trades.length := by
  obtain ⟨name, hi, hj⟩ := givesTo_iff.1 h
  exact ⟨lt_of_mem_givers hi, lt_of_mem_takers hj⟩

/-! ## The edges -/

/-- The names with a node of their own. -/
def nodeNames (trades : List Trade) (names : List SniKey) : List SniKey :=
  names.filter fun name => ¬(givers trades name = [] ∨ takers trades name = [])

/-- Adding one target to the edges of some nodes. -/
theorem mem_targets_foldl_modify (x : ℕ) (nodes : List ℕ) {edges : Graph}
    (hlt : ∀ g ∈ nodes, g < edges.length) :
    let edges' : Graph := nodes.foldl (fun e g => e.modify g (· ++ [x])) edges
    edges'.length = edges.length ∧
      ∀ i y, y ∈ edges'.targets i ↔ y ∈ edges.targets i ∨ (i ∈ nodes ∧ y = x) := by
  induction nodes generalizing edges with
  | nil => exact ⟨rfl, fun i y => by simp⟩
  | cons g nodes ih =>
    have hlength : (edges.modify g (· ++ [x])).length = edges.length := by simp
    have hrest : ∀ g' ∈ nodes, g' < (edges.modify g (· ++ [x])).length := by
      intro g' hg'
      rw [hlength]
      exact hlt g' (List.mem_cons_of_mem _ hg')
    obtain ⟨hlen, hmem⟩ := ih hrest
    refine ⟨hlen.trans hlength, fun i y => (hmem i y).trans ?_⟩
    have hg : g < edges.length := hlt g List.mem_cons_self
    have hone : y ∈ Graph.targets (edges.modify g (· ++ [x])) i ↔
        y ∈ edges.targets i ∨ (i = g ∧ y = x) := by
      by_cases hi : i = g
      · subst hi
        simp [Graph.targets, List.getD_eq_getElem?_getD, hg]
      · simp [Graph.targets, List.getD_eq_getElem?_getD, hi,
          List.getElem?_modify_ne _ _ (Ne.symm hi)]
    rw [hone, List.mem_cons]
    tauto

/-- What the graph holds once some names were added. -/
structure HasNames (trades : List Trade) (names : List SniKey) (edges : Graph) : Prop where
  length : edges.length = trades.length + names.length
  trade : ∀ i < trades.length, ∀ x, x ∈ edges.targets i ↔
    ∃ k name, names[k]? = some name ∧ x = trades.length + k ∧ i ∈ givers trades name
  name : ∀ k name, names[k]? = some name →
    ∀ x, x ∈ edges.targets (trades.length + k) ↔ x ∈ takers trades name

theorem hasNames_start (trades : List Trade) :
    HasNames trades [] (List.replicate trades.length []) where
  length := by simp
  trade i hi x := by simp [Graph.targets]
  name k name hk := by simp at hk

/-- A graph with one more node has the targets it had. -/
theorem targets_append_of_lt {edges : Graph} {targets : List ℕ} (hi : i < edges.length) :
    Graph.targets (edges ++ [targets]) i = edges.targets i := by
  simp [Graph.targets, List.getD_eq_getElem?_getD, List.getElem?_append_left hi]

theorem targets_append_self {edges : Graph} {targets : List ℕ} (hi : i = edges.length) :
    Graph.targets (edges ++ [targets]) i = targets := by
  subst hi
  simp [Graph.targets, List.getD_eq_getElem?_getD]

/-- **Adding a name adds its node, an edge from each giver and one to each taker.** -/
theorem HasNames.add {names : List SniKey} {edges : Graph} (h : HasNames trades names edges)
    (name : SniKey) :
    HasNames trades (names ++ nodeNames trades [name]) (addName trades edges name) := by
  by_cases hskip : givers trades name = [] ∨ takers trades name = []
  · have hnone : nodeNames trades [name] = [] := by
      simp only [nodeNames, List.filter_eq_nil_iff, List.mem_singleton]
      rintro _ rfl
      simpa using fun hne => hskip.resolve_left hne
    rw [addName, if_pos hskip, hnone, List.append_nil]
    exact h
  · have hone : nodeNames trades [name] = [name] := by
      simp only [nodeNames, List.filter_eq_self, List.mem_singleton]
      rintro _ rfl
      simpa using hskip
    have hgivers : ∀ g ∈ givers trades name, g < edges.length := by
      intro g hg
      have hlt := lt_of_mem_givers hg
      rw [h.length]
      omega
    obtain ⟨hlength, htargets⟩ := mem_targets_foldl_modify edges.length _ hgivers
    rw [addName, if_neg hskip, hone]
    refine ⟨?_, fun i hi x => ?_, fun k name' hk => ?_⟩
    · rw [List.length_append, List.length_append, hlength, h.length]
      simp only [List.length_singleton]
      omega
    · have hlt : i < edges.length := by
        rw [h.length]
        omega
      rw [targets_append_of_lt (hlength.symm ▸ hlt), htargets i x, h.trade i hi x]
      constructor
      · rintro (⟨k, name', hk, rfl, hgiver⟩ | ⟨hgiver, rfl⟩)
        · have hklt : k < names.length := (List.getElem?_eq_some_iff.1 hk).1
          exact ⟨k, name', by rwa [List.getElem?_append_left hklt], rfl, hgiver⟩
        · exact ⟨names.length, name, by simp, h.length, hgiver⟩
      · rintro ⟨k, name', hk, rfl, hgiver⟩
        rcases lt_or_ge k names.length with hklt | hkge
        · rw [List.getElem?_append_left hklt] at hk
          exact .inl ⟨k, name', hk, rfl, hgiver⟩
        · rw [List.getElem?_append_right hkge, List.getElem?_singleton] at hk
          obtain ⟨hk0, hname⟩ := Option.ite_none_right_eq_some.1 hk
          cases hname
          refine .inr ⟨hgiver, ?_⟩
          rw [h.length]
          omega
    · rcases lt_or_ge k names.length with hklt | hkge
      · rw [List.getElem?_append_left hklt] at hk
        have hlt : trades.length + k < edges.length := by
          rw [h.length]
          omega
        intro x
        rw [targets_append_of_lt (hlength.symm ▸ hlt), htargets, h.name k name' hk x]
        -- no name gives
        refine or_iff_left fun hgiver => ?_
        have hgiver := lt_of_mem_givers hgiver.1
        omega
      · rw [List.getElem?_append_right hkge, List.getElem?_singleton] at hk
        obtain ⟨hk0, hname⟩ := Option.ite_none_right_eq_some.1 hk
        cases hname
        have hnode : trades.length + k = edges.length := by
          rw [h.length]
          omega
        intro x
        rw [targets_append_self (hnode.trans hlength.symm)]

/-- **The graph of the trades holds every name that is given and taken.** -/
theorem hasNames_tradeEdges (trades : List Trade) :
    HasNames trades (nodeNames trades (movedNames trades)) (tradeEdges trades) := by
  have hfold : ∀ names : List SniKey, HasNames trades (nodeNames trades names)
      (names.foldl (addName trades) (List.replicate trades.length [])) := by
    intro names
    induction names using List.reverseRecOn with
    | nil => exact hasNames_start trades
    | append_singleton names name ih =>
      rw [List.foldl_append, List.foldl_cons, List.foldl_nil]
      rw [show nodeNames trades (names ++ [name]) =
        nodeNames trades names ++ nodeNames trades [name] from List.filter_append ..]
      exact ih.add name
  exact hfold (movedNames trades)

theorem mem_movedNames :
    name ∈ movedNames trades ↔ ∃ t ∈ trades, name ∈ t.gives ∨ name ∈ t.takes := by
  simp [movedNames]

theorem mem_nodeNames : name ∈ nodeNames trades (movedNames trades) ↔
    (∃ i, i ∈ givers trades name) ∧ ∃ j, j ∈ takers trades name := by
  have hne : ∀ l : List ℕ, l ≠ [] ↔ ∃ a, a ∈ l := fun l =>
    ⟨List.exists_mem_of_ne_nil l, fun ⟨_, ha⟩ => List.ne_nil_of_mem ha⟩
  simp only [nodeNames, List.mem_filter, decide_eq_true_eq, not_or, hne]
  refine and_iff_right_of_imp fun hboth => ?_
  obtain ⟨i, hi⟩ := hboth.1
  obtain ⟨t, ht, hgives⟩ := mem_givers.1 hi
  exact mem_movedNames.2 ⟨t, List.mem_of_getElem? ht, .inl hgives⟩

/-! ## The trades along the edges -/

theorem length_le_tradeEdges (trades : List Trade) :
    trades.length ≤ (tradeEdges trades).length := by
  rw [(hasNames_tradeEdges trades).length]
  omega

/-- A node that is no trade is that of a name. -/
theorem exists_nodeName (hx : trades.length ≤ x) (hlt : x < (tradeEdges trades).length) :
    ∃ k name, (nodeNames trades (movedNames trades))[k]? = some name ∧ x = trades.length + k := by
  rw [(hasNames_tradeEdges trades).length] at hlt
  have hk : x - trades.length < (nodeNames trades (movedNames trades)).length := by omega
  exact ⟨x - trades.length, _, List.getElem?_eq_getElem hk, by omega⟩

/-- A node with an edge is of the graph. -/
theorem lt_of_edge {edges : Graph} {u v : ℕ} (h : Edge edges u v) : u < edges.length := by
  by_contra hge
  have hnone : edges.targets u = [] := by
    rw [Graph.targets, List.getD_eq_getElem?_getD, List.getElem?_eq_none (by omega)]
    rfl
  rw [Edge, hnone] at h
  exact absurd h List.not_mem_nil

/-- A trade leads to names. -/
theorem le_of_edge_trade (hi : i < trades.length) (h : Edge (tradeEdges trades) i x) :
    trades.length ≤ x ∧ x < (tradeEdges trades).length := by
  obtain ⟨k, name, hk, rfl, -⟩ := ((hasNames_tradeEdges trades).trade i hi x).1 h
  have hlt := (List.getElem?_eq_some_iff.1 hk).1
  rw [(hasNames_tradeEdges trades).length]
  omega

/-- A name leads to trades. -/
theorem lt_of_edge_name (hx : trades.length ≤ x) (h : Edge (tradeEdges trades) x j) :
    j < trades.length := by
  obtain ⟨k, name, hk, rfl⟩ := exists_nodeName hx (lt_of_edge h)
  exact lt_of_mem_takers (((hasNames_tradeEdges trades).name k name hk j).1 h)

theorem wellFormed_tradeEdges (trades : List Trade) : (tradeEdges trades).WellFormed := by
  intro u v hv
  rcases lt_or_ge u trades.length with hu | hu
  · exact (le_of_edge_trade hu hv).2
  · exact (lt_of_edge_name hu hv).trans_le (length_le_tradeEdges trades)

/-- **A trade gives a name another takes exactly when a node lies between them.** -/
theorem givesTo_iff_edge (hi : i < trades.length) :
    GivesTo trades i j ↔ ∃ x, Edge (tradeEdges trades) i x ∧ Edge (tradeEdges trades) x j := by
  have hnames := hasNames_tradeEdges trades
  rw [givesTo_iff]
  constructor
  · rintro ⟨name, hgiver, htaker⟩
    obtain ⟨k, hk⟩ := List.mem_iff_getElem?.1 (mem_nodeNames.2 ⟨⟨i, hgiver⟩, ⟨j, htaker⟩⟩)
    exact ⟨trades.length + k, (hnames.trade i hi _).2 ⟨k, name, hk, rfl, hgiver⟩,
      (hnames.name k name hk j).2 htaker⟩
  · rintro ⟨x, hix, hxj⟩
    obtain ⟨k, name, hk, rfl, hgiver⟩ := (hnames.trade i hi x).1 hix
    exact ⟨name, hgiver, (hnames.name k name hk j).1 hxj⟩

/-- What a trade reaches along the edges: a trade by giving, or a name such a trade gives. -/
theorem givesTo_of_reaches (hi : i < trades.length) (h : Reaches (tradeEdges trades) i x) :
    (x < trades.length ∧ ReflTransGen (GivesTo trades) i x) ∨
      ∃ k < trades.length, ReflTransGen (GivesTo trades) i k ∧ Edge (tradeEdges trades) k x := by
  induction h with
  | refl => exact .inl ⟨hi, .refl⟩
  | @tail y z _ hedge ih =>
    rcases ih with ⟨hy, hgives⟩ | ⟨k, hk, hgives, hky⟩
    · exact .inr ⟨y, hy, hgives, hedge⟩
    · have hstep : GivesTo trades k z := (givesTo_iff_edge hk).2 ⟨y, hky, hedge⟩
      exact .inl ⟨hstep.lt.2, hgives.tail hstep⟩

/-- **One trade reaches another along the edges exactly when it does by giving.** -/
theorem reaches_iff (hi : i < trades.length) (hj : j < trades.length) :
    Reaches (tradeEdges trades) i j ↔ ReflTransGen (GivesTo trades) i j := by
  constructor
  · intro h
    rcases givesTo_of_reaches hi h with ⟨-, hgives⟩ | ⟨k, hk, -, hedge⟩
    · exact hgives
    · exact absurd hj (not_lt.2 (le_of_edge_trade hk hedge).1)
  · intro h
    induction h with
    | refl => exact .refl
    | @tail k j _ hstep ih =>
      obtain ⟨x, hkx, hxj⟩ := (givesTo_iff_edge hstep.lt.1).1 hstep
      exact ((ih hstep.lt.1).tail hkx).tail hxj

/-- **Two trades have the same component exactly when they are connected by giving.** -/
theorem component_eq_iff (hi : i < trades.length) (hj : j < trades.length) :
    (components (tradeEdges trades)).1 i = (components (tradeEdges trades)).1 j ↔
      Connected trades i j := by
  have hle := length_le_tradeEdges trades
  rw [(components_spec (wellFormed_tradeEdges trades) (hi.trans_le hle) (hj.trans_le hle)).2,
    reaches_iff hi hj, reaches_iff hj hi, Connected]

end Translator

end SozuGateway
