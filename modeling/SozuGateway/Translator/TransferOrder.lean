import SozuGateway.Translator.Topological
import SozuGateway.Lib.StableSort
import SozuGateway.Lib.Code

/-!
# The smallest order that gives before it takes

`transfer_order` gives the trades of a batch their positions: the one giving a name before the one
taking it, those of one strongly connected component side by side in the JSON order, and
otherwise in the smallest order by JSON place.

* `jsonPlace_lt_iff` — the JSON places follow the JSON texts, the earlier trade first on a tie.
* `exists_runsIn` — the run of `transferOrder` places every component.
* `SmallestOrder` — what is promised of the positions.
-/

set_option autoImplicit false

namespace SozuGateway

namespace Translator

open Lib Sozu Tarjan Relation

/-! ## Positions in a list -/

/-- In a list that follows a strict order, an element comes before another when it is less. -/
theorem idxOf_lt_iff {α κ : Type*} [DecidableEq α] [LinearOrder κ] {rank : α → κ} {l : List α}
    (hpair : l.Pairwise fun a b => rank a < rank b) {a b : α} (ha : a ∈ l) (hb : b ∈ l) :
    l.idxOf a < l.idxOf b ↔ rank a < rank b := by
  have hforward : ∀ {a b : α}, a ∈ l → b ∈ l → l.idxOf a < l.idxOf b → rank a < rank b := by
    intro a b ha hb hlt
    have hget := List.pairwise_iff_getElem.1 hpair _ _ (List.idxOf_lt_length_iff.2 ha)
      (List.idxOf_lt_length_iff.2 hb) hlt
    rwa [List.getElem_idxOf, List.getElem_idxOf] at hget
  refine ⟨hforward ha hb, fun hlt => ?_⟩
  by_contra hnot
  rcases lt_or_eq_of_le (not_lt.1 hnot) with hback | heq
  · exact absurd (hforward hb ha hback) hlt.asymm
  · rw [(List.idxOf_inj hb).1 heq] at hlt
    exact lt_irrefl _ hlt

/-- A list without repetition follows its own positions. -/
theorem pairwise_idxOf {α : Type*} [DecidableEq α] {l : List α} (hnodup : l.Nodup) :
    l.Pairwise fun a b => l.idxOf a < l.idxOf b := by
  rw [List.pairwise_iff_getElem]
  intro i j hi hj hlt
  rwa [hnodup.idxOf_getElem, hnodup.idxOf_getElem]

/-- Two lists of one length, one before the other, part at an element. -/
theorem exists_first_difference {α κ : Type*} [LinearOrder κ] {key : α → κ} {l l' : List α}
    (hlength : l.length = l'.length) (hkey : KeyInjOn key (l ++ l'))
    (hlt : l.map key < l'.map key) :
    ∃ common a b rest rest', l = common ++ a :: rest ∧ l' = common ++ b :: rest' ∧
      key a < key b := by
  induction l generalizing l' with
  | nil =>
    obtain rfl : l' = [] := List.length_eq_zero_iff.1 hlength.symm
    simp at hlt
  | cons a l ih =>
    obtain _ | ⟨b, l'⟩ := l'
    · simp at hlength
    · rw [List.map_cons, List.map_cons, List.cons_lt_cons_iff] at hlt
      rcases hlt with hlt | ⟨heq, hlt⟩
      · exact ⟨[], a, b, l, l', rfl, rfl, hlt⟩
      · obtain rfl := hkey a (by simp) b (by simp) heq
        obtain ⟨common, c, d, rest, rest', rfl, rfl, hcd⟩ := ih (by simpa using hlength)
          (fun c hc d hd => hkey c (by simp_all only [List.mem_append, List.mem_cons]; tauto) d
            (by simp_all only [List.mem_append, List.mem_cons]; tauto)) hlt
        exact ⟨a :: common, c, d, rest, rest', rfl, rfl, hcd⟩

/-! ## JSON places -/

section Place

variable {lib : Library} {trades : List Trade} {i j : ℕ}

/-- What the trades are sorted by for their JSON places. -/
def jsonText (lib : Library) (trades : List Trade) (i : ℕ) : String :=
  (trades[i]?.map fun t => lib.json t.request).getD ""

/-- The trades sorted by their JSON texts, the earlier first on a tie. -/
theorem pairwise_byKey (lib : Library) (trades : List Trade) :
    (sortBy (jsonText lib trades) (List.range trades.length)).Pairwise fun i j =>
      toLex (jsonText lib trades i, i) < toLex (jsonText lib trades j, j) := by
  have hrange : (List.range trades.length).Pairwise (· < ·) := List.pairwise_lt_range
  -- the sort is stable, so it is the sort by text and position
  have hstable : sortBy (jsonText lib trades) (List.range trades.length) =
      sortBy (fun i => toLex (jsonText lib trades i, i)) (List.range trades.length) := by
    refine eq_of_filter_key_eq (pairwise_sortBy _ _) ?_ fun k => ?_
    · refine (pairwise_sortBy _ _).imp fun {i j} hle => ?_
      rcases Prod.Lex.toLex_le_toLex.1 hle with hlt | ⟨heq, -⟩
      · exact le_of_lt hlt
      · exact le_of_eq heq
    · rw [filter_key_sortBy, filter_sortBy, sortBy_eq_self]
      refine List.Pairwise.imp_of_mem ?_ (hrange.filter _)
      intro i j hi hj hlt
      have hik : jsonText lib trades i = k := by simpa using (List.mem_filter.1 hi).2
      have hjk : jsonText lib trades j = k := by simpa using (List.mem_filter.1 hj).2
      exact Prod.Lex.toLex_le_toLex.2 (.inr ⟨hik.trans hjk.symm, hlt.le⟩)
  have hnodup : (sortBy (jsonText lib trades) (List.range trades.length)).Nodup :=
    nodup_sortBy.2 List.nodup_range
  rw [hstable] at hnodup ⊢
  refine ((pairwise_sortBy _ _).and hnodup).imp fun {i j} h => lt_of_le_of_ne h.1 fun heq => h.2 ?_
  simp only [EmbeddingLike.apply_eq_iff_eq, Prod.mk.injEq] at heq
  exact heq.2

/-- **The JSON places follow the JSON texts**, the earlier trade first on a tie. -/
theorem jsonPlace_lt_iff (hi : i < trades.length) (hj : j < trades.length) :
    jsonPlace lib trades i < jsonPlace lib trades j ↔
      toLex (jsonText lib trades i, i) < toLex (jsonText lib trades j, j) :=
  idxOf_lt_iff (pairwise_byKey lib trades) (mem_sortBy.2 (List.mem_range.2 hi))
    (mem_sortBy.2 (List.mem_range.2 hj))

theorem jsonPlace_inj (hi : i < trades.length)
    (h : jsonPlace lib trades i = jsonPlace lib trades j) : i = j :=
  (List.idxOf_inj (mem_sortBy.2 (List.mem_range.2 hi))).1 h

end Place

/-! ## The run -/

/-- No cycle of components: what leaves one does not come back. -/
theorem not_transGen_into {edges : Graph} (hwf : edges.WellFormed) (c : ℕ) :
    ¬TransGen (Into edges (components edges).1) c c := by
  have hreaches : ∀ {c d : ℕ}, ReflTransGen (Into edges (components edges).1) c d →
      ∀ u v, u < edges.length → v < edges.length → (components edges).1 u = c →
        (components edges).1 v = d → Reaches edges u v := by
    intro c d h
    induction h with
    | refl =>
      intro u v hu hv huc hvc
      exact ((components_spec hwf hu hv).2.1 (huc.trans hvc.symm)).1
    | @tail d e _ hinto ih =>
      rintro u v hu hv huc hve
      obtain ⟨x, y, hxy, hx, hy, -⟩ := hinto
      have hlast := ((components_spec hwf (hwf x y hxy) hv).2.1 (hy.trans hve.symm)).1
      exact ((ih u x hu (lt_of_edge hxy) huc hx).tail hxy).trans hlast
  intro hcycle
  obtain ⟨d, ⟨u, v, huv, hu, hv, hne⟩, hback⟩ := TransGen.head'_iff.1 hcycle
  have hreach := hreaches hback v u (hwf u v huv) (lt_of_edge huv) hv hu
  have heq := (components_spec hwf (lt_of_edge huv) (hwf u v huv)).2.2 ⟨.single huv, hreach⟩
  exact hne (hu.symm.trans (heq.trans hv))

section Trades

variable (lib : Library) (trades : List Trade)

/-- The component of a trade or of a name. -/
def componentOf (node : ℕ) : ℕ := (components (tradeEdges trades)).1 node

/-- The state the loop of `transferOrder` ends in. -/
def finalTopo : Topo :=
  (runNext (tradeEdges trades) (componentOf trades) (jsonPlace lib trades)
    trades.length)^[(components (tradeEdges trades)).2]
      (start (tradeEdges trades) (componentOf trades) (components (tradeEdges trades)).2)

theorem transferOrder_eq :
    transferOrder lib trades = (List.range trades.length).map (finalTopo lib trades).position := rfl

/-- The components in the order they run. -/
def RunsIn (done : List ℕ) : Prop :=
  Ran (tradeEdges trades) (componentOf trades) (jsonPlace lib trades) trades.length
      (components (tradeEdges trades)).2 (finalTopo lib trades) done ∧
    ∀ c, c ∈ done ↔ c < (components (tradeEdges trades)).2

/-- The trades of the components run, in their order. -/
def tradeOrder (done : List ℕ) : List ℕ :=
  order (tradeEdges trades) (componentOf trades) (jsonPlace lib trades) trades.length done

/-- **Every component runs.** -/
theorem exists_runsIn : ∃ done, RunsIn lib trades done := by
  have hwf := wellFormed_tradeEdges trades
  exact ran_all (fun v hv => (components_spec hwf hv hv).1) hwf (not_transGen_into hwf)

variable {lib trades} {done : List ℕ} {i j : ℕ}

theorem componentOf_lt {node : ℕ} (h : node < (tradeEdges trades).length) :
    componentOf trades node < (components (tradeEdges trades)).2 :=
  (components_spec (wellFormed_tradeEdges trades) h h).1

theorem lt_tradeEdges (hi : i < trades.length) : i < (tradeEdges trades).length :=
  hi.trans_le (length_le_tradeEdges trades)

theorem RunsIn.mem_tradeOrder (h : RunsIn lib trades done) :
    i ∈ tradeOrder lib trades done ↔ i < trades.length := by
  rw [tradeOrder, mem_order, h.2]
  constructor
  · exact fun hi => hi.2.2
  · exact fun hi => ⟨lt_tradeEdges hi, componentOf_lt (lt_tradeEdges hi), hi⟩

/-- Where a trade comes: its component's place in the run, then its own. -/
def tradeRank (lib : Library) (trades : List Trade) (done : List ℕ) (i : ℕ) : ℕ ×ₗ ℕ :=
  toLex (done.idxOf (componentOf trades i), jsonPlace lib trades i)

/-- **The trades run by component, and in the JSON order within one.** -/
theorem RunsIn.pairwise_tradeOrder (h : RunsIn lib trades done) :
    (tradeOrder lib trades done).Pairwise fun i j =>
      tradeRank lib trades done i < tradeRank lib trades done j := by
  rw [tradeOrder, order, List.pairwise_flatMap]
  constructor
  · intro c hc
    have hnodup : (tradesOn (tradeEdges trades) (componentOf trades) (jsonPlace lib trades)
        trades.length c).Nodup := nodup_tradesOn c
    refine ((pairwise_sortBy _ _).and hnodup).imp_of_mem fun {i j} hi hj hij => ?_
    obtain ⟨-, hci, hin⟩ := mem_tradesOn.1 hi
    obtain ⟨-, hcj, -⟩ := mem_tradesOn.1 hj
    refine Prod.Lex.toLex_lt_toLex.2 (.inr ⟨by rw [hci, hcj], ?_⟩)
    exact lt_of_le_of_ne hij.1 fun heq => hij.2 (jsonPlace_inj hin heq)
  · refine (pairwise_idxOf h.1.nodup).imp fun {c d} hcd i hi j hj => ?_
    rw [← (mem_tradesOn.1 hi).2.1, ← (mem_tradesOn.1 hj).2.1] at hcd
    exact Prod.Lex.toLex_lt_toLex.2 (.inl hcd)

theorem RunsIn.nodup_tradeOrder (h : RunsIn lib trades done) :
    (tradeOrder lib trades done).Nodup := by
  refine h.pairwise_tradeOrder.imp fun {i j} hlt => ?_
  rintro rfl
  exact lt_irrefl _ hlt

theorem RunsIn.tradeOrder_perm (h : RunsIn lib trades done) :
    (tradeOrder lib trades done).Perm (List.range trades.length) := by
  refine (List.perm_ext_iff_of_nodup h.nodup_tradeOrder List.nodup_range).2 fun i => ?_
  rw [h.mem_tradeOrder, List.mem_range]

/-- A trade's position is where it stands in the order. -/
theorem RunsIn.position_eq (h : RunsIn lib trades done) (hi : i < trades.length) :
    (finalTopo lib trades).position i = (tradeOrder lib trades done).idxOf i := by
  have hmem := h.mem_tradeOrder.2 hi
  exact h.1.position _ _ (List.getElem?_idxOf hmem)

/-- **A component runs after those that lead into it.** -/
theorem RunsIn.idxOf_lt_of_into (h : RunsIn lib trades done) {c d : ℕ}
    (hinto : Into (tradeEdges trades) (componentOf trades) c d) : done.idxOf c < done.idxOf d := by
  have hd : d ∈ done := by
    obtain ⟨u, v, huv, -, rfl, -⟩ := hinto
    exact (h.2 _).2 (componentOf_lt (wellFormed_tradeEdges trades u v huv))
  obtain ⟨pre, post, hdone⟩ := List.append_of_mem hd
  obtain ⟨⟨-, hnot, hpre⟩, -⟩ := h.1.chosen pre d post hdone
  have hc := hpre c hinto
  rw [hdone, List.idxOf_append_of_mem hc, List.idxOf_append_of_notMem hnot]
  have hlt := List.idxOf_lt_length_iff.2 hc
  omega

/-- **A trade giving a name runs in an earlier component than the one taking it**, or in the
same. -/
theorem RunsIn.idxOf_le_of_givesTo (h : RunsIn lib trades done) (hgives : GivesTo trades i j) :
    done.idxOf (componentOf trades i) ≤ done.idxOf (componentOf trades j) := by
  obtain ⟨x, hix, hxj⟩ := (givesTo_iff_edge hgives.lt.1).1 hgives
  have hstep : ∀ {u v : ℕ}, Edge (tradeEdges trades) u v →
      done.idxOf (componentOf trades u) ≤ done.idxOf (componentOf trades v) := by
    intro u v huv
    by_cases hne : componentOf trades u = componentOf trades v
    · rw [hne]
    · exact (h.idxOf_lt_of_into ⟨u, v, huv, rfl, rfl, hne⟩).le
  exact (hstep hix).trans (hstep hxj)

/-! ## The smallest order -/

/-- No cycle of the give-before-take relation runs through two trades.  A trade that takes a name
it gives is none: it runs at one position. -/
def Acyclic (trades : List Trade) : Prop := ∀ i j, Connected trades i j → i = j

/-- An order of the trades in which each comes after those that give it a name. -/
def Respects (trades : List Trade) (order : List ℕ) : Prop :=
  ∀ i j, GivesTo trades i j → i ≠ j → order.idxOf i < order.idxOf j

theorem priority_of_nil {c : ℕ}
    (h : tradesOn (tradeEdges trades) (componentOf trades) (jsonPlace lib trades) trades.length c =
      []) :
    priority (tradeEdges trades) (componentOf trades) (jsonPlace lib trades) trades.length c =
      toLex (toLex (0, 0), c) := by
  rw [tradesOn, ← List.length_eq_zero_iff, (sortBy_perm _ _).length_eq,
    List.length_eq_zero_iff] at h
  rw [priority, h]
  rfl

theorem priority_of_singleton {c t : ℕ}
    (h : tradesOn (tradeEdges trades) (componentOf trades) (jsonPlace lib trades) trades.length c =
      [t]) :
    priority (tradeEdges trades) (componentOf trades) (jsonPlace lib trades) trades.length c =
      toLex (toLex (1, jsonPlace lib trades t), c) := by
  have hperm := sortBy_perm (jsonPlace lib trades)
    ((members (tradeEdges trades) (componentOf trades) c).filter fun node => node < trades.length)
  rw [tradesOn] at h
  rw [h] at hperm
  rw [priority, ← List.singleton_perm.1 hperm]
  rfl

/-- Without cycles a component holds one trade at most. -/
theorem tradesOn_eq_singleton (hacyclic : Acyclic trades) (hi : i < trades.length) :
    tradesOn (tradeEdges trades) (componentOf trades) (jsonPlace lib trades) trades.length
      (componentOf trades i) = [i] := by
  refine List.perm_singleton.1 ((List.perm_ext_iff_of_nodup (nodup_tradesOn _)
    (List.nodup_singleton i)).2 fun j => ?_)
  rw [mem_tradesOn, List.mem_singleton]
  constructor
  · rintro ⟨-, hcomponent, hj⟩
    exact hacyclic j i ((component_eq_iff hj hi).1 hcomponent)
  · rintro rfl
    exact ⟨lt_tradeEdges hi, rfl, hi⟩

/-- **A trade is ready once those that give to it have run**: a name alone in its component
runs before any trade does. -/
theorem RunsIn.ready (h : RunsIn lib trades done) {pre post : List ℕ} {c t : ℕ}
    (hdone : done = pre ++ c :: post) (hacyclic : Acyclic trades) (ht : t < trades.length)
    (hc : componentOf trades t = c) (hj : j < trades.length) (hnot : componentOf trades j ∉ pre)
    (hbefore : ∀ i, ReflTransGen (GivesTo trades) i j → i ≠ j → componentOf trades i ∈ pre) :
    Ready (tradeEdges trades) (componentOf trades) (components (tradeEdges trades)).2 pre
      (componentOf trades j) := by
  have hwf := wellFormed_tradeEdges trades
  have hmutual : ∀ {u v : ℕ}, u < (tradeEdges trades).length → v < (tradeEdges trades).length →
      (componentOf trades u = componentOf trades v ↔
        Reaches (tradeEdges trades) u v ∧ Reaches (tradeEdges trades) v u) :=
    fun hu hv => (components_spec hwf hu hv).2
  have htrade : ∀ i < trades.length, Reaches (tradeEdges trades) i j →
      componentOf trades i = componentOf trades j ∨ componentOf trades i ∈ pre := by
    intro i hi hreach
    by_cases hij : i = j
    · rw [hij]
      exact .inl rfl
    · exact .inr (hbefore i ((reaches_iff hi hj).1 hreach) hij)
  -- so has every node that reaches it
  have hnode : ∀ u, u < (tradeEdges trades).length → Reaches (tradeEdges trades) u j →
      componentOf trades u = componentOf trades j ∨ componentOf trades u ∈ pre := by
    intro u hu hreach
    by_cases hholds : ∃ i < trades.length, componentOf trades i = componentOf trades u
    · obtain ⟨i, hi, hiu⟩ := hholds
      rw [← hiu]
      exact htrade i hi (((hmutual (lt_tradeEdges hi) hu).1 hiu).1.trans hreach)
    · push Not at hholds
      by_contra hneither
      rw [not_or] at hneither
      -- its component holds no trade, waits for none, and so runs before the one that ran
      have hready : Ready (tradeEdges trades) (componentOf trades)
          (components (tradeEdges trades)).2 pre (componentOf trades u) := by
        refine ⟨componentOf_lt hu, hneither.2, ?_⟩
        rintro d ⟨x, y, hxy, rfl, hy, -⟩
        have hyname : trades.length ≤ y := by
          by_contra hlt
          exact hholds y (not_le.1 hlt) hy
        have hx : x < trades.length := by
          by_contra hge
          exact absurd (lt_of_edge_name (not_lt.1 hge) hxy) (not_lt.2 hyname)
        have hyu := ((hmutual (hwf x y hxy) hu).1 hy).1
        refine (htrade x hx ((ReflTransGen.head hxy hyu).trans hreach)).resolve_left fun heq => ?_
        -- the trade itself would share the component
        have hback := ((hmutual (lt_tradeEdges hx) (lt_tradeEdges hj)).1 heq).2
        exact hholds x hx ((hmutual (lt_tradeEdges hx) hu).2
          ⟨.head hxy hyu, hreach.trans hback⟩)
      have hnil : tradesOn (tradeEdges trades) (componentOf trades) (jsonPlace lib trades)
          trades.length (componentOf trades u) = [] := by
        rw [List.eq_nil_iff_forall_not_mem]
        intro i hi
        obtain ⟨-, hiu, hlt⟩ := mem_tradesOn.1 hi
        exact hholds i hlt hiu
      have hle := (h.1.chosen pre c post hdone).2 _ hready
      rw [priority_of_nil hnil, ← hc, priority_of_singleton (tradesOn_eq_singleton hacyclic ht)]
        at hle
      rcases Prod.Lex.toLex_le_toLex.1 hle with hlt | ⟨heq, -⟩
      · rcases Prod.Lex.toLex_lt_toLex.1 hlt with hlt | ⟨heq, -⟩
        · exact absurd hlt (Nat.not_lt_zero _)
        · exact absurd heq Nat.one_ne_zero
      · simp at heq
  refine ⟨componentOf_lt (lt_tradeEdges hj), hnot, ?_⟩
  rintro d ⟨x, y, hxy, rfl, hy, hne⟩
  have hreach := ((hmutual (hwf x y hxy) (lt_tradeEdges hj)).1 hy).1
  exact (hnode x (lt_of_edge hxy) (.head hxy hreach)).resolve_left hne

/-- In an order that respects the trades, what gives to a trade comes before it. -/
theorem Respects.idxOf_le {other : List ℕ} (h : Respects trades other)
    (hreach : ReflTransGen (GivesTo trades) i j) : other.idxOf i ≤ other.idxOf j := by
  induction hreach with
  | refl => exact le_refl _
  | @tail k j _ hgives ih =>
    by_cases hne : k = j
    · exact hne ▸ ih
    · exact ih.trans (h k j hgives hne).le

/-- **Without cycles, no order that respects the trades is smaller.** -/
theorem RunsIn.smallest (h : RunsIn lib trades done) (hacyclic : Acyclic trades)
    {other : List ℕ} (hperm : other.Perm (List.range trades.length))
    (hrespects : Respects trades other) :
    (tradeOrder lib trades done).map (jsonPlace lib trades) ≤
      other.map (jsonPlace lib trades) := by
  by_contra hlt
  have hmem : ∀ {i}, i ∈ other → i < trades.length := fun hi =>
    List.mem_range.1 (hperm.mem_iff.1 hi)
  have hkey : KeyInjOn (jsonPlace lib trades) (other ++ tradeOrder lib trades done) := by
    intro a ha b _ hab
    refine jsonPlace_inj ?_ hab
    rcases List.mem_append.1 ha with ha | ha
    · exact hmem ha
    · exact h.mem_tradeOrder.1 ha
  obtain ⟨common, j, t, rest, rest', hother, horder, hjt⟩ := exists_first_difference
    (hperm.trans h.tradeOrder_perm.symm).length_eq hkey (not_le.1 hlt)
  have hj : j < trades.length := hmem (by simp [hother])
  have ht : t < trades.length := h.mem_tradeOrder.1 (by simp [horder])
  -- what ran before the component of the trade that ran here
  obtain ⟨pre, post, hdone⟩ := List.append_of_mem ((h.2 _).2 (componentOf_lt (lt_tradeEdges ht)))
  have hpre : tradeOrder lib trades pre = common := by
    have hsplit : tradeOrder lib trades done =
        tradeOrder lib trades pre ++ t :: tradeOrder lib trades post := by
      rw [hdone, tradeOrder, order, List.flatMap_append, List.flatMap_cons,
        tradesOn_eq_singleton hacyclic ht]
      rfl
    have hnodup := h.nodup_tradeOrder
    rw [horder] at hsplit hnodup
    have hcommon : t ∉ common := fun hin =>
      (List.nodup_append.1 hnodup).2.2 t hin t List.mem_cons_self rfl
    have hnodup' := hsplit ▸ hnodup
    have hcommon' : t ∉ tradeOrder lib trades pre := fun hin =>
      (List.nodup_append.1 hnodup').2.2 t hin t List.mem_cons_self rfl
    exact (append_mark_inj hcommon hcommon' hsplit).1.symm
  have hran : ∀ {i}, i ∈ common ↔ i < trades.length ∧ componentOf trades i ∈ pre := by
    intro i
    rw [← hpre, tradeOrder, mem_order]
    constructor
    · exact fun hi => ⟨hi.2.2, hi.2.1⟩
    · exact fun hi => ⟨lt_tradeEdges hi.1, hi.2, hi.1⟩
  have hnodup := hperm.nodup_iff.2 List.nodup_range
  have hjcommon : j ∉ common := fun hin => by
    rw [hother] at hnodup
    exact (List.nodup_append.1 hnodup).2.2 j hin j List.mem_cons_self rfl
  have hready := h.ready hdone hacyclic ht rfl hj (fun hin => hjcommon (hran.2 ⟨hj, hin⟩)) (by
    intro i hreach hij
    have hi : i < trades.length := by
      obtain rfl | ⟨k, hik, -⟩ := ReflTransGen.cases_head hreach
      · exact hj
      · exact hik.lt.1
    have hle := hrespects.idxOf_le hreach
    rw [hother, List.idxOf_append_of_notMem hjcommon, List.idxOf_cons_self, Nat.add_zero] at hle
    by_cases hcommon : i ∈ common
    · exact (hran.1 hcommon).2
    · rw [List.idxOf_append_of_notMem hcommon, List.idxOf_cons_ne _ (Ne.symm hij)] at hle
      omega)
  have hle := (h.1.chosen pre _ post hdone).2 _ hready
  rw [priority_of_singleton (tradesOn_eq_singleton hacyclic ht),
    priority_of_singleton (tradesOn_eq_singleton hacyclic hj)] at hle
  rcases Prod.Lex.toLex_le_toLex.1 hle with hlt' | ⟨heq, -⟩
  · rcases Prod.Lex.toLex_lt_toLex.1 hlt' with hlt' | ⟨-, hlt'⟩
    · exact absurd hlt' (lt_irrefl _)
    · exact absurd hlt' hjt.asymm
  · simp only [EmbeddingLike.apply_eq_iff_eq, Prod.mk.injEq, true_and] at heq
    exact absurd heq hjt.ne'

/-! ## What is promised -/

/-- Where a trade runs. -/
def position (lib : Library) (trades : List Trade) (i : ℕ) : ℕ :=
  (transferOrder lib trades).getD i 0

/-- The trades in the order they run. -/
def runOrder (lib : Library) (trades : List Trade) : List ℕ :=
  (List.range trades.length).map (transferOrder lib trades).idxOf

theorem RunsIn.position (h : RunsIn lib trades done) (hi : i < trades.length) :
    position lib trades i = (tradeOrder lib trades done).idxOf i := by
  rw [Translator.position, transferOrder_eq, ← h.position_eq hi]
  simp [List.getD_eq_getElem?_getD, hi]

/-- **The positions are those of the order.** -/
theorem RunsIn.map_position (h : RunsIn lib trades done) :
    (tradeOrder lib trades done).map (finalTopo lib trades).position =
      List.range trades.length := by
  have hlength : (tradeOrder lib trades done).length = trades.length := by
    rw [h.tradeOrder_perm.length_eq, List.length_range]
  refine List.ext_getElem (by simp [hlength]) fun k hk hk' => ?_
  rw [List.getElem_map, List.getElem_range]
  rw [List.length_map] at hk
  exact h.1.position k _ (List.getElem?_eq_getElem hk)

theorem RunsIn.transferOrder_perm (h : RunsIn lib trades done) :
    (transferOrder lib trades).Perm (List.range trades.length) := by
  have hperm := h.tradeOrder_perm.symm.map (finalTopo lib trades).position
  rwa [h.map_position, ← transferOrder_eq] at hperm

theorem RunsIn.runOrder_eq (h : RunsIn lib trades done) :
    runOrder lib trades = tradeOrder lib trades done := by
  have hlength : (tradeOrder lib trades done).length = trades.length := by
    rw [h.tradeOrder_perm.length_eq, List.length_range]
  refine List.ext_getElem (by simp [runOrder, hlength]) fun k hk hk' => ?_
  have hmem := h.mem_tradeOrder.1 (List.getElem_mem hk')
  have hposition := h.1.position k _ (List.getElem?_eq_getElem hk')
  have hnodup := h.transferOrder_perm.nodup_iff.2 List.nodup_range
  have hlt : (tradeOrder lib trades done)[k] < (transferOrder lib trades).length := by
    simpa using hmem
  have hget : (transferOrder lib trades)[(tradeOrder lib trades done)[k]] = k := by
    simp only [transferOrder_eq, List.getElem_map, List.getElem_range]
    exact hposition
  simp only [runOrder, List.getElem_map, List.getElem_range]
  conv_lhs => rw [← hget]
  exact hnodup.idxOf_getElem _ _

/-- What is promised of the positions of a batch of trades. -/
structure SmallestOrder (lib : Library) (trades : List Trade) : Prop where
  /-- Every position is given once. -/
  perm : (transferOrder lib trades).Perm (List.range trades.length)
  /-- A name is given before it is taken, cycles aside. -/
  gives_first : ∀ i j, GivesTo trades i j → ¬Connected trades i j →
    position lib trades i < position lib trades j
  /-- Nothing runs between two trades of one component. -/
  contiguous : ∀ i j k, i < trades.length → j < trades.length → k < trades.length →
    Connected trades i j → position lib trades i < position lib trades k →
    position lib trades k < position lib trades j → Connected trades i k
  /-- The JSON places follow the JSON texts, the earlier trade first on a tie. -/
  places : ∀ i j, i < trades.length → j < trades.length →
    (jsonPlace lib trades i < jsonPlace lib trades j ↔
      toLex (jsonText lib trades i, i) < toLex (jsonText lib trades j, j))
  /-- Within a component the trades run in the JSON order. -/
  json : ∀ i j, i < trades.length → j < trades.length → Connected trades i j →
    (position lib trades i < position lib trades j ↔
      jsonPlace lib trades i < jsonPlace lib trades j)
  /-- Without cycles the order is the smallest of those that respect the trades. -/
  smallest : Acyclic trades → Respects trades (runOrder lib trades) ∧
    ∀ order, order.Perm (List.range trades.length) → Respects trades order →
      (runOrder lib trades).map (jsonPlace lib trades) ≤ order.map (jsonPlace lib trades)

theorem RunsIn.position_lt_iff (h : RunsIn lib trades done) (hi : i < trades.length)
    (hj : j < trades.length) : Translator.position lib trades i < Translator.position lib trades j ↔
      tradeRank lib trades done i < tradeRank lib trades done j := by
  rw [h.position hi, h.position hj]
  exact idxOf_lt_iff h.pairwise_tradeOrder (h.mem_tradeOrder.2 hi) (h.mem_tradeOrder.2 hj)

theorem RunsIn.position_lt_of_givesTo (h : RunsIn lib trades done) (hgives : GivesTo trades i j)
    (hapart : ¬Connected trades i j) :
    Translator.position lib trades i < Translator.position lib trades j := by
  obtain ⟨hi, hj⟩ := hgives.lt
  rw [h.position_lt_iff hi hj]
  refine Prod.Lex.toLex_lt_toLex.2
    (.inl (lt_of_le_of_ne (h.idxOf_le_of_givesTo hgives) fun heq => ?_))
  have hmem := (h.2 _).2 (componentOf_lt (lt_tradeEdges hi))
  exact hapart ((component_eq_iff hi hj).1 ((List.idxOf_inj hmem).1 heq))

theorem RunsIn.respects (h : RunsIn lib trades done) (hacyclic : Acyclic trades) :
    Respects trades (tradeOrder lib trades done) := by
  intro i j hgives hne
  have hlt := h.position_lt_of_givesTo hgives fun hconnected => hne (hacyclic i j hconnected)
  rwa [h.position hgives.lt.1, h.position hgives.lt.2] at hlt

/-- **`transfer_order` gives the trades the smallest order that gives before it takes.** -/
theorem smallest_transferOrder (lib : Library) (trades : List Trade) :
    SmallestOrder lib trades := by
  obtain ⟨done, h⟩ := exists_runsIn lib trades
  have hsame : ∀ {i j}, i < trades.length → j < trades.length → (Connected trades i j ↔
      done.idxOf (componentOf trades i) = done.idxOf (componentOf trades j)) := by
    intro i j hi hj
    rw [List.idxOf_inj ((h.2 _).2 (componentOf_lt (lt_tradeEdges hi)))]
    exact (component_eq_iff hi hj).symm
  refine ⟨h.transferOrder_perm, fun i j => h.position_lt_of_givesTo, ?_,
    fun i j hi hj => jsonPlace_lt_iff hi hj, ?_, fun hacyclic => ?_⟩
  · intro i j k hi hj hk hconnected hik hkj
    rw [h.position_lt_iff hi hk] at hik
    rw [h.position_lt_iff hk hj] at hkj
    have hle : done.idxOf (componentOf trades i) ≤ done.idxOf (componentOf trades k) :=
      (Prod.Lex.toLex_lt_toLex.1 hik).elim le_of_lt fun heq => le_of_eq heq.1
    have hle' : done.idxOf (componentOf trades k) ≤ done.idxOf (componentOf trades j) :=
      (Prod.Lex.toLex_lt_toLex.1 hkj).elim le_of_lt fun heq => le_of_eq heq.1
    have heq := (hsame hi hj).1 hconnected
    exact (hsame hi hk).2 (by omega)
  · intro i j hi hj hconnected
    have heq := (hsame hi hj).1 hconnected
    rw [h.position_lt_iff hi hj, tradeRank, tradeRank, heq, Prod.Lex.toLex_lt_toLex]
    simp
  · rw [h.runOrder_eq]
    exact ⟨h.respects hacyclic, fun order => h.smallest hacyclic⟩

end Trades

end Translator

end SozuGateway
