import SozuGateway.Translator.TradeGraph

/-!
# The components run in order

The loop of `transfer_order` over the components of any graph.

* `Into` — an edge leads from one component to another.
* `owed` — how many edges into a component come from components not run yet.
* `Ready` — a component whose predecessors have run, and which has not.
* `Ran` — the invariant of the loop: each component was the least of those ready.
* `ran_all` — the loop runs every component, unless they lie on a cycle.
-/

set_option autoImplicit false

namespace SozuGateway

namespace Translator

open Lib Tarjan Relation

/-- An edge leads from one component to another. -/
def Into (edges : Graph) (component : ℕ → ℕ) (c d : ℕ) : Prop :=
  ∃ u v, Edge edges u v ∧ component u = c ∧ component v = d ∧ c ≠ d

section Run

variable (edges : Graph) (component : ℕ → ℕ) (place : ℕ → ℕ) (count : ℕ)

/-- The edges of a node that lead into another component. -/
def crossing (c node : ℕ) : ℕ :=
  (((edges.targets node).filter fun target => component target ≠ component node).map
    component).count c

/-- How many edges into a component come from components not run yet. -/
def owed (done : List ℕ) (c : ℕ) : ℕ :=
  ((List.range edges.length).map fun node =>
    if component node ∈ done then 0 else crossing edges component c node).sum

variable {edges component place count}

theorem entering_eq (c : ℕ) : entering edges component c = owed edges component [] c := by
  simp only [entering, owed, List.map_flatMap, List.count_flatMap, List.not_mem_nil, if_false]
  rfl

theorem mem_leaving {c d : ℕ} : d ∈ leaving edges component c ↔ Into edges component c d := by
  simp only [leaving, members, List.mem_filter, List.mem_map, List.mem_flatMap, List.mem_range,
    decide_eq_true_eq, Into, Edge]
  constructor
  · rintro ⟨⟨v, ⟨u, ⟨-, hu⟩, hv⟩, rfl⟩, hne⟩
    exact ⟨u, v, hv, hu, rfl, Ne.symm hne⟩
  · rintro ⟨u, v, hv, hu, rfl, hne⟩
    exact ⟨⟨v, ⟨u, ⟨lt_of_edge hv, hu⟩, hv⟩, rfl⟩, Ne.symm hne⟩

/-- **Running a component follows the edges that leave it.** -/
theorem owed_append {done : List ℕ} {c : ℕ} (hc : c ∉ done) (d : ℕ) :
    owed edges component done d =
      owed edges component (done ++ [c]) d + (leaving edges component c).count d := by
  have hleaving : (leaving edges component c).count d =
      ((List.range edges.length).map fun node =>
        if component node = c then crossing edges component d node else 0).sum := by
    have hmembers : ∀ nodes : List ℕ,
        (((((nodes.filter fun node => component node = c).flatMap edges.targets).map
          component).filter fun e => e ≠ c).count d) =
        (nodes.map fun node =>
          if component node = c then crossing edges component d node else 0).sum := by
      intro nodes
      induction nodes with
      | nil => rfl
      | cons node nodes ih =>
        by_cases hnode : component node = c
        · rw [List.filter_cons_of_pos (by simpa using hnode), List.flatMap_cons, List.map_append,
            List.filter_append, List.count_append, ih, List.map_cons, List.sum_cons, if_pos hnode,
            crossing, List.filter_map, hnode]
          rfl
        · rw [List.filter_cons_of_neg (by simpa using hnode), ih, List.map_cons, List.sum_cons,
            if_neg hnode, Nat.zero_add]
    exact hmembers _
  rw [hleaving, owed, owed, ← List.sum_map_add]
  congr 1
  refine List.map_congr_left fun node _ => ?_
  simp only [List.mem_append, List.mem_singleton]
  by_cases hnode : component node = c
  · simp [hnode, hc]
  · simp [hnode]

theorem owed_eq_zero_iff {done : List ℕ} {d : ℕ} :
    owed edges component done d = 0 ↔ ∀ c, Into edges component c d → c ∈ done := by
  simp only [owed, List.sum_eq_zero_iff, List.mem_map, List.mem_range, forall_exists_index,
    and_imp, forall_apply_eq_imp_iff₂, ite_eq_left_iff]
  constructor
  · rintro h c ⟨u, v, huv, rfl, rfl, hne⟩
    by_contra hnot
    have hzero := h u (lt_of_edge huv) hnot
    rw [crossing, List.count_eq_zero] at hzero
    exact hzero (List.mem_map.2 ⟨v, List.mem_filter.2 ⟨huv, by simpa using Ne.symm hne⟩, rfl⟩)
  · intro h u hu hnot
    rw [crossing, List.count_eq_zero]
    rintro hmem
    obtain ⟨v, hv, rfl⟩ := List.mem_map.1 hmem
    obtain ⟨huv, hne⟩ := List.mem_filter.1 hv
    have hne : component v ≠ component u := by simpa using hne
    exact hnot (h (component u) ⟨u, v, huv, rfl, rfl, hne.symm⟩)

/-! ## One turn -/

/-- Placing trades gives them the next positions, in order. -/
theorem foldl_place1 (trades : List ℕ) (s : Topo) (hnodup : trades.Nodup) :
    (trades.foldl place1 s).waiting = s.waiting ∧ (trades.foldl place1 s).ready = s.ready ∧
      (trades.foldl place1 s).next = s.next + trades.length ∧
      (∀ t ∉ trades, (trades.foldl place1 s).position t = s.position t) ∧
      ∀ k t, trades[k]? = some t → (trades.foldl place1 s).position t = s.next + k := by
  induction trades generalizing s with
  | nil => exact ⟨rfl, rfl, rfl, fun _ _ => rfl, fun k t hk => by simp at hk⟩
  | cons trade trades ih =>
    rw [List.nodup_cons] at hnodup
    obtain ⟨hwaiting, hready, hnext, hothers, hposition⟩ := ih (place1 s trade) hnodup.2
    refine ⟨hwaiting, hready, ?_, fun t ht => ?_, fun k t hk => ?_⟩
    · rw [List.foldl_cons, hnext, List.length_cons]
      show s.next + 1 + trades.length = _
      omega
    · rw [List.mem_cons, not_or] at ht
      rw [List.foldl_cons, hothers t ht.2]
      exact Function.update_of_ne ht.1 _ _
    · cases k with
      | zero =>
        obtain rfl : trade = t := by simpa using hk
        rw [List.foldl_cons, hothers trade hnodup.1]
        exact Function.update_self _ _ _
      | succ k =>
        rw [List.foldl_cons, hposition k t (by simpa using hk)]
        show s.next + 1 + k = _
        omega

/-- **Following edges brings the counts down, and makes ready what waits for none.** -/
theorem foldl_release (targets : List ℕ) (s : Topo)
    (hcount : ∀ d, targets.count d ≤ s.waiting d) :
    (targets.foldl release s).position = s.position ∧ (targets.foldl release s).next = s.next ∧
      (∀ d, (targets.foldl release s).waiting d = s.waiting d - targets.count d) ∧
      ∃ new : List ℕ, (targets.foldl release s).ready = new ++ s.ready ∧ new.Nodup ∧
        ∀ d, d ∈ new ↔ d ∈ targets ∧ s.waiting d = targets.count d := by
  induction targets generalizing s with
  | nil => exact ⟨rfl, rfl, fun d => by simp, [], rfl, .nil, fun d => by simp⟩
  | cons c targets ih =>
    have hwaiting : ∀ d, (release s c).waiting d = s.waiting d - if c = d then 1 else 0 := by
      intro d
      show Function.update s.waiting c (s.waiting c - 1) d = _
      by_cases hd : c = d
      · subst hd
        simp
      · simp [hd, Ne.symm hd]
    have hcons : ∀ d, (c :: targets).count d = targets.count d + if c = d then 1 else 0 := by
      intro d
      rw [List.count_cons]
      simp
    have hle : ∀ d, targets.count d ≤ (release s c).waiting d := by
      intro d
      have hd := hcount d
      rw [hcons] at hd
      rw [hwaiting]
      omega
    obtain ⟨hposition, hnext, hwait, new, hready, hnodup, hnew⟩ := ih (release s c) hle
    refine ⟨hposition, hnext, fun d => ?_, ?_⟩
    · rw [List.foldl_cons, hwait, hwaiting, hcons]
      omega
    · have hc := hcount c
      rw [hcons, if_pos rfl] at hc
      by_cases hlast : s.waiting c - 1 = 0
      · have hnone : targets.count c = 0 := by omega
        have hnotmem : c ∉ targets := List.count_eq_zero.1 hnone
        refine ⟨new ++ [c], ?_, ?_, fun d => ?_⟩
        · rw [List.foldl_cons, hready]
          simp [release, hlast]
        · refine List.nodup_append.2 ⟨hnodup, List.nodup_singleton _, fun a ha b hb => ?_⟩
          rw [List.mem_singleton] at hb
          subst hb
          rintro rfl
          exact hnotmem ((hnew a).1 ha).1
        · rw [List.mem_append, List.mem_singleton, hnew, hwaiting, hcons, List.mem_cons]
          by_cases hd : c = d
          · subst hd
            rw [if_pos rfl]
            have hwaits : s.waiting c = targets.count c + 1 := by omega
            simp [hwaits]
          · simp [hd, Ne.symm hd]
      · refine ⟨new, ?_, hnodup, fun d => ?_⟩
        · rw [List.foldl_cons, hready]
          simp [release, hlast]
        · rw [hnew, hwaiting, hcons, List.mem_cons]
          by_cases hd : c = d
          · subst hd
            rw [if_pos rfl]
            constructor
            · rintro ⟨hmem, heq⟩
              exact ⟨.inl rfl, by omega⟩
            · rintro ⟨-, heq⟩
              have hpos : 0 < targets.count c := by omega
              exact ⟨List.count_pos_iff.1 hpos, by omega⟩
          · simp [hd, Ne.symm hd]

/-! ## The whole run -/

variable (edges component place count) (total : ℕ)

/-- A component whose predecessors have run, and which has not. -/
def Ready (done : List ℕ) (c : ℕ) : Prop :=
  c < total ∧ c ∉ done ∧ ∀ d, Into edges component d c → d ∈ done

/-- The trades of the components run, in the order they were placed. -/
def order (done : List ℕ) : List ℕ := done.flatMap (tradesOn edges component place count)

/-- **What holds once some components have run: each was the least of those ready.** -/
structure Ran (s : Topo) (done : List ℕ) : Prop where
  nodup : done.Nodup
  waiting : ∀ d ∉ done, s.waiting d = owed edges component done d
  ready_nodup : s.ready.Nodup
  ready : ∀ d, d ∈ s.ready ↔ Ready edges component total done d
  next : s.next = (order edges component place count done).length
  position : ∀ k t, (order edges component place count done)[k]? = some t → s.position t = k
  chosen : ∀ pre c post, done = pre ++ c :: post → Ready edges component total pre c ∧
    ∀ d, Ready edges component total pre d →
      priority edges component place count c ≤ priority edges component place count d

variable {edges component place count total}

theorem mem_tradesOn {c t : ℕ} : t ∈ tradesOn edges component place count c ↔
    t < edges.length ∧ component t = c ∧ t < count := by
  simp only [tradesOn, mem_sortBy, members, List.mem_filter, List.mem_range, decide_eq_true_eq,
    and_assoc]

theorem nodup_tradesOn (c : ℕ) : (tradesOn edges component place count c).Nodup :=
  nodup_sortBy.2 ((List.nodup_range.filter _).filter _)

theorem mem_order {done : List ℕ} {t : ℕ} : t ∈ order edges component place count done ↔
    t < edges.length ∧ component t ∈ done ∧ t < count := by
  simp only [order, List.mem_flatMap, mem_tradesOn]
  constructor
  · rintro ⟨c, hc, hlt, rfl, hcount⟩
    exact ⟨hlt, hc, hcount⟩
  · rintro ⟨hlt, hc, hcount⟩
    exact ⟨component t, hc, hlt, rfl, hcount⟩

/-- What is ready in the beginning waits for no edge. -/
theorem ran_start :
    Ran edges component place count total (start edges component total) [] where
  nodup := .nil
  waiting d _ := entering_eq d
  ready_nodup := List.nodup_range.filter _
  ready d := by
    simp [start, Ready, entering_eq, owed_eq_zero_iff]
  next := rfl
  position k t hk := by simp [order] at hk
  chosen pre c post h := by simp at h

section Step

variable {s : Topo} {done : List ℕ}

theorem Ran.lt (h : Ran edges component place count total s done) {c : ℕ} (hc : c ∈ done) :
    c < total := by
  obtain ⟨pre, post, rfl⟩ := List.append_of_mem hc
  exact (h.chosen pre c post rfl).1.1

/-- What leads into a component that has run, has run. -/
theorem Ran.closed (h : Ran edges component place count total s done) {c d : ℕ} (hc : c ∈ done)
    (hinto : Into edges component d c) : d ∈ done := by
  obtain ⟨pre, post, rfl⟩ := List.append_of_mem hc
  exact List.mem_append_left _ ((h.chosen pre c post rfl).1.2.2 d hinto)

/-! ## A turn -/

variable (edges component place count total) in
/-- The component a turn takes is the least of those ready; the others are left. -/
structure Picked (s : Topo) (done : List ℕ) (c : ℕ) (rest : List ℕ) : Prop where
  sorted : sortBy (priority edges component place count) s.ready = c :: rest
  ready : Ready edges component total done c
  rest_nodup : rest.Nodup
  mem_rest : ∀ d, d ∈ rest ↔ d ≠ c ∧ Ready edges component total done d
  least : ∀ d, Ready edges component total done d →
    priority edges component place count c ≤ priority edges component place count d

theorem Ran.exists_picked (h : Ran edges component place count total s done)
    (hsome : ∃ c, Ready edges component total done c) :
    ∃ c rest, Picked edges component place count total s done c rest := by
  obtain ⟨c, rest, hsort⟩ : ∃ c rest,
      sortBy (priority edges component place count) s.ready = c :: rest := by
    obtain ⟨c, hc⟩ := hsome
    have hmem : c ∈ sortBy (priority edges component place count) s.ready :=
      mem_sortBy.2 ((h.ready c).2 hc)
    exact List.exists_cons_of_ne_nil (List.ne_nil_of_mem hmem)
  have hperm := sortBy_perm (priority edges component place count) s.ready
  have hsorted := pairwise_sortBy (priority edges component place count) s.ready
  rw [hsort] at hperm hsorted
  have hnodup := hperm.nodup_iff.2 h.ready_nodup
  rw [List.nodup_cons] at hnodup
  have hrest : ∀ d, d ∈ rest ↔ d ≠ c ∧ Ready edges component total done d := by
    intro d
    rw [← h.ready d, ← hperm.mem_iff, List.mem_cons]
    constructor
    · exact fun hd => ⟨fun heq => hnodup.1 (heq ▸ hd), .inr hd⟩
    · exact fun hd => hd.2.resolve_left hd.1
  refine ⟨c, rest, hsort, (h.ready c).1 (hperm.mem_iff.1 List.mem_cons_self), hnodup.2, hrest,
    fun d hd => ?_⟩
  by_cases heq : d = c
  · rw [heq]
  · exact (List.pairwise_cons.1 hsorted).1 d ((hrest d).2 ⟨heq, hd⟩)

/-- What leaves a component that is ready leads to components that wait for it. -/
theorem Ran.of_leaving (h : Ran edges component place count total s done)
    (hlt : ∀ v < edges.length, component v < total) (hwf : edges.WellFormed) {c : ℕ}
    (hc : Ready edges component total done c) {d : ℕ} (hd : d ∈ leaving edges component c) :
    d < total ∧ d ∉ done ∧ d ≠ c := by
  have hinto := mem_leaving.1 hd
  refine ⟨?_, fun hdone => hc.2.1 (h.closed hdone hinto), ?_⟩
  · obtain ⟨u, v, huv, -, rfl, -⟩ := hinto
    exact hlt v (hwf u v huv)
  · obtain ⟨-, -, -, -, -, hne⟩ := hinto
    exact hne.symm

variable (edges component place count) in
/-- What a turn that takes `c` does to the state. -/
structure Turned (s s' : Topo) (c : ℕ) (rest : List ℕ) : Prop where
  waiting : ∀ d, s'.waiting d = s.waiting d - (leaving edges component c).count d
  ready : ∃ new, s'.ready = new ++ rest ∧ new.Nodup ∧ ∀ d, d ∈ new ↔
    d ∈ leaving edges component c ∧ s.waiting d = (leaving edges component c).count d
  next : s'.next = s.next + (tradesOn edges component place count c).length
  kept : ∀ t ∉ tradesOn edges component place count c, s'.position t = s.position t
  placed : ∀ k t, (tradesOn edges component place count c)[k]? = some t →
    s'.position t = s.next + k

theorem Ran.turned (h : Ran edges component place count total s done)
    (hlt : ∀ v < edges.length, component v < total) (hwf : edges.WellFormed) {c : ℕ}
    {rest : List ℕ} (hp : Picked edges component place count total s done c rest) :
    Turned edges component place count s (runNext edges component place count s) c rest := by
  obtain ⟨hwaiting, hready, hnext, hothers, hposition⟩ :=
    foldl_place1 (tradesOn edges component place count c) { s with ready := rest }
      (nodup_tradesOn c)
  have hcount : ∀ d, (leaving edges component c).count d ≤
      ((tradesOn edges component place count c).foldl place1
        { s with ready := rest }).waiting d := by
    intro d
    rw [hwaiting]
    by_cases hd : d ∈ leaving edges component c
    · show _ ≤ s.waiting d
      rw [h.waiting d (h.of_leaving hlt hwf hp.ready hd).2.1, owed_append hp.ready.2.1 d]
      omega
    · rw [List.count_eq_zero.2 hd]
      exact Nat.zero_le _
  obtain ⟨hposition', hnext', hwaiting', new, hready', hnodup, hnew⟩ :=
    foldl_release (leaving edges component c) _ hcount
  rw [hwaiting] at hwaiting' hnew
  rw [hready] at hready'
  have hrun : runNext edges component place count s =
      (leaving edges component c).foldl release
        ((tradesOn edges component place count c).foldl place1 { s with ready := rest }) := by
    simp only [runNext, hp.sorted]
  rw [hrun]
  exact ⟨hwaiting', ⟨new, hready', hnodup, hnew⟩, hnext'.trans hnext,
    fun t ht => (congrFun hposition' t).trans (hothers t ht),
    fun k t hk => (congrFun hposition' t).trans (hposition k t hk)⟩

/-- What is ready after a turn was ready before, or waited for the component taken alone. -/
theorem Ran.ready_append (h : Ran edges component place count total s done)
    (hlt : ∀ v < edges.length, component v < total) (hwf : edges.WellFormed) {c : ℕ}
    (hc : Ready edges component total done c) {d : ℕ} :
    Ready edges component total (done ++ [c]) d ↔
      (d ∈ leaving edges component c ∧ s.waiting d = (leaving edges component c).count d) ∨
        d ≠ c ∧ Ready edges component total done d := by
  constructor
  · rintro ⟨htotal, hnot, hinto⟩
    rw [List.mem_append, List.mem_singleton, not_or] at hnot
    have howed : owed edges component done d =
        owed edges component (done ++ [c]) d + (leaving edges component c).count d :=
      owed_append hc.2.1 d
    rw [owed_eq_zero_iff.2 hinto, Nat.zero_add] at howed
    by_cases hleave : d ∈ leaving edges component c
    · exact .inl ⟨hleave, by rw [h.waiting d hnot.1, howed]⟩
    · rw [List.count_eq_zero.2 hleave] at howed
      exact .inr ⟨hnot.2, htotal, hnot.1, owed_eq_zero_iff.1 howed⟩
  · rintro (⟨hleave, hwait⟩ | ⟨hd, htotal, hnot, hinto⟩)
    · obtain ⟨htotal, hnot, hd⟩ := h.of_leaving hlt hwf hc hleave
      rw [h.waiting d hnot, owed_append hc.2.1 d] at hwait
      exact ⟨htotal, by simp [hnot, hd], owed_eq_zero_iff.1 (by omega)⟩
    · exact ⟨htotal, by simp [hnot, hd], fun e he => List.mem_append_left _ (hinto e he)⟩

/-- A component made ready was not ready before. -/
theorem Ran.not_ready_of_waits (h : Ran edges component place count total s done)
    (hlt : ∀ v < edges.length, component v < total) (hwf : edges.WellFormed) {c : ℕ}
    (hc : Ready edges component total done c) {d : ℕ} (hleave : d ∈ leaving edges component c)
    (hwait : s.waiting d = (leaving edges component c).count d) :
    ¬Ready edges component total done d := by
  intro hready
  have hzero := owed_eq_zero_iff.2 hready.2.2
  have hpos := List.count_pos_iff.2 hleave
  rw [h.waiting d (h.of_leaving hlt hwf hc hleave).2.1] at hwait
  omega

/-- The trades of the component taken are placed after the others. -/
theorem Ran.position_append {s' : Topo} {c : ℕ} {rest : List ℕ}
    (h : Ran edges component place count total s done)
    (hc : Ready edges component total done c)
    (ht : Turned edges component place count s s' c rest) {k t : ℕ}
    (hk : (order edges component place count (done ++ [c]))[k]? = some t) :
    s'.position t = k := by
  have happend : order edges component place count (done ++ [c]) =
      order edges component place count done ++ tradesOn edges component place count c := by
    simp [order]
  rw [happend] at hk
  rcases lt_or_ge k (order edges component place count done).length with hklt | hkge
  · rw [List.getElem?_append_left hklt] at hk
    rw [ht.kept t fun hmem => ?_]
    · exact h.position k t hk
    · have hdone := (mem_order.1 (List.mem_of_getElem? hk)).2.1
      rw [(mem_tradesOn.1 hmem).2.1] at hdone
      exact hc.2.1 hdone
  · rw [List.getElem?_append_right hkge] at hk
    rw [ht.placed _ t hk, h.next]
    omega

/-- A list with one more at the end is split there, or before. -/
theorem append_singleton_eq {α : Type*} {done pre post : List α} {c e : α}
    (h : done ++ [c] = pre ++ e :: post) :
    done = pre ∧ c = e ∨ ∃ post', done = pre ++ e :: post' := by
  rcases List.eq_nil_or_concat post with rfl | ⟨post', d, rfl⟩
  · obtain ⟨hpre, he⟩ := List.append_inj' h rfl
    exact .inl ⟨hpre, List.cons.inj he |>.1⟩
  · rw [List.concat_eq_append, ← List.cons_append, ← List.append_assoc] at h
    exact .inr ⟨post', (List.append_inj' h rfl).1⟩

/-- **A turn of the loop runs the least component of those ready.** -/
theorem Ran.step (h : Ran edges component place count total s done)
    (hlt : ∀ v < edges.length, component v < total) (hwf : edges.WellFormed)
    (hsome : ∃ c, Ready edges component total done c) :
    ∃ c, Ran edges component place count total (runNext edges component place count s)
      (done ++ [c]) := by
  obtain ⟨c, rest, hp⟩ := h.exists_picked hsome
  have ht := h.turned hlt hwf hp
  obtain ⟨new, hready, hnewnodup, hnew⟩ := ht.ready
  refine ⟨c, ?_, fun d hd => ?_, ?_, fun d => ?_, ?_,
    fun k t hk => h.position_append hp.ready ht hk,
    fun pre e post hdone => ?_⟩
  · exact List.nodup_append.2 ⟨h.nodup, List.nodup_singleton c, fun a ha b hb hab =>
      hp.ready.2.1 (List.mem_singleton.1 hb ▸ hab ▸ ha)⟩
  · rw [List.mem_append, List.mem_singleton, not_or] at hd
    rw [ht.waiting d, h.waiting d hd.1, owed_append hp.ready.2.1 d]
    omega
  · rw [hready]
    refine List.nodup_append.2 ⟨hnewnodup, hp.rest_nodup, fun a ha b hb hab => ?_⟩
    obtain ⟨hleave, hwait⟩ := (hnew a).1 ha
    exact h.not_ready_of_waits hlt hwf hp.ready hleave hwait ((hp.mem_rest a).1 (hab ▸ hb)).2
  · rw [hready, List.mem_append, hnew, hp.mem_rest, h.ready_append hlt hwf hp.ready]
  · rw [ht.next, h.next]
    simp [order]
  · rcases append_singleton_eq hdone with ⟨rfl, rfl⟩ | ⟨post', rfl⟩
    · exact ⟨hp.ready, hp.least⟩
    · exact h.chosen pre e post' rfl

/-- **Some component is ready as long as not all have run**, unless they lie on a cycle. -/
theorem exists_ready (hlt : ∀ v < edges.length, component v < total)
    (hacyclic : ∀ c, ¬TransGen (Into edges component) c c) (hleft : ∃ c < total, c ∉ done) :
    ∃ c, Ready edges component total done c := by
  have htrans : IsTrans (Fin total) fun a b => TransGen (Into edges component) a.1 b.1 :=
    ⟨fun _ _ _ hab hbc => hab.trans hbc⟩
  have hirrefl : Std.Irrefl fun a b : Fin total => TransGen (Into edges component) a.1 b.1 :=
    ⟨fun a => hacyclic a.1⟩
  have hwell : WellFounded fun a b : Fin total => TransGen (Into edges component) a.1 b.1 :=
    Finite.wellFounded_of_trans_of_irrefl _
  obtain ⟨c, hc, hnot⟩ := hleft
  obtain ⟨least, hleast, hmin⟩ := hwell.has_min { a | a.1 ∉ done } ⟨⟨c, hc⟩, hnot⟩
  refine ⟨least.1, least.2, hleast, fun d hd => ?_⟩
  by_contra hdone
  have hdlt : d < total := by
    obtain ⟨u, v, huv, rfl, -, -⟩ := hd
    exact hlt u (lt_of_edge huv)
  exact hmin ⟨d, hdlt⟩ hdone (.single hd)

end Step

/-- **The loop runs every component**, unless they lie on a cycle. -/
theorem ran_all (hlt : ∀ v < edges.length, component v < total) (hwf : edges.WellFormed)
    (hacyclic : ∀ c, ¬TransGen (Into edges component) c c) :
    ∃ done, Ran edges component place count total
      ((runNext edges component place count)^[total] (start edges component total)) done ∧
        ∀ c, c ∈ done ↔ c < total := by
  have hturns : ∀ turns ≤ total, ∃ done, done.length = turns ∧
      Ran edges component place count total
        ((runNext edges component place count)^[turns] (start edges component total)) done := by
    intro turns
    induction turns with
    | zero => exact fun _ => ⟨[], rfl, ran_start⟩
    | succ turns ih =>
      intro hle
      obtain ⟨done, hlength, hran⟩ := ih (by omega)
      have hleft : ∃ c < total, c ∉ done := by
        by_contra hnone
        push Not at hnone
        have hsubset : List.range total ⊆ done := fun c hc => hnone c (List.mem_range.1 hc)
        have hlen := (List.nodup_range.subperm hsubset).length_le
        rw [List.length_range] at hlen
        omega
      obtain ⟨c, hstep⟩ := hran.step hlt hwf (exists_ready hlt hacyclic hleft)
      rw [Function.iterate_succ_apply']
      exact ⟨done ++ [c], by simp [hlength], hstep⟩
  obtain ⟨done, hlength, hran⟩ := hturns total le_rfl
  refine ⟨done, hran, fun c => ⟨hran.lt, fun hc => ?_⟩⟩
  have hsubset : done ⊆ List.range total := fun d hd => List.mem_range.2 (hran.lt hd)
  have hperm : done.Perm (List.range total) :=
    (hran.nodup.subperm hsubset).perm_of_length_le (by simp [hlength])
  exact hperm.mem_iff.2 (List.mem_range.2 hc)

end Run

end Translator

end SozuGateway
