import SozuGateway.Builder.Provenance

/-!
# What the tables hold

The clusters and the backends a run of emissions leaves, read off the emissions.

* `routes` — the references among the emissions, in order.
* `clusters_tables` — a cluster is the first given for its id, HTTP/2 apart.
* `backends_tables` — so is a backend, where an id tells a reference.
-/

set_option autoImplicit false

namespace SozuGateway

namespace Builder

open Lib

/-! ## Reading emissions -/

/-- The cluster and the backends an emission gives. -/
def Emission.service? : Emission → Option ServiceRoute
  | .service route => some route
  | _ => none

/-- The clusters the emissions give, in order. -/
def routes (l : List Emission) : List ServiceRoute := l.filterMap Emission.service?

theorem mem_routes {l : List Emission} {r : ServiceRoute} : r ∈ routes l ↔ .service r ∈ l := by
  constructor
  · intro h
    obtain ⟨e, he, hservice⟩ := List.mem_filterMap.1 h
    cases e <;> cases hservice
    exact he
  · intro h
    exact List.mem_filterMap.2 ⟨_, h, rfl⟩

theorem routes_append (l : List Emission) (e : Emission) :
    routes (l ++ [e]) = routes l ++ e.service?.toList := by
  rw [routes, List.filterMap_append]
  cases he : e.service? <;> simp [routes, he]

/-! ## The tables -/

section Tables

variable [External]

omit [External] in
theorem getElem?_orInsert {V : Type} (m : BTreeMap String V) (key k : String) (value : V) :
    (Table.orInsert m key value)[k]? = m[k]?.or (if key = k then some value else none) := by
  unfold Table.orInsert
  split
  · rename_i v hv
    by_cases hk : key = k
    · rw [← hk, hv]
      rfl
    · rw [if_neg hk, Option.or_none]
  · rename_i hnone
    rw [BTreeMap.getElem?_insert]
    by_cases hk : key = k
    · rw [if_pos hk, if_pos hk, ← hk, hnone]
      rfl
    · rw [if_neg hk, if_neg hk, Option.or_none]

omit [External] in
theorem getElem?_foldl_orInsert (backends : BTreeMap String Backend) (l : List Backend)
    (id : String) :
    (l.foldl (fun backends b => Table.orInsert backends b.backendId b) backends)[id]? =
      backends[id]?.or (l.find? fun b => b.backendId = id) := by
  induction l generalizing backends with
  | nil => simp
  | cons b l ih =>
      rw [List.foldl_cons, ih, getElem?_orInsert, List.find?_cons, Option.or_assoc]
      congr 1
      by_cases hid : b.backendId = id
      · simp [hid]
      · simp [hid]

/-- The tables a run of emissions leaves. -/
def tables (l : List Emission) : Table := l.foldl Table.apply ⟨∅, ∅⟩

theorem tables_append (l : List Emission) (e : Emission) :
    tables (l ++ [e]) = (tables l).apply e := by
  simp [tables]

omit [External] in
/-- A cluster as a reference gives it: HTTP/2 is asked for later. -/
def withoutHttp2 (c : Cluster) : Cluster := { c with http2 := false }

/-- **A cluster is the first given for its id**, HTTP/2 apart. -/
theorem clusters_tables (l : List Emission) (id : String) :
    (tables l).clusters[id]?.map withoutHttp2 =
      ((routes l).find? fun r => r.cluster.id = id).map fun r => withoutHttp2 r.cluster := by
  induction l using List.reverseRecOn with
  | nil => simp [tables, routes]
  | append_singleton l e ih =>
      rw [tables_append, routes_append, List.find?_append]
      cases e with
      | service r =>
          show ((Table.orInsert (tables l).clusters r.cluster.id r.cluster)[id]?).map _ = _
          rw [getElem?_orInsert, Option.map_or, ih, Option.map_or]
          congr 1
          by_cases hid : r.cluster.id = id
          · simp [Emission.service?, hid]
          · simp [Emission.service?, hid]
      | http2 id' =>
          show ((tables l).clusters.modify id' fun c => { c with http2 := true })[id]?.map _ = _
          rw [BTreeMap.getElem?_modify]
          have hsame : ((tables l).clusters[id]?.map fun c : Cluster =>
              { c with http2 := true }).map withoutHttp2 =
                (tables l).clusters[id]?.map withoutHttp2 := by
            rw [Option.map_map]
            rfl
          by_cases hid : id' = id
          · simpa [Emission.service?, hid] using hsame.trans ih
          · simpa [Emission.service?, hid] using ih
      | _ => simpa [Table.apply, Emission.service?] using ih

omit [External] in
theorem exists_of_withoutHttp2 {c d : Cluster} (h : withoutHttp2 c = withoutHttp2 d) :
    ∃ http2, c = { d with http2 := http2 } := by
  refine ⟨c.http2, ?_⟩
  cases c
  cases d
  simpa [withoutHttp2] using h

/-- A cluster of the tables was given by a reference. -/
theorem exists_of_clusters_tables {l : List Emission} {id : String} {c : Cluster}
    (h : (tables l).clusters[id]? = some c) :
    ∃ r, .service r ∈ l ∧ r.cluster.id = id ∧ ∃ http2, c = { r.cluster with http2 := http2 } := by
  have hfirst := clusters_tables l id
  rw [h] at hfirst
  obtain ⟨r, hr, heq⟩ := Option.map_eq_some_iff.1 hfirst.symm
  exact ⟨r, mem_routes.1 (List.mem_of_find?_eq_some hr), by simpa using List.find?_some hr,
    exists_of_withoutHttp2 heq.symm⟩

/-- **A backend is the first given for its id**, where a cluster's id tells what it was
given with. -/
theorem backends_tables {l : List Emission}
    (hunique : ∀ r ∈ routes l, ∀ r' ∈ routes l, r.cluster.id = r'.cluster.id → r = r')
    (id : String) :
    (tables l).backends[id]? = ((routes l).flatMap fun r =>
      Table.backendsOf r r.cluster.stickySession).find? fun b => b.backendId = id := by
  induction l using List.reverseRecOn with
  | nil => simp [tables, routes]
  | append_singleton l e ih =>
      have hbefore := ih fun r hr r' hr' => hunique r
        (routes_append l e ▸ List.mem_append_left _ hr) r'
        (routes_append l e ▸ List.mem_append_left _ hr')
      cases e with
      | service r =>
          have hr : r ∈ routes (l ++ [.service r]) := mem_routes.2 (by simp)
          have hsticky : ((tables (l ++ [.service r])).clusters[r.cluster.id]?.any
              fun cluster => cluster.stickySession) = r.cluster.stickySession := by
            obtain ⟨first, hfirst⟩ : ∃ first,
                ((routes (l ++ [.service r])).find? fun r' => r'.cluster.id = r.cluster.id) =
                  some first := by
              apply Option.isSome_iff_exists.1
              rw [List.find?_isSome]
              exact ⟨r, hr, by simp⟩
            have hid : first.cluster.id = r.cluster.id := by simpa using List.find?_some hfirst
            obtain rfl := hunique first (List.mem_of_find?_eq_some hfirst) r hr hid
            have hclusters := clusters_tables (l ++ [.service first]) first.cluster.id
            rw [hfirst] at hclusters
            obtain ⟨c, hc, heq⟩ := Option.map_eq_some_iff.1 hclusters
            obtain ⟨http2, rfl⟩ := exists_of_withoutHttp2 heq
            rw [hc]
            rfl
          rw [tables_append] at hsticky ⊢
          show ((Table.backendsOf r _).foldl _ (tables l).backends)[id]? = _
          rw [getElem?_foldl_orInsert, hbefore, routes_append, List.flatMap_append,
            List.find?_append]
          congr 2
          simp only [Emission.service?, Option.toList_some, List.flatMap_cons, List.flatMap_nil,
            List.append_nil]
          exact congrArg (Table.backendsOf r) hsticky
      | _ =>
          rw [tables_append, routes_append]
          simpa [Table.apply, Emission.service?] using hbefore

end Tables

end Builder

end SozuGateway
