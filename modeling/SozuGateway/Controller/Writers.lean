import SozuGateway.Controller.Status

/-!
# Two writers of one status

Instances that own different Gateways write the `status.parents[]` of one route.

* `GatewayScope.Disjoint` — no Gateway is owned by both.
* `filter_isEntryFor_routeParents_eq` — what a pass leaves under each reference: our
  entries where the scope owns it, the current ones elsewhere.
* `eq_of_filter_isEntryFor` — the list is determined by the entries of others and by what
  it holds under each reference.
* `route_parents_commute` — two passes in either order give one list, and each touches
  only entries about the Gateways of its own scope.
-/

set_option autoImplicit false

namespace SozuGateway

namespace Controller

open Lib Builder

/-- No Gateway is owned by both instances. -/
def GatewayScope.Disjoint (a b : GatewayScope) : Prop :=
  ∀ namespace_ name, ¬(a.ownsGateway namespace_ name = true ∧ b.ownsGateway namespace_ name = true)

/-- The reference is to a Gateway this instance owns. -/
def GatewayScope.ownsRef (scope : GatewayScope) (namespace_ : String) (ref : RouteParentRef) :
    Bool :=
  scope.ownsParent namespace_ ref.group ref.kind ref.namespace_ ref.name

theorem RouteParentRef.orderKey_injective : Function.Injective RouteParentRef.orderKey := by
  rintro ⟨group, kind, name, namespace_, port, sectionName⟩
    ⟨group', kind', name', namespace', port', sectionName'⟩ heq
  obtain ⟨hgroup, heq⟩ := Prod.mk.inj (toLex.injective heq)
  obtain ⟨hkind, heq⟩ := Prod.mk.inj (toLex.injective heq)
  obtain ⟨hname, heq⟩ := Prod.mk.inj (toLex.injective heq)
  obtain ⟨hnamespace, heq⟩ := Prod.mk.inj (toLex.injective heq)
  obtain ⟨hport, hsection⟩ := Prod.mk.inj (toLex.injective heq)
  have hinj : Function.Injective Int32.toInt := fun _ _ => Int32.toInt_inj.1
  have hport : port = port' := Option.map_injective hinj hport
  rw [RouteParentRef.mk.injEq]
  exact ⟨hgroup, hkind, hname, hnamespace, hport, hsection⟩

/-- Two disjoint instances never own one reference. -/
theorem GatewayScope.Disjoint.ownsRef_right {a b : GatewayScope} (h : a.Disjoint b)
    {namespace_ : String} {ref : RouteParentRef} (ha : a.ownsRef namespace_ ref = true) :
    b.ownsRef namespace_ ref = false := by
  rw [← Bool.not_eq_true]
  intro hb
  simp only [ownsRef, ownsParent, Bool.and_eq_true] at ha hb
  exact h _ _ ⟨ha.2, hb.2⟩

theorem GatewayScope.Disjoint.symm {a b : GatewayScope} (h : a.Disjoint b) : b.Disjoint a :=
  fun namespace_ name howns => h namespace_ name howns.symm

section Parents

variable [CharTable] {controllerName : String} {generation : Option Int64} {scope : GatewayScope}
  {route : RouteResult} {current : List RouteParentStatus} {now : Time}

omit [CharTable] in
/-- Ownership of an entry is ownership of its reference. -/
theorem ownedParent_of_ref (scope : GatewayScope) (namespace_ : String) {p : RouteParentStatus}
    {ref : RouteParentRef} (h : isEntryFor controllerName ref p = true) :
    p.controllerName = controllerName ∧
      ownedParent scope namespace_ p = scope.ownsRef namespace_ ref := by
  simp only [isEntryFor, Bool.and_eq_true, decide_eq_true_eq] at h
  obtain ⟨hname, rfl⟩ := h
  exact ⟨hname, rfl⟩

omit [CharTable] in
theorem ownsRef_parentRefOf {parent : RouteParentResult} (h : parent ∈ ownedParents scope route) :
    scope.ownsRef route.namespace_ (parentRefOf parent) = true := by
  have howns := (List.mem_filter.1 h).2
  simp [GatewayScope.ownsRef, GatewayScope.ownsParent, parentRefOf, howns]

/-! ## What a pass leaves under each reference -/

/-- A pass writes nothing under a reference its scope does not own. -/
theorem filter_ourEntries_of_not_owned {ref : RouteParentRef}
    (h : scope.ownsRef route.namespace_ ref = false) :
    (ourEntries controllerName generation scope route current now).filter
      (isEntryFor controllerName ref) = [] := by
  rw [List.filter_eq_nil_iff]
  intro p hp hentry
  obtain ⟨parent, hparent, rfl⟩ := List.mem_map.1 hp
  have howns := ownsRef_parentRefOf hparent
  have href : parentRefOf parent = ref := by
    simp only [isEntryFor, parentEntry, decide_true, Bool.true_and] at hentry
    exact of_decide_eq_true hentry
  rw [href, h] at howns
  exact absurd howns (by decide)

omit [CharTable] in
/-- The entries under one reference are in the order of the sort already. -/
theorem sortBy_filter_isEntryFor (ref : RouteParentRef) (l : List RouteParentStatus) :
    sortBy (fun p => p.parentRef.orderKey) (l.filter (isEntryFor controllerName ref)) =
      l.filter (isEntryFor controllerName ref) := by
  apply sortBy_eq_self
  apply List.pairwise_of_forall_mem_list
  intro p hp q hq
  have hpref := (List.mem_filter.1 hp).2
  have hqref := (List.mem_filter.1 hq).2
  simp only [isEntryFor, Bool.and_eq_true, decide_eq_true_eq] at hpref hqref
  rw [hpref.2, hqref.2]

/-- **What a pass leaves under a reference**: ours where the scope owns it, the current
entries in their order elsewhere. -/
theorem filter_isEntryFor_routeParents_eq (ref : RouteParentRef) :
    (routeParents controllerName generation scope route current now).filter
      (isEntryFor controllerName ref) =
        if scope.ownsRef route.namespace_ ref then
          (ourEntries controllerName generation scope route current now).filter
            (isEntryFor controllerName ref)
        else current.filter (isEntryFor controllerName ref) := by
  have hforeign : (foreignEntries controllerName current).filter (isEntryFor controllerName ref) =
      [] := by
    rw [List.filter_eq_nil_iff]
    intro p hp hentry
    have hname := (List.mem_filter.1 hp).2
    simp [(ownedParent_of_ref scope route.namespace_ hentry).1] at hname
  rw [routeParents_eq, List.filter_append, hforeign, List.nil_append, filter_sortBy,
    sortBy_filter_isEntryFor, List.filter_append, siblingEntries, List.filter_filter]
  cases howns : scope.ownsRef route.namespace_ ref with
  | true =>
    have hsibling : current.filter (fun p => isEntryFor controllerName ref p &&
        (p.controllerName = controllerName && !ownedParent scope route.namespace_ p)) = [] := by
      rw [List.filter_eq_nil_iff]
      intro p _ h
      simp only [Bool.and_eq_true] at h
      rw [(ownedParent_of_ref scope route.namespace_ h.1).2, howns] at h
      simp at h
    rw [hsibling, List.nil_append, if_pos rfl]
  | false =>
    rw [filter_ourEntries_of_not_owned howns, List.append_nil, if_neg (by decide)]
    apply List.filter_congr
    intro p _
    cases hentry : isEntryFor controllerName ref p with
    | false => rfl
    | true =>
      obtain ⟨hname, howned⟩ := ownedParent_of_ref scope route.namespace_ hentry
      rw [howned, howns]
      simp [hname]

/-! ## A list is what it holds under each reference -/

/-- The entries of our controller in a pass's output, sorted by reference. -/
theorem exists_sorted_routeParents (controllerName : String) (generation : Option Int64)
    (scope : GatewayScope) (route : RouteResult) (current : List RouteParentStatus) (now : Time) :
    ∃ ours, routeParents controllerName generation scope route current now =
        foreignEntries controllerName current ++ ours ∧
      (∀ p ∈ ours, p.controllerName = controllerName) ∧
      ours.Pairwise fun p q => p.parentRef.orderKey ≤ q.parentRef.orderKey := by
  refine ⟨_, routeParents_eq, ?_, pairwise_sortBy _ _⟩
  intro p hp
  rcases List.mem_append.1 (mem_sortBy.1 hp) with hsibling | hours
  · have hname := (List.mem_filter.1 hsibling).2
    simp only [Bool.and_eq_true, decide_eq_true_eq] at hname
    exact hname.1
  · exact controllerName_of_mem_ourEntries hours

omit [CharTable] in
/-- What a list of one controller holds under a key of the sort. -/
theorem filter_orderKey {ours : List RouteParentStatus}
    (hname : ∀ p ∈ ours, p.controllerName = controllerName) (ref : RouteParentRef) :
    ours.filter (fun p => p.parentRef.orderKey = ref.orderKey) =
      ours.filter (isEntryFor controllerName ref) := by
  apply List.filter_congr
  intro p hp
  simp [isEntryFor, hname p hp, RouteParentRef.orderKey_injective.eq_iff]

/-- **Two outputs with the same entries of others, and the same under every reference, are
equal.** -/
theorem eq_of_filter_isEntryFor {scope' : GatewayScope} {route' : RouteResult}
    {current' : List RouteParentStatus}
    (hforeign : foreignEntries controllerName current = foreignEntries controllerName current')
    (h : ∀ ref,
      (routeParents controllerName generation scope route current now).filter
          (isEntryFor controllerName ref) =
        (routeParents controllerName generation scope' route' current' now).filter
          (isEntryFor controllerName ref)) :
    routeParents controllerName generation scope route current now =
      routeParents controllerName generation scope' route' current' now := by
  obtain ⟨ours, heq, hname, hsorted⟩ :=
    exists_sorted_routeParents controllerName generation scope route current now
  obtain ⟨ours', heq', hname', hsorted'⟩ :=
    exists_sorted_routeParents controllerName generation scope' route' current' now
  have hnone : ∀ ref, (foreignEntries controllerName current').filter
      (isEntryFor controllerName ref) = [] := by
    intro ref
    rw [List.filter_eq_nil_iff]
    intro p hp hentry
    have hother := (List.mem_filter.1 hp).2
    simp only [isEntryFor, Bool.and_eq_true, decide_eq_true_eq] at hentry
    simp [hentry.1] at hother
  have hours : ours = ours' := by
    refine eq_of_filter_key_eq hsorted hsorted' fun k => ?_
    by_cases hk : ∃ ref : RouteParentRef, ref.orderKey = k
    · obtain ⟨ref, rfl⟩ := hk
      have href := h ref
      rw [heq, heq', hforeign, List.filter_append, List.filter_append, hnone, List.nil_append,
        List.nil_append] at href
      rw [filter_orderKey hname, filter_orderKey hname', href]
    · -- no entry is under a key that is no reference's
      have hempty : ∀ l : List RouteParentStatus,
          l.filter (fun p => p.parentRef.orderKey = k) = [] := by
        intro l
        rw [List.filter_eq_nil_iff]
        intro p _ hp
        exact hk ⟨p.parentRef, by simpa using hp⟩
      rw [hempty, hempty]
  rw [heq, heq', hforeign, hours]

/-! ## Two passes -/

/-- An instance writes the same entries before and after a pass of another that owns none
of its Gateways. -/
theorem ourEntries_routeParents {other : GatewayScope} {route' : RouteResult}
    (hdisjoint : scope.Disjoint other) (hns : route.namespace_ = route'.namespace_) :
    ourEntries controllerName generation scope route
      (routeParents controllerName generation other route' current now) now =
        ourEntries controllerName generation scope route current now := by
  apply List.map_congr_left
  intro parent hparent
  have hother : other.ownsRef route'.namespace_ (parentRefOf parent) = false := by
    rw [← hns]
    exact hdisjoint.ownsRef_right (ownsRef_parentRefOf hparent)
  have hfind : (routeParents controllerName generation other route' current now).find?
      (isEntryFor controllerName (parentRefOf parent)) =
        current.find? (isEntryFor controllerName (parentRefOf parent)) := by
    rw [← List.head?_filter, ← List.head?_filter, filter_isEntryFor_routeParents_eq, hother,
      if_neg (by decide)]
  unfold parentEntry
  rw [hfind]

/-- The order of two passes whose scopes are disjoint does not matter. -/
theorem routeParents_comm {a b : GatewayScope} {ra rb : RouteResult} (hdisjoint : a.Disjoint b)
    (hns : ra.namespace_ = rb.namespace_) :
    routeParents controllerName generation b rb
      (routeParents controllerName generation a ra current now) now =
        routeParents controllerName generation a ra
          (routeParents controllerName generation b rb current now) now := by
  apply eq_of_filter_isEntryFor
  · rw [foreignEntries_routeParents, foreignEntries_routeParents]
  · intro ref
    simp only [filter_isEntryFor_routeParents_eq]
    rw [ourEntries_routeParents hdisjoint hns, ourEntries_routeParents hdisjoint.symm hns.symm]
    cases ha : a.ownsRef ra.namespace_ ref with
    | true =>
      have hb : b.ownsRef rb.namespace_ ref = false := hns ▸ hdisjoint.ownsRef_right ha
      simp [hb]
    | false => simp

/-- A pass leaves as many copies of an entry as there were, unless the entry is ours, about
a Gateway of its scope. -/
theorem count_routeParents {p : RouteParentStatus}
    (h : ¬(p.controllerName = controllerName ∧ ownedParent scope route.namespace_ p = true)) :
    (routeParents controllerName generation scope route current now).count p = current.count p := by
  by_cases hname : p.controllerName = controllerName
  · have hentry : isEntryFor controllerName p.parentRef p = true := by simp [isEntryFor, hname]
    have howns : scope.ownsRef route.namespace_ p.parentRef = false := by
      rw [← (ownedParent_of_ref scope route.namespace_ hentry).2, ← Bool.not_eq_true]
      exact fun howned => h ⟨hname, howned⟩
    rw [← List.count_filter hentry, filter_isEntryFor_routeParents_eq, howns, if_neg (by decide),
      List.count_filter hentry]
  · have hforeign : ∀ l : List RouteParentStatus,
        (foreignEntries controllerName l).count p = l.count p := by
      intro l
      exact List.count_filter (by simpa using hname)
    rw [← hforeign, foreignEntries_routeParents, hforeign]

/-- **Status writers of different instances never fight.** Passes of two instances that own
no Gateway in common commute; each pass keeps the entries of other controllers as they are
and in their order, and changes the number of copies of an entry only where its own scope
owns the entry's Gateway. -/
theorem route_parents_commute (controllerName : String) (generation : Option Int64) (now : Time)
    (a b : GatewayScope) (hdisjoint : a.Disjoint b) (ra rb : RouteResult)
    (hroute : ra.namespace_ = rb.namespace_)
    (current : List RouteParentStatus) :
    routeParents controllerName generation b rb
        (routeParents controllerName generation a ra current now) now =
      routeParents controllerName generation a ra
        (routeParents controllerName generation b rb current now) now ∧
    ∀ (scope : GatewayScope) (route : RouteResult) (before : List RouteParentStatus),
      (routeParents controllerName generation scope route before now).filter
          (fun p => p.controllerName ≠ controllerName) =
        before.filter (fun p => p.controllerName ≠ controllerName) ∧
      ∀ p, (routeParents controllerName generation scope route before now).count p ≠
          before.count p →
        p.controllerName = controllerName ∧ ownedParent scope route.namespace_ p = true := by
  refine ⟨routeParents_comm hdisjoint hroute, fun scope route before => ⟨?_, ?_⟩⟩
  · exact foreignEntries_routeParents
  · intro p hcount
    by_contra h
    exact hcount (count_routeParents h)

end Parents

/-! The default instance, and the one of a Gateway it excludes. -/

def defaultScope : GatewayScope := { excludeGateway := [⟨"demo", "two"⟩] }

def twoScope : GatewayScope := { gatewayScope := some ⟨"demo", "two"⟩ }

/-- A route accepted under one Gateway of namespace `demo`. -/
def acceptedUnder (gatewayName : String) : RouteResult where
  kind := .httpRoute
  namespace_ := "demo"
  name := "web"
  uid := none
  parents := [⟨"demo", gatewayName, none, none, true, "Accepted", true, "ResolvedRefs", []⟩]

/-- An entry of the default instance's controller under a reference that leaves out its
namespace, and one of another controller. -/
def writtenBefore : List RouteParentStatus :=
  [⟨[], "sozu.io/gateway-controller", ⟨none, none, "two", none, none, none⟩⟩,
    ⟨[], "example.com/other", ⟨none, none, "two", none, none, none⟩⟩]

attribute [local instance] Sozu.asciiTable in
theorem route_parents_commute_excluded :
    routeParents "sozu.io/gateway-controller" (some 1) twoScope (acceptedUnder "two")
        (routeParents "sozu.io/gateway-controller" (some 1) defaultScope (acceptedUnder "one")
          writtenBefore 5) 5 =
      routeParents "sozu.io/gateway-controller" (some 1) defaultScope (acceptedUnder "one")
        (routeParents "sozu.io/gateway-controller" (some 1) twoScope (acceptedUnder "two")
          writtenBefore 5) 5 ∧
    ∀ (scope : GatewayScope) (route : RouteResult) (before : List RouteParentStatus),
      (routeParents "sozu.io/gateway-controller" (some 1) scope route before 5).filter
          (fun p => p.controllerName ≠ "sozu.io/gateway-controller") =
        before.filter (fun p => p.controllerName ≠ "sozu.io/gateway-controller") ∧
      ∀ p, (routeParents "sozu.io/gateway-controller" (some 1) scope route before 5).count p ≠
          before.count p →
        p.controllerName = "sozu.io/gateway-controller" ∧
          ownedParent scope route.namespace_ p = true := by
  have hdisjoint : defaultScope.Disjoint twoScope := by
    intro namespace_ name h
    simp only [defaultScope, twoScope, GatewayScope.ownsGateway, List.any_cons, List.any_nil,
      Bool.or_false, Bool.false_eq_true, if_false] at h
    rw [Bool.not_eq_true', ← Bool.not_eq_true] at h
    exact h.1 h.2
  exact route_parents_commute _ _ 5 _ _ hdisjoint (acceptedUnder "one") (acceptedUnder "two") rfl
    writtenBefore

end Controller

end SozuGateway
