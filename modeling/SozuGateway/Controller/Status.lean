import SozuGateway.Builder.Build
import SozuGateway.Builder.Display
import SozuGateway.Lib.StableSort

/-!
# Route status

`route_parents` of `crates/controller/src/status.rs`: the `status.parents[]` we want on a
route, and `crates/controller/src/scope.rs`: the Gateways an instance owns.

* `GatewayScope` — the Gateways an instance owns.
* `problemsMessage`, `Desired`, `buildConditions` — conditions, which keep their timestamp
  while nothing else of them changes.
* `routeParents` — our entries beside those of others.
* `route_parents_fixed_iff` — applying it to its own output changes nothing exactly when
  the parents that share an identity report the same.
-/

set_option autoImplicit false

namespace SozuGateway

namespace Controller

open Lib Builder

/-! ## Scope -/

structure GatewayId where
  namespace_ : String
  name : String
  deriving DecidableEq, Repr

/-- The Gateways an instance owns. -/
structure GatewayScope where
  /-- Serve Ingress only. -/
  ingressOnly : Bool := false
  /-- Own only this Gateway. -/
  gatewayScope : Option GatewayId := none
  /-- Gateways owned by separate instances. -/
  excludeGateway : List GatewayId := []
  deriving DecidableEq, Repr

namespace GatewayScope

def ownsGateway (scope : GatewayScope) (namespace_ name : String) : Bool :=
  let isIt (gateway : GatewayId) : Bool := gateway.namespace_ = namespace_ && gateway.name = name
  if scope.ingressOnly then false
  else
    match scope.gatewayScope with
    | some gateway => isIt gateway
    | none => !scope.excludeGateway.any isIt

def ownsParent (scope : GatewayScope) (routeNamespace : String)
    (group kind namespace_ : Option String) (name : String) : Bool :=
  group.getD gwGroup = gwGroup && kind.getD "Gateway" = "Gateway" &&
    scope.ownsGateway (namespace_.getD routeNamespace) name

end GatewayScope

/-! ## Conditions -/

/-- A clock reading. -/
abbrev Time := ℤ

structure Condition where
  type_ : String
  status : String
  reason : String
  message : String
  lastTransitionTime : Time
  observedGeneration : Option Int64
  deriving DecidableEq, Repr

/-- One desired condition before timestamping. -/
structure Desired where
  type_ : String
  status : Bool
  reason : String
  message : String
  deriving DecidableEq, Repr

/-- The spelling of a condition's status. -/
def statusText (status : Bool) : String := if status then "True" else "False"

/-- The condition already says what is desired. -/
def Condition.states (c : Condition) (d : Desired) : Bool :=
  c.status = statusText d.status && c.reason = d.reason && c.message = d.message

/-- Build one condition, reusing the time of a previous one that says the same. -/
def buildCondition (current : Option (List Condition)) (generation : Option Int64) (now : Time)
    (d : Desired) : Condition where
  type_ := d.type_
  status := statusText d.status
  reason := d.reason
  message := d.message
  lastTransitionTime :=
    match current.bind fun cs => cs.find? fun c => c.type_ = d.type_ with
    | some p => if p.states d then p.lastTransitionTime else now
    | none => now
  observedGeneration := generation

/-- Build conditions, reusing the previous times where nothing observable changed. -/
def buildConditions (desired : List Desired) (current : Option (List Condition))
    (generation : Option Int64) (now : Time) : List Condition :=
  desired.map (buildCondition current generation now)

/-! ## Parents -/

/-- Which parent an entry is about, as the whole reference. -/
structure RouteParentRef where
  group : Option String
  kind : Option String
  name : String
  namespace_ : Option String
  port : Option Int32
  sectionName : Option String
  deriving DecidableEq, Repr

/-- The fields of a reference, in the order the derived comparison reads them. -/
def RouteParentRef.orderKey (r : RouteParentRef) :
    WithBot String ×ₗ (WithBot String ×ₗ (String ×ₗ (WithBot String ×ₗ
      (WithBot ℤ ×ₗ WithBot String)))) :=
  toLex (r.group, toLex (r.kind, toLex (r.name, toLex (r.namespace_,
    toLex (r.port.map Int32.toInt, r.sectionName)))))

/-- One entry of `status.parents[]`. -/
structure RouteParentStatus where
  conditions : List Condition
  controllerName : String
  parentRef : RouteParentRef
  deriving DecidableEq, Repr

/-- The reference our entry for a parent carries. -/
def parentRefOf (parent : RouteParentResult) : RouteParentRef where
  group := some gwGroup
  kind := some "Gateway"
  name := parent.gatewayName
  namespace_ := some parent.gatewayNamespace
  port := parent.port
  sectionName := parent.sectionName

/-- The entry is about a Gateway this instance owns. -/
def ownedParent (scope : GatewayScope) (namespace_ : String) (parent : RouteParentStatus) : Bool :=
  scope.ownsParent namespace_ parent.parentRef.group parent.parentRef.kind
    parent.parentRef.namespace_ parent.parentRef.name

def isL4RouteConflict : Problem → Bool
  | .l4RouteConflict _ _ _ => true
  | _ => false

section Parents

variable [CharTable]

/-- A condition message from problem details: sorted, each once, the first five. -/
def problemsMessage (problems : List Problem) (fallback : String) : String :=
  if problems = [] then fallback
  else
    let lines := BTreeSet.sortedDedup (problems.map Problem.display)
    let shown := "; ".intercalate (lines.take 5)
    if 5 < lines.length then shown ++ " (+" ++ natText (lines.length - 5) ++ " more)" else shown

/-- The conditions a parent asks for. -/
def desiredOf (parent : RouteParentResult) : List Desired :=
  [{ type_ := "Accepted"
     status := parent.accepted
     reason := parent.acceptedReason
     message :=
       if parent.accepted then
         problemsMessage (parent.problems.filter isL4RouteConflict) "Route accepted by sozu-gateway"
       else problemsMessage parent.problems "Route does not bind to this parent" },
    { type_ := "ResolvedRefs"
      status := parent.resolvedRefs
      reason := parent.resolvedRefsReason
      message :=
        if parent.resolvedRefs then "All backend references resolved"
        else problemsMessage parent.problems
          "One or more backend references could not be resolved" }]

/-- The parents of a route that an instance owns. -/
def ownedParents (scope : GatewayScope) (route : RouteResult) : List RouteParentResult :=
  route.parents.filter fun p => scope.ownsGateway p.gatewayNamespace p.gatewayName

variable (controllerName : String) (generation : Option Int64)

/-- The entry is ours, about this parent. -/
def isEntryFor (ref : RouteParentRef) (p : RouteParentStatus) : Bool :=
  p.controllerName = controllerName && p.parentRef = ref

/-- Our entry for one parent. -/
def parentEntry (current : List RouteParentStatus) (now : Time) (parent : RouteParentResult) :
    RouteParentStatus where
  conditions := buildConditions (desiredOf parent)
    ((current.find? (isEntryFor controllerName (parentRefOf parent))).map
      RouteParentStatus.conditions) generation now
  controllerName := controllerName
  parentRef := parentRefOf parent

/-- The `status.parents[]` we want on a route: the entries of others as they are, then
the ones of our controller in order. -/
def routeParents (scope : GatewayScope) (route : RouteResult) (current : List RouteParentStatus)
    (now : Time) : List RouteParentStatus :=
  let kept := current.filter fun p =>
    p.controllerName ≠ controllerName || !ownedParent scope route.namespace_ p
  let parents := kept ++
    (ownedParents scope route).map (parentEntry controllerName generation current now)
  (parents.filter fun p => p.controllerName ≠ controllerName) ++
    sortBy (fun p => p.parentRef.orderKey)
      (parents.filter fun p => p.controllerName = controllerName)

/-! ## A second pass -/

section Passes

variable {controllerName generation} {scope : GatewayScope} {route : RouteResult}
  {current : List RouteParentStatus} {now : Time}

/-- The entries of other controllers. -/
def foreignEntries (controllerName : String) (current : List RouteParentStatus) :
    List RouteParentStatus := current.filter fun p => p.controllerName ≠ controllerName

/-- The entries of our controller's other instances. -/
def siblingEntries (controllerName : String) (scope : GatewayScope) (route : RouteResult)
    (current : List RouteParentStatus) : List RouteParentStatus :=
  current.filter fun p =>
    p.controllerName = controllerName && !ownedParent scope route.namespace_ p

/-- Our entries, before they are sorted in. -/
def ourEntries (controllerName : String) (generation : Option Int64) (scope : GatewayScope)
    (route : RouteResult) (current : List RouteParentStatus) (now : Time) :
    List RouteParentStatus :=
  (ownedParents scope route).map (parentEntry controllerName generation current now)

theorem controllerName_of_mem_ourEntries {p : RouteParentStatus}
    (h : p ∈ ourEntries controllerName generation scope route current now) :
    p.controllerName = controllerName := by
  obtain ⟨parent, -, rfl⟩ := List.mem_map.1 h
  rfl

omit [CharTable] in
/-- An entry for a parent we own is about a Gateway we own. -/
theorem ownedParent_of_isEntryFor {parent : RouteParentResult} {p : RouteParentStatus}
    (hparent : parent ∈ ownedParents scope route)
    (h : isEntryFor controllerName (parentRefOf parent) p = true) :
    p.controllerName = controllerName ∧ ownedParent scope route.namespace_ p = true := by
  simp only [isEntryFor, Bool.and_eq_true, decide_eq_true_eq] at h
  refine ⟨h.1, ?_⟩
  have howns := (List.mem_filter.1 hparent).2
  simp [ownedParent, h.2, parentRefOf, GatewayScope.ownsParent, howns]

/-- The list in three parts. -/
theorem routeParents_eq :
    routeParents controllerName generation scope route current now =
      foreignEntries controllerName current ++
        sortBy (fun p => p.parentRef.orderKey) (siblingEntries controllerName scope route current ++
          ourEntries controllerName generation scope route current now) := by
  have hforeign : (ourEntries controllerName generation scope route current now).filter
      (fun p => p.controllerName ≠ controllerName) = [] := by
    rw [List.filter_eq_nil_iff]
    intro p hp
    simpa using controllerName_of_mem_ourEntries hp
  have hours : (ourEntries controllerName generation scope route current now).filter
      (fun p => p.controllerName = controllerName) =
        ourEntries controllerName generation scope route current now := by
    rw [List.filter_eq_self]
    intro p hp
    simpa using controllerName_of_mem_ourEntries hp
  show List.filter _ (_ ++ ourEntries controllerName generation scope route current now) ++
    sortBy _ (List.filter _ (_ ++ ourEntries controllerName generation scope route current now)) = _
  rw [List.filter_append, List.filter_append, hforeign, hours, List.append_nil, List.filter_filter,
    List.filter_filter]
  congr 1
  · apply List.filter_congr
    intro p _
    by_cases h : p.controllerName = controllerName <;> simp [h]
  · congr 2
    apply List.filter_congr
    intro p _
    by_cases h : p.controllerName = controllerName <;> simp [h]

theorem foreignEntries_routeParents :
    foreignEntries controllerName
      (routeParents controllerName generation scope route current now) =
        foreignEntries controllerName current := by
  rw [routeParents_eq, foreignEntries, List.filter_append]
  have hforeign : (foreignEntries controllerName current).filter
      (fun p => p.controllerName ≠ controllerName) = foreignEntries controllerName current := by
    rw [List.filter_eq_self]
    intro p hp
    exact (List.mem_filter.1 hp).2
  have hours : (sortBy (fun p => p.parentRef.orderKey)
      (siblingEntries controllerName scope route current ++
        ourEntries controllerName generation scope route current now)).filter
          (fun p => p.controllerName ≠ controllerName) = [] := by
    rw [List.filter_eq_nil_iff]
    intro p hp
    rcases List.mem_append.1 (mem_sortBy.1 hp) with hsibling | hour
    · have hname := (List.mem_filter.1 hsibling).2
      simp only [Bool.and_eq_true, decide_eq_true_eq] at hname
      simpa using hname.1
    · simpa using controllerName_of_mem_ourEntries hour
  rw [hforeign, hours, List.append_nil]

theorem siblingEntries_routeParents :
    siblingEntries controllerName scope route
      (routeParents controllerName generation scope route current now) =
        sortBy (fun p => p.parentRef.orderKey)
          (siblingEntries controllerName scope route current) := by
  rw [routeParents_eq, siblingEntries, List.filter_append, filter_sortBy, List.filter_append]
  have hforeign : (foreignEntries controllerName current).filter (fun p =>
      p.controllerName = controllerName && !ownedParent scope route.namespace_ p) = [] := by
    rw [List.filter_eq_nil_iff]
    intro p hp
    have hname := (List.mem_filter.1 hp).2
    simp only [ne_eq, decide_not, Bool.not_eq_eq_eq_not, Bool.not_true, decide_eq_false_iff_not]
      at hname
    simp [hname]
  have hsibling : (siblingEntries controllerName scope route current).filter (fun p =>
      p.controllerName = controllerName && !ownedParent scope route.namespace_ p) =
        siblingEntries controllerName scope route current := by
    rw [List.filter_eq_self]
    intro p hp
    exact (List.mem_filter.1 hp).2
  have hours : (ourEntries controllerName generation scope route current now).filter (fun p =>
      p.controllerName = controllerName && !ownedParent scope route.namespace_ p) = [] := by
    rw [List.filter_eq_nil_iff]
    intro p hp
    obtain ⟨parent, hparent, rfl⟩ := List.mem_map.1 hp
    have hentry : isEntryFor controllerName (parentRefOf parent)
        (parentEntry controllerName generation current now parent) = true := by
      simp [isEntryFor, parentEntry]
    simp [(ownedParent_of_isEntryFor hparent hentry).2]
  rw [hforeign, hsibling, hours, List.nil_append, List.append_nil]

/-- What the list holds about a parent we own is what this pass wrote. -/
theorem filter_isEntryFor_routeParents {parent : RouteParentResult}
    (hparent : parent ∈ ownedParents scope route) :
    (routeParents controllerName generation scope route current now).filter
      (isEntryFor controllerName (parentRefOf parent)) =
        (ourEntries controllerName generation scope route current now).filter
          (isEntryFor controllerName (parentRefOf parent)) := by
  rw [routeParents_eq, List.filter_append, filter_sortBy, List.filter_append]
  have hforeign : (foreignEntries controllerName current).filter
      (isEntryFor controllerName (parentRefOf parent)) = [] := by
    rw [List.filter_eq_nil_iff]
    intro p hp hentry
    have hname := (List.mem_filter.1 hp).2
    simp [(ownedParent_of_isEntryFor hparent hentry).1] at hname
  have hsibling : (siblingEntries controllerName scope route current).filter
      (isEntryFor controllerName (parentRefOf parent)) = [] := by
    rw [List.filter_eq_nil_iff]
    intro p hp hentry
    have hname := (List.mem_filter.1 hp).2
    simp [(ownedParent_of_isEntryFor hparent hentry).2] at hname
  rw [hforeign, hsibling, List.nil_append, List.nil_append]
  apply sortBy_eq_self
  apply List.pairwise_of_forall_mem_list
  intro p hp q hq
  have hpref := (List.mem_filter.1 hp).2
  have hqref := (List.mem_filter.1 hq).2
  simp only [isEntryFor, Bool.and_eq_true, decide_eq_true_eq] at hpref hqref
  rw [hpref.2, hqref.2]

/-- The parents of a route that an instance reports under one reference. -/
def sameRef (scope : GatewayScope) (route : RouteResult) (ref : RouteParentRef) :
    List RouteParentResult := (ownedParents scope route).filter fun p => parentRefOf p = ref

theorem filter_ourEntries (ref : RouteParentRef) :
    (ourEntries controllerName generation scope route current now).filter
      (isEntryFor controllerName ref) =
        (sameRef scope route ref).map (parentEntry controllerName generation current now) := by
  rw [ourEntries, List.filter_map, sameRef]
  congr 1
  apply List.filter_congr
  intro p _
  simp only [isEntryFor, parentEntry, Function.comp_apply, decide_true, Bool.true_and]
  exact decide_eq_decide.2 Iff.rfl

/-- **The entry a second pass compares with is the first one written under the
reference.** -/
theorem find?_isEntryFor_routeParents {parent : RouteParentResult}
    (hparent : parent ∈ ownedParents scope route) :
    (routeParents controllerName generation scope route current now).find?
      (isEntryFor controllerName (parentRefOf parent)) =
        (sameRef scope route (parentRefOf parent)).head?.map
          (parentEntry controllerName generation current now) := by
  rw [← List.head?_filter, filter_isEntryFor_routeParents hparent, filter_ourEntries,
    List.head?_map]

end Passes

/-! ## Conditions of a second pass -/

omit [CharTable] in
theorem statusText_injective : Function.Injective statusText := by
  intro a b h
  cases a <;> cases b <;> simp_all [statusText]

omit [CharTable] in
/-- A condition says what it was built from. -/
theorem buildCondition_states_iff {current : Option (List Condition)} {now : Time} {d d' : Desired}
    (h : d.type_ = d'.type_) :
    (buildCondition current generation now d).states d' = true ↔ d = d' := by
  obtain ⟨type_, status, reason, message⟩ := d
  obtain ⟨type_', status', reason', message'⟩ := d'
  simp only at h
  subst h
  simp [buildCondition, Condition.states, statusText_injective.eq_iff, and_assoc]

/-- The conditions of a pass, read back by the next one. -/
theorem find?_buildConditions {current : Option (List Condition)} {now : Time}
    (parent : RouteParentResult) {d : Desired} (hd : d ∈ desiredOf parent) :
    (buildConditions (desiredOf parent) current generation now).find? (fun c => c.type_ = d.type_) =
      some (buildCondition current generation now d) := by
  simp only [desiredOf, List.mem_cons, List.not_mem_nil, or_false] at hd
  rcases hd with rfl | rfl
  · simp [buildConditions, desiredOf, buildCondition]
  · simp [buildConditions, desiredOf, buildCondition]

theorem eq_of_type_eq {parent other : RouteParentResult}
    (h : ∀ d ∈ desiredOf parent, ∀ d' ∈ desiredOf other, d'.type_ = d.type_ → d' = d) :
    desiredOf parent = desiredOf other := by
  have haccepted := h _ List.mem_cons_self _ List.mem_cons_self rfl
  have hresolved := h _ (List.mem_cons_of_mem _ List.mem_cons_self) _
    (List.mem_cons_of_mem _ List.mem_cons_self) rfl
  unfold desiredOf
  rw [haccepted, hresolved]

/-- **A second pass over the conditions changes nothing where they already say what is
desired.** -/
theorem buildConditions_again {current : Option (List Condition)} {t₁ t₂ : Time}
    (parent : RouteParentResult) :
    buildConditions (desiredOf parent)
      (some (buildConditions (desiredOf parent) current generation t₁)) generation t₂ =
        buildConditions (desiredOf parent) current generation t₁ := by
  apply List.map_congr_left
  intro d hd
  have hfound : (buildConditions (desiredOf parent) current generation t₁).find?
      (fun c => c.type_ = d.type_) = some (buildCondition current generation t₁ d) :=
    find?_buildConditions generation parent hd
  have hstates : (buildCondition current generation t₁ d).states d = true :=
    (buildCondition_states_iff generation rfl).2 rfl
  unfold buildCondition at hstates ⊢
  rw [Option.bind_some, hfound]
  simp only [buildCondition, hstates, if_true]

/-- Only conditions that already say what is desired keep their time. -/
theorem desiredOf_eq_of_buildConditions {parent other : RouteParentResult} {t₁ t₂ : Time}
    (ht : t₁ ≠ t₂)
    (h : buildConditions (desiredOf parent)
      (some (buildConditions (desiredOf other) none generation t₁)) generation t₂ =
        buildConditions (desiredOf parent) none generation t₁) :
    desiredOf parent = desiredOf other := by
  apply eq_of_type_eq
  intro d hd d' hd' htype
  have hcondition : buildCondition
      (some (buildConditions (desiredOf other) none generation t₁)) generation t₂ d =
        buildCondition none generation t₁ d := by
    have hmap := (List.map_inj_left.1 h) d hd
    exact hmap
  have hfound : (buildConditions (desiredOf other) none generation t₁).find?
      (fun c => c.type_ = d'.type_) = some (buildCondition none generation t₁ d') :=
    find?_buildConditions generation other hd'
  have htime := congrArg Condition.lastTransitionTime hcondition
  simp only [buildCondition, Option.bind_some, Option.bind_none] at htime
  rw [htype] at hfound
  rw [hfound] at htime
  by_contra hne
  have hsilent : (buildCondition none generation t₁ d').states d = false := by
    rw [← Bool.not_eq_true, buildCondition_states_iff generation htype]
    exact hne
  simp only [hsilent] at htime
  exact ht htime.symm

/-! ## The fixed point -/

/-- The parents of a route that share an identity report the same. -/
def SameReports (scope : GatewayScope) (route : RouteResult) : Prop :=
  ∀ p ∈ ownedParents scope route, ∀ q ∈ ownedParents scope route,
    parentRefOf p = parentRefOf q → desiredOf p = desiredOf q

section Fixed

variable {controllerName generation} {scope : GatewayScope} {route : RouteResult}

omit [CharTable] in
/-- The first parent reported under the reference of a parent we own. -/
theorem exists_head_sameRef {parent : RouteParentResult}
    (hparent : parent ∈ ownedParents scope route) :
    ∃ first ∈ ownedParents scope route, parentRefOf first = parentRefOf parent ∧
      (sameRef scope route (parentRefOf parent)).head? = some first := by
  have hmem : parent ∈ sameRef scope route (parentRefOf parent) :=
    List.mem_filter.2 ⟨hparent, by simp⟩
  cases hhead : (sameRef scope route (parentRefOf parent)).head? with
  | none =>
    rw [List.head?_eq_none_iff] at hhead
    rw [hhead] at hmem
    simp at hmem
  | some first =>
    have hfirst := List.mem_filter.1 (List.mem_of_head? hhead)
    exact ⟨first, hfirst.1, by simpa using hfirst.2, rfl⟩

theorem ourEntries_again (h : SameReports scope route) (current : List RouteParentStatus)
    (t₁ t₂ : Time) :
    ourEntries controllerName generation scope route
      (routeParents controllerName generation scope route current t₁) t₂ =
        ourEntries controllerName generation scope route current t₁ := by
  apply List.map_congr_left
  intro parent hparent
  obtain ⟨first, hfirst, href, hhead⟩ := exists_head_sameRef hparent
  have hdesired := h first hfirst parent hparent href
  unfold parentEntry
  rw [find?_isEntryFor_routeParents hparent, hhead]
  simp only [Option.map_some, parentEntry, href, hdesired]
  rw [buildConditions_again]

/-- Where the reports under each reference agree, a second pass changes nothing. -/
theorem routeParents_again (h : SameReports scope route) (current : List RouteParentStatus)
    (t₁ t₂ : Time) :
    routeParents controllerName generation scope route
      (routeParents controllerName generation scope route current t₁) t₂ =
        routeParents controllerName generation scope route current t₁ := by
  refine routeParents_eq.trans ?_
  rw [foreignEntries_routeParents, siblingEntries_routeParents, ourEntries_again h,
    sortBy_sortBy_append, ← routeParents_eq]

/-- Where a second pass over an empty list changes nothing, the reports under each
reference are those of the first parent. -/
theorem desiredOf_eq_head {parent first : RouteParentResult} {t₁ t₂ : Time} (ht : t₁ ≠ t₂)
    (h : routeParents controllerName generation scope route
      (routeParents controllerName generation scope route [] t₁) t₂ =
        routeParents controllerName generation scope route [] t₁)
    (hparent : parent ∈ ownedParents scope route)
    (hhead : (sameRef scope route (parentRefOf parent)).head? = some first) :
    desiredOf parent = desiredOf first := by
  have hfilter := congrArg (List.filter (isEntryFor controllerName (parentRefOf parent))) h
  rw [filter_isEntryFor_routeParents hparent, filter_isEntryFor_routeParents hparent,
    filter_ourEntries, filter_ourEntries] at hfilter
  have hmem : parent ∈ sameRef scope route (parentRefOf parent) :=
    List.mem_filter.2 ⟨hparent, by simp⟩
  have hentry := congrArg RouteParentStatus.conditions (List.map_inj_left.1 hfilter parent hmem)
  simp only [parentEntry] at hentry
  rw [find?_isEntryFor_routeParents hparent, hhead] at hentry
  exact desiredOf_eq_of_buildConditions generation ht hentry

end Fixed

/-- **Applying `route_parents` to its own output changes nothing, whatever the current
list and the clock, exactly when the parents that share an identity report the same.** -/
theorem route_parents_fixed_iff (scope : GatewayScope) (route : RouteResult) :
    (∀ (current : List RouteParentStatus) (t₁ t₂ : Time),
      routeParents controllerName generation scope route
        (routeParents controllerName generation scope route current t₁) t₂ =
          routeParents controllerName generation scope route current t₁) ↔
      SameReports scope route := by
  constructor
  · intro h p hp q hq href
    obtain ⟨first, -, -, hhead⟩ := exists_head_sameRef hp
    have hp' := desiredOf_eq_head (by decide) (h [] 0 1) hp hhead
    rw [href] at hhead
    have hq' := desiredOf_eq_head (by decide) (h [] 0 1) hq hhead
    exact hp'.trans hq'.symm
  · intro h current t₁ t₂
    exact routeParents_again h current t₁ t₂

end Parents

/-! A route with two parentRefs to one Gateway, one of which spells its namespace, loses its
match to an older route: only the first parent is told. -/

/-- A route of namespace `demo` to a port of the Service `web`. -/
def webRoute (name : String) (parentRefs : List ParentRef) (port : Int32) : HttpRoute where
  metadata := { name := some name, namespace_ := some "demo" }
  spec := {
    parentRefs := some parentRefs
    rules := some [{ backendRefs := some [{ name := "web", port := some port }] }] }

/-- Two routes that ask for the same match. -/
def twoRefsInputs : Inputs where
  services :=
    [{ metadata := { name := some "web", namespace_ := some "demo" }
       ports := some [{ port := 80 }, { port := 81 }] }]
  gatewayClasses := [⟨{ name := some "sozu" }, "sozu.io/gateway-controller"⟩]
  gateways :=
    [⟨{ name := some "gw", namespace_ := some "demo" },
      { gatewayClassName := "sozu"
        listeners := [{ name := "http", port := 80, protocol := "HTTP" }] }⟩]
  httpRoutes :=
    [webRoute "a" [{ name := "gw" }] 80,
      webRoute "b" [{ name := "gw" }, { name := "gw", namespace_ := some "demo" }] 81]

attribute [local instance] External.plain Sozu.asciiTable in
/-- **A second pass moves a timestamp of a route the build reports.** -/
theorem route_parents_not_fixed_twoRefs :
    ∃ out, build {} twoRefsInputs = some out ∧ ∃ route ∈ out.routes, ∃ t₁ t₂ : Time,
      routeParents "sozu.io/gateway-controller" (some 1) {} route
        (routeParents "sozu.io/gateway-controller" (some 1) {} route [] t₁) t₂ ≠
          routeParents "sozu.io/gateway-controller" (some 1) {} route [] t₁ := by
  have hmoves : ((build {} twoRefsInputs).any fun out => out.routes.any fun route =>
      routeParents "sozu.io/gateway-controller" (some 1) {} route
        (routeParents "sozu.io/gateway-controller" (some 1) {} route [] 0) 1 ≠
          routeParents "sozu.io/gateway-controller" (some 1) {} route [] 0) = true := by
    decide +kernel
  obtain ⟨out, hout, hany⟩ := (Option.any_eq_true _ _).1 hmoves
  obtain ⟨route, hroute, hne⟩ := List.any_eq_true.1 hany
  exact ⟨out, hout, route, hroute, 0, 1, of_decide_eq_true hne⟩

end Controller

end SozuGateway
