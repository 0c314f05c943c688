import SozuGateway.Builder.Backends
import SozuGateway.Builder.RouteProvenance
import SozuGateway.Lib.Code
import SozuGateway.Lib.Shuffle

/-!
# Objects in another order

The walks of the build over the same objects, listed in another order.

* `Reordered` — the same objects, each collection in an order of its own; `ToldByName`,
  `Slashless` — what Kubernetes says of their names.
* `Reordered.agree` — no walk tells the two apart by what it looks up.
* `emissions_ingressWalk` — so a walk emits the same for each object, in the order of the
  objects; `perm_ingressWalk`, `perm_gatewayWalk` — and the same in all.
-/

set_option autoImplicit false

namespace SozuGateway

namespace Builder

open Lib

/-! ## Inputs -/

/-- The same objects, each collection in an order of its own. -/
structure Reordered (inputs inputs' : Inputs) : Prop where
  ingresses : inputs.ingresses.Perm inputs'.ingresses
  namespaces : inputs.namespaces.Perm inputs'.namespaces
  services : inputs.services.Perm inputs'.services
  endpointslices : inputs.endpointslices.Perm inputs'.endpointslices
  secrets : inputs.secrets.Perm inputs'.secrets
  gatewayClasses : inputs.gatewayClasses.Perm inputs'.gatewayClasses
  gateways : inputs.gateways.Perm inputs'.gateways
  httpRoutes : inputs.httpRoutes.Perm inputs'.httpRoutes
  referenceGrants : inputs.referenceGrants.Perm inputs'.referenceGrants
  tcpRoutes : inputs.tcpRoutes.Perm inputs'.tcpRoutes
  udpRoutes : inputs.udpRoutes.Perm inputs'.udpRoutes

/-- An object of each kind is told by its namespace and name. -/
structure ToldByName (inputs : Inputs) : Prop where
  ingresses : (inputs.ingresses.map fun o => o.metadata.nn).Nodup
  namespaces : (inputs.namespaces.filterMap fun o => o.metadata.name).Nodup
  services : (inputs.services.map fun o => o.metadata.nn).Nodup
  secrets : (inputs.secrets.map fun o => o.metadata.nn).Nodup
  gateways : (inputs.gateways.map fun o => o.metadata.nn).Nodup
  httpRoutes : (inputs.httpRoutes.map fun o => o.metadata.nn).Nodup
  tcpRoutes : (inputs.tcpRoutes.map fun o => o.metadata.nn).Nodup
  udpRoutes : (inputs.udpRoutes.map fun o => o.metadata.nn).Nodup

/-- The namespaces of what is ordered by `namespace/name` have no slash. -/
structure Slashless (inputs : Inputs) : Prop where
  ingresses : ∀ o ∈ inputs.ingresses, '/' ∉ o.metadata.nn.1.toList
  httpRoutes : ∀ o ∈ inputs.httpRoutes, '/' ∉ o.metadata.nn.1.toList
  tcpRoutes : ∀ o ∈ inputs.tcpRoutes, '/' ∉ o.metadata.nn.1.toList
  udpRoutes : ∀ o ∈ inputs.udpRoutes, '/' ∉ o.metadata.nn.1.toList

theorem Reordered.symm {inputs inputs' : Inputs} (h : Reordered inputs inputs') :
    Reordered inputs' inputs where
  ingresses := h.ingresses.symm
  namespaces := h.namespaces.symm
  services := h.services.symm
  endpointslices := h.endpointslices.symm
  secrets := h.secrets.symm
  gatewayClasses := h.gatewayClasses.symm
  gateways := h.gateways.symm
  httpRoutes := h.httpRoutes.symm
  referenceGrants := h.referenceGrants.symm
  tcpRoutes := h.tcpRoutes.symm
  udpRoutes := h.udpRoutes.symm

theorem ToldByName.reordered {inputs inputs' : Inputs} (h : ToldByName inputs)
    (horder : Reordered inputs inputs') : ToldByName inputs' where
  ingresses := (horder.ingresses.map _).nodup_iff.1 h.ingresses
  namespaces := (horder.namespaces.filterMap _).nodup_iff.1 h.namespaces
  services := (horder.services.map _).nodup_iff.1 h.services
  secrets := (horder.secrets.map _).nodup_iff.1 h.secrets
  gateways := (horder.gateways.map _).nodup_iff.1 h.gateways
  httpRoutes := (horder.httpRoutes.map _).nodup_iff.1 h.httpRoutes
  tcpRoutes := (horder.tcpRoutes.map _).nodup_iff.1 h.tcpRoutes
  udpRoutes := (horder.udpRoutes.map _).nodup_iff.1 h.udpRoutes

/-- **Without a slash in the namespace, `namespace/name` tells an object.** -/
theorem slashed_inj {ns name ns' name' : String} (h : '/' ∉ ns.toList) (h' : '/' ∉ ns'.toList)
    (heq : slashed ns name = slashed ns' name') : (ns, name) = (ns', name') := by
  have hchars : ns.toList ++ '/' :: name.toList = ns'.toList ++ '/' :: name'.toList := by
    simpa [slashed] using congrArg String.toList heq
  obtain ⟨hns, hname⟩ := append_mark_inj h h' hchars
  exact Prod.ext (String.toList_inj.1 hns) (String.toList_inj.1 hname)

/-- A key made of a namespace without a slash and a name tells the objects of a list. -/
theorem nodup_of_slashed {α κ : Type} {metadata : α → ObjectMeta} {key : α → κ} {l : List α}
    (hkey : ∀ a ∈ l, ∀ b ∈ l, key a = key b →
      slashed (metadata a).nn.1 (metadata a).nn.2 = slashed (metadata b).nn.1 (metadata b).nn.2)
    (hslash : ∀ a ∈ l, '/' ∉ (metadata a).nn.1.toList)
    (h : (l.map fun a => (metadata a).nn).Nodup) : (l.map key).Nodup := by
  rw [List.nodup_iff_pairwise_ne, List.pairwise_map] at h ⊢
  refine h.imp_of_mem fun {a b} ha hb hne heq => hne ?_
  exact slashed_inj (hslash a ha) (hslash b hb) (hkey a ha b hb heq)

/-! ## The index -/

theorem byKey_perm {α : Type} {metadata : α → ObjectMeta} {l l' : List α}
    (hkeys : (l.map fun a => (metadata a).nn).Nodup) (h : l.Perm l') :
    Index.byKey metadata l = Index.byKey metadata l' := by
  have hlex : (l.map fun a => (toLex (metadata a).nn : ObjectKey)).Nodup := by
    have hmap := hkeys.map (f := toLex) toLex.injective
    rwa [List.map_map] at hmap
  show fill (fun a => (toLex (metadata a).nn : ObjectKey)) (fun a => a) ∅ l =
    fill (fun a => (toLex (metadata a).nn : ObjectKey)) (fun a => a) ∅ l'
  exact fill_perm hlex h

theorem labelsOf_perm {l l' : List Namespace}
    (hkeys : (l.filterMap fun ns => ns.metadata.name).Nodup) (h : l.Perm l') :
    Index.labelsOf l = Index.labelsOf l' := by
  rw [labelsOf_eq, labelsOf_eq]
  refine fill_perm ?_ (h.filterMap _)
  rw [List.map_filterMap]
  refine (congrArg List.Nodup (List.filterMap_congr fun ns _ => ?_)).mpr hkeys
  unfold namedLabels
  cases ns.metadata.name <;> rfl

section Walks

variable {inputs inputs' : Inputs}

/-- **No walk tells the two apart by what it looks up.** -/
theorem Reordered.agree (h : Reordered inputs inputs') (hnames : ToldByName inputs)
    (healthCheck : HealthCheckDefault) (emissions : List Emission) :
    AgreeOn inputs inputs' (Index.build inputs healthCheck) (Index.build inputs' healthCheck)
      emissions where
  grants := by
    funext toNs toGroup toKind toName fromNs fromGroup fromKind
    rw [referenceGranted, referenceGranted, Bool.eq_iff_iff, List.any_eq_true, List.any_eq_true]
    simp only [h.referenceGrants.mem_iff]
  services := (byKey_perm hnames.services h.services).symm
  namespaceLabels := (labelsOf_perm hnames.namespaces h.namespaces).symm
  secrets := (byKey_perm hnames.secrets h.secrets).symm
  healthCheck := rfl
  slices := by
    intro ns service _
    rw [slicesFor_build, slicesFor_build]
    exact (h.endpointslices.filter _).symm

variable [External] [CharTable] {cfg : BuildConfig}

/-! ## The Ingresses -/

/-- The Ingresses of our class. -/
def ourIngresses (cfg : BuildConfig) (inputs : Inputs) : List Ingress :=
  inputs.ingresses.filter fun ingress => isOurs ingress cfg

/-- What an Ingress emits. -/
def emittedBy (cfg : BuildConfig) (index : Index) (ingress : Ingress) : List Emission :=
  (ingressEmissions cfg index ingress).getD []

theorem emissions_ingressWalk {index : Index} {walk : IngressWalk}
    (h : ingressWalk cfg inputs index = some walk) :
    walk.emissions = (ourIngresses cfg inputs).flatMap (emittedBy cfg index) ∧
      ∀ ingress ∈ ourIngresses cfg inputs,
        ingressEmissions cfg index ingress = some (emittedBy cfg index ingress) := by
  obtain ⟨emitted, hemitted, rfl⟩ := Option.map_eq_some_iff.1 h
  have hmap := mapM_eq_some_iff.1 hemitted
  constructor
  · have hgiven := congrArg (List.map fun o : Option (List Emission) => o.getD []) hmap
    simp only [List.map_map, Function.comp_def, Option.getD_some, List.map_id'] at hgiven
    rw [List.flatMap_def]
    exact congrArg List.flatten hgiven.symm
  · intro ingress hingress
    obtain ⟨emissions, -, hemissions⟩ := exists_mem_mapM hemitted hingress
    rw [emittedBy, hemissions]
    rfl

/-- **The walk over reordered Ingresses** emits the same for each, in their order. -/
theorem ingressWalk_reordered (h : Reordered inputs inputs') (hnames : ToldByName inputs)
    {walk : IngressWalk}
    (hwalk : ingressWalk cfg inputs (Index.build inputs cfg.healthCheck) = some walk) :
    ∃ walk', ingressWalk cfg inputs' (Index.build inputs' cfg.healthCheck) = some walk' ∧
      walk'.emissions = (ourIngresses cfg inputs').flatMap
        (emittedBy cfg (Index.build inputs cfg.healthCheck)) := by
  obtain ⟨-, hsome⟩ := emissions_ingressWalk hwalk
  have hmapM : (ourIngresses cfg inputs').mapM
      (ingressEmissions cfg (Index.build inputs' cfg.healthCheck)) =
        some ((ourIngresses cfg inputs').map
          (emittedBy cfg (Index.build inputs cfg.healthCheck))) := by
    refine mapM_eq_some_iff.2 ?_
    rw [List.map_map]
    refine List.map_congr_left fun ingress hingress => ?_
    have hmem : ingress ∈ ourIngresses cfg inputs := (h.ingresses.filter _).mem_iff.2 hingress
    exact ingressEmissions_agree (hsome ingress hmem) (h.agree hnames _ _)
  refine ⟨⟨_, _⟩, congrArg (Option.map _) hmapM, ?_⟩
  rw [List.flatMap_def]

/-! ## The Gateway API -/

omit [External] [CharTable] in
/-- Our Gateways are those listed of our classes. -/
theorem ourGateways_reordered (h : Reordered inputs inputs') :
    (ourGateways cfg inputs).Perm (ourGateways cfg inputs') := by
  have hclasses : (gatewayClassResults cfg inputs).Perm (gatewayClassResults cfg inputs') :=
    h.gatewayClasses.filterMap _
  have hsame : ∀ gw : Gateway,
      ((gatewayClassResults cfg inputs').any fun c =>
        c.accepted && c.name = gw.spec.gatewayClassName) =
      (gatewayClassResults cfg inputs).any fun c =>
        c.accepted && c.name = gw.spec.gatewayClassName := by
    intro gw
    rw [Bool.eq_iff_iff, List.any_eq_true, List.any_eq_true]
    simp only [hclasses.mem_iff]
  unfold ourGateways
  simp only [hsame]
  exact h.gateways.filter _

theorem builtGateways_reordered (h : Reordered inputs inputs') (hnames : ToldByName inputs) :
    builtGateways cfg inputs' (Index.build inputs' cfg.healthCheck) =
      (ourGateways cfg inputs').map fun gw =>
        (gw, buildOneGateway cfg inputs (Index.build inputs cfg.healthCheck) gw) :=
  List.map_congr_left fun gw _ =>
    congrArg (gw, ·) (buildOneGateway_agree (h.agree hnames _ []) cfg gw)

/-- **The listeners of our Gateways** are the same. -/
theorem gatewayListeners_reordered (h : Reordered inputs inputs') (hnames : ToldByName inputs) :
    gatewayListeners (builtGateways cfg inputs' (Index.build inputs' cfg.healthCheck)) =
      gatewayListeners (builtGateways cfg inputs (Index.build inputs cfg.healthCheck)) := by
  rw [builtGateways_reordered h hnames]
  symm
  show fill (fun x : Gateway × BuiltGateway => (toLex x.1.metadata.nn : ObjectKey))
      (fun x => x.2.listeners) ∅ ((ourGateways cfg inputs).map fun gw =>
        (gw, buildOneGateway cfg inputs (Index.build inputs cfg.healthCheck) gw)) =
    fill (fun x : Gateway × BuiltGateway => (toLex x.1.metadata.nn : ObjectKey))
      (fun x => x.2.listeners) ∅ ((ourGateways cfg inputs').map fun gw =>
        (gw, buildOneGateway cfg inputs (Index.build inputs cfg.healthCheck) gw))
  refine fill_perm ?_ ((ourGateways_reordered h).map _)
  have hkeys : ((ourGateways cfg inputs).map fun gw => gw.metadata.nn).Nodup :=
    hnames.gateways.sublist (List.filter_sublist.map _)
  have hlex := hkeys.map (f := toLex) toLex.injective
  rw [List.map_map] at hlex ⊢
  exact hlex

omit [External] [CharTable] in
/-- **The HTTPRoutes are taken in the same order.** -/
theorem orderedHttpRoutes_reordered (h : Reordered inputs inputs') (hnames : ToldByName inputs)
    (hslash : Slashless inputs) :
    orderedHttpRoutes inputs'.httpRoutes = orderedHttpRoutes inputs.httpRoutes := by
  symm
  refine sortBy_eq_of_perm (fun a ha b hb heq => ?_) h.httpRoutes
  have hkeys : (inputs.httpRoutes.map httpRouteOrder).Nodup :=
    @nodup_of_slashed _ _ HttpRoute.metadata _ _
      (fun a _ b _ heq => congrArg (fun c : OwnerClaim => (ofLex (ofLex c).2).2) heq)
      hslash.httpRoutes hnames.httpRoutes
  exact List.inj_on_of_nodup_map hkeys ha hb heq

theorem httpBound_reordered (h : Reordered inputs inputs') (hnames : ToldByName inputs)
    (hslash : Slashless inputs) (gwListeners : GatewayListenersMap) :
    httpBound cfg inputs' (Index.build inputs' cfg.healthCheck) gwListeners =
      httpBound cfg inputs (Index.build inputs cfg.healthCheck) gwListeners := by
  unfold httpBound
  rw [orderedHttpRoutes_reordered h hnames hslash]
  exact List.map_congr_left fun route _ =>
    congrArg (route, ·) (httpRouteParents_agree (h.agree hnames _ _))

/-- A layer-4 route with its parents. -/
def l4BoundOf (inputs : Inputs) (index : Index) (gwListeners : GatewayListenersMap)
    (view : L4RouteView) : L4RouteView × List L4BoundParent :=
  (view, l4RouteParents inputs index gwListeners view)

theorem l4Bound_reordered (h : Reordered inputs inputs') (hnames : ToldByName inputs)
    (gwListeners : GatewayListenersMap) :
    l4Bound inputs' (Index.build inputs' cfg.healthCheck) gwListeners =
      (l4Views inputs').map
        (l4BoundOf inputs (Index.build inputs cfg.healthCheck) gwListeners) :=
  List.map_congr_left fun view _ =>
    congrArg (view, ·) (l4RouteParents_agree (h.agree hnames _ _))

omit [External] [CharTable] in
theorem l4Views_reordered (h : Reordered inputs inputs') :
    (l4Views inputs).Perm (l4Views inputs') :=
  (h.tcpRoutes.map _).append (h.udpRoutes.map _)

/-- **A walk over reordered objects emits the same**, in another order. -/
theorem perm_gatewayWalk (h : Reordered inputs inputs') (hnames : ToldByName inputs)
    (hslash : Slashless inputs) :
    (gatewayWalk cfg inputs (Index.build inputs cfg.healthCheck)).emissions.Perm
      (gatewayWalk cfg inputs' (Index.build inputs' cfg.healthCheck)).emissions := by
  simp only [gatewayWalk]
  rw [gatewayListeners_reordered h hnames, httpBound_reordered h hnames hslash,
    l4Bound_reordered h hnames, builtGateways_reordered h hnames]
  refine List.Perm.append (List.Perm.append ?_ (List.Perm.refl _)) ?_
  · exact ((ourGateways_reordered h).map _).flatMap_right _
  · exact ((l4Views_reordered h).map _).flatMap_right _

theorem perm_ingressWalk (h : Reordered inputs inputs') {index : Index} :
    ((ourIngresses cfg inputs).flatMap (emittedBy cfg index)).Perm
      ((ourIngresses cfg inputs').flatMap (emittedBy cfg index)) :=
  (h.ingresses.filter _).flatMap_right _

end Walks

end Builder

end SozuGateway
