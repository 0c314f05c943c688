import SozuGateway.Builder.RouteKeys
import SozuGateway.Builder.Provenance

/-!
# The keys of the copies

A copy the lifting adds has a route key of its own: no other copy and no frontend the
lifting keeps has it.

* `GroupPlan.Apart` — what holds of the copies chosen so far.
* `apart_chooseAll`, `apart_rounds`, `apart_planGroup` — so it does of a round's, of all
  rounds', and of a group's.
* `getD_groupsOf` — a group is what its hostname and listener select.
* `nodup_routeKeys_lift` — the keys of the kept frontends and the copies are distinct.
-/

set_option autoImplicit false

namespace SozuGateway

namespace Builder

open Lib

section Keys

variable [CharTable]

/-! ## Groups -/

/-- A frontend whose route key tells its hostname. -/
structure Placeable (f : Frontend) : Prop where
  hostname : ';' ∉ f.hostname.toList
  listener : f.listener.IsPlain

omit [CharTable] in
theorem Placeable.liftedCopy {u : Frontend} (hu : Placeable u) (p : Frontend) :
    Placeable (liftedCopy u p) := ⟨hu.hostname, hu.listener⟩

omit [CharTable] in
theorem groupOf_liftedCopy (u p : Frontend) : groupOf (liftedCopy u p) = groupOf u := rfl

/-- **A route key tells the group it is of.** -/
theorem groupOf_eq_of_routeKey_eq {a b : Frontend} (ha : Placeable a) (hb : Placeable b)
    (h : routeKey a = routeKey b) : groupOf a = groupOf b := by
  have hdisplay : ∀ x : SocketAddr, ';' ∉ x.display := fun x hmem =>
    absurd (SocketAddr.mem_alphabet_of_mem_display hmem) (by decide)
  have htls : a.tls = b.tls := congrArg SozuRouteKey.https h
  have hkey := String.ofList_injective (congrArg SozuRouteKey.key h)
  rw [List.append_assoc, List.append_assoc, List.cons_append, List.cons_append] at hkey
  obtain ⟨hlistener, hkey⟩ := append_mark_inj (hdisplay _) (hdisplay _) hkey
  obtain ⟨hhostname, -⟩ := append_mark_inj ha.hostname hb.hostname hkey
  have hplain := SocketAddr.display_injective (SocketAddr.isPlain_plain _)
    (SocketAddr.isPlain_plain _) hlistener
  rw [show a.listener.plain = a.listener from ha.listener,
    show b.listener.plain = b.listener from hb.listener] at hplain
  rw [groupOf, groupOf, htls, hplain, String.toList_inj.1 hhostname]

omit [CharTable] in
/-- **A group holds what its hostname and listener select**, in order. -/
theorem getD_groupsOf (frontends : List SourcedFrontend) (group : Group) :
    (groupsOf frontends)[group]?.getD [] =
      (frontends.zipIdx.filter fun x => groupOf x.1.frontend = group).map Prod.swap := by
  have hfold : ∀ (l : List (SourcedFrontend × ℕ)) (groups : BTreeMap Group (List Member)),
      (l.foldl (fun groups x => groups.insert (groupOf x.1.frontend)
        (groups[groupOf x.1.frontend]?.getD [] ++ [(x.2, x.1)])) groups)[group]?.getD [] =
          groups[group]?.getD [] ++
            (l.filter fun x => groupOf x.1.frontend = group).map Prod.swap := by
    intro l
    induction l with
    | nil => simp
    | cons x l ih =>
      intro groups
      rw [List.foldl_cons, ih, BTreeMap.getElem?_insert, List.filter_cons]
      by_cases hgroup : groupOf x.1.frontend = group
      · simp [hgroup, Prod.swap]
      · simp [hgroup]
  have hempty := hfold frontends.zipIdx ∅
  rwa [BTreeMap.getElem?_empty, Option.getD_none, List.nil_append] at hempty

/-! ## One group -/

namespace GroupPlan

variable {plan : GroupPlan}

/-- The frontend of the group that holds the key, if any, is skipped. -/
def IsFree (plan : GroupPlan) (skipped : List ℕ) (key : SozuRouteKey) : Prop :=
  ∀ holder, plan.held[key]? = some holder → holder.1 ∈ skipped

/-- Copies with keys of their own, that those brought before do not have and no frontend
left in the group holds. -/
structure Apart (plan : GroupPlan) (skipped : List ℕ) (brought : List SozuRouteKey)
    (copies : List Candidate) : Prop where
  keyed : ∀ c ∈ copies, c.key = routeKey c.rule
  free : ∀ c ∈ copies, plan.IsFree skipped c.key
  nodup : (brought ++ copies.map Candidate.key).Nodup

theorem keyed_of_mem_candidates {p : Member} {c : Candidate} (h : c ∈ plan.candidates p) :
    c.key = routeKey c.rule ∧ c.holder = plan.held[c.key]? := by
  unfold candidates at h
  split at h
  · exact absurd h List.not_mem_nil
  · obtain ⟨u, -, rfl⟩ := List.mem_map.1 h
    exact ⟨rfl, rfl⟩

/-- Weighing a candidate keeps the copies apart. -/
theorem Apart.choose {skipped : List ℕ} {brought : List SozuRouteKey} {p : Member}
    {fresh fresh' : List Candidate} {candidate : Candidate}
    (hfresh : plan.Apart skipped brought fresh) (hcandidate : candidate ∈ plan.candidates p)
    (h : choose skipped brought p fresh candidate = .ok fresh') :
    plan.Apart skipped brought fresh' := by
  obtain ⟨hkeyed, hholder⟩ := keyed_of_mem_candidates hcandidate
  unfold GroupPlan.choose at h
  split at h
  · split at h
    · exact Except.ok.inj h ▸ hfresh
    · cases h
  rename_i hnone
  split at h
  · exact Except.ok.inj h ▸ hfresh
  rename_i hbrought
  split at h
  · -- one of the two of that key serves: the keys stay what they were
    obtain rfl := Except.ok.inj h
    have hkeys : ∀ d : Candidate, (if d.key = candidate.key ∧
        gwPrecedence candidate.route.2.frontend d.route.2.frontend = .gt then candidate
          else d).key = d.key := by
      intro d
      split
      · rename_i hboth
        exact hboth.1.symm
      · rfl
    refine ⟨fun c hc => ?_, fun c hc => ?_, ?_⟩
    · obtain ⟨d, hd, rfl⟩ := List.mem_map.1 hc
      split
      · exact hkeyed
      · exact hfresh.keyed d hd
    · obtain ⟨d, hd, rfl⟩ := List.mem_map.1 hc
      rw [hkeys d]
      exact hfresh.free d hd
    · rw [List.map_map]
      exact (List.map_congr_left fun d _ => hkeys d : _ = fresh.map Candidate.key) ▸ hfresh.nodup
  rename_i hnew
  split at h
  · cases h
  obtain rfl := Except.ok.inj h
  refine ⟨fun c hc => ?_, fun c hc => ?_, ?_⟩
  · rcases List.mem_append.1 hc with hc | hc
    · exact hfresh.keyed c hc
    · exact List.mem_singleton.1 hc ▸ hkeyed
  · rcases List.mem_append.1 hc with hc | hc
    · exact hfresh.free c hc
    · obtain rfl := List.mem_singleton.1 hc
      intro holder hheld
      by_contra hskipped
      rw [hholder, hheld] at hnone
      simp [hskipped] at hnone
  · rw [List.map_append, List.map_singleton, ← List.append_assoc]
    refine List.nodup_append.2 ⟨hfresh.nodup, List.nodup_singleton _, ?_⟩
    rintro key hkey _ hlast rfl
    obtain rfl := List.mem_singleton.1 hlast
    rcases List.mem_append.1 hkey with hkey | hkey
    · exact hbrought hkey
    · obtain ⟨c, hc, hsame⟩ := List.mem_map.1 hkey
      exact hnew (List.any_eq_true.2 ⟨c, hc, decide_eq_true hsame⟩)

theorem Apart.foldlM_choose {skipped : List ℕ} {brought : List SozuRouteKey} {p : Member}
    {candidates fresh fresh' : List Candidate} (hfresh : plan.Apart skipped brought fresh)
    (hcandidates : ∀ c ∈ candidates, c ∈ plan.candidates p)
    (h : candidates.foldlM (GroupPlan.choose skipped brought p) fresh = .ok fresh') :
    plan.Apart skipped brought fresh' := by
  induction candidates generalizing fresh with
  | nil => exact Except.ok.inj h ▸ hfresh
  | cons candidate candidates ih =>
    rw [List.foldlM_cons] at h
    obtain ⟨next, hnext, h⟩ := bind_eq_ok h
    exact ih (hfresh.choose (hcandidates candidate List.mem_cons_self) hnext)
      (fun c hc => hcandidates c (List.mem_cons_of_mem _ hc)) h

/-- **The copies of all header matches are apart.** -/
theorem apart_chooseAll {skipped : List ℕ} {brought : List SozuRouteKey}
    {originals : List Member} {chosen : List (Member × List Candidate)}
    (hbrought : brought.Nodup) (h : plan.chooseAll skipped brought originals = .ok chosen) :
    plan.Apart skipped brought (chosen.flatMap Prod.snd) := by
  induction originals generalizing brought chosen with
  | nil =>
    obtain rfl := Except.ok.inj h
    exact ⟨by simp, by simp, by simpa using hbrought⟩
  | cons p rest ih =>
    unfold chooseAll at h
    split at h
    · exact ih hbrought h
    split at h
    · cases h
    rename_i fresh hfresh
    split at h
    · cases h
    rename_i others hothers
    obtain rfl := Except.ok.inj h
    have hstart : plan.Apart skipped brought [] := ⟨by simp, by simp, by simpa using hbrought⟩
    have hfirst := hstart.foldlM_choose (fun c hc => hc) hfresh
    have hothers := ih hfirst.nodup hothers
    refine ⟨fun c hc => ?_, fun c hc => ?_, ?_⟩
    · rcases List.mem_append.1 hc with hc | hc
      · exact hfirst.keyed c hc
      · exact hothers.keyed c hc
    · rcases List.mem_append.1 hc with hc | hc
      · exact hfirst.free c hc
      · exact hothers.free c hc
    · have hnodup := hothers.nodup
      rwa [List.append_assoc, ← List.map_append] at hnodup

omit [CharTable] in
/-- The copies of a tier are those that were chosen. -/
theorem copies_predicated (chosen : List (Member × List Candidate)) :
    ((chosen.flatMap predicated).filter Predicated.copy).map Predicated.rule =
      (chosen.flatMap Prod.snd).map Candidate.rule := by
  induction chosen with
  | nil => rfl
  | cons x chosen ih =>
    rw [List.flatMap_cons, List.flatMap_cons, List.filter_append, List.map_append,
      List.map_append, ih]
    congr 1
    simp [predicated, List.filter_map, Function.comp_def]

variable [External]

/-- Copies with keys of their own, that no frontend left in the group holds. -/
def CopiesApart (plan : GroupPlan) (skipped : List ℕ) (copies : List Brought) : Prop :=
  (copies.map fun brought => routeKey brought.2).Nodup ∧
    ∀ brought ∈ copies, plan.IsFree skipped (routeKey brought.2)

omit [External] in
theorem copiesApart_nil (skipped : List ℕ) : plan.CopiesApart skipped [] :=
  ⟨List.nodup_nil, fun _ h => absurd h List.not_mem_nil⟩

theorem apart_round {admission admission' : Admission} {skipped : List ℕ} {copies : List Brought}
    (h : plan.round admission skipped = (admission', .ok copies)) :
    plan.CopiesApart skipped copies := by
  unfold round at h
  split at h
  · cases h
  rename_i chosen hchosen
  dsimp only at h
  split at h
  · cases h
  obtain rfl := Except.ok.inj (Prod.mk.inj h).2
  have hapart := apart_chooseAll List.nodup_nil hchosen
  have hkeys : ((chosen.flatMap Prod.snd).map Candidate.rule).map routeKey =
      (chosen.flatMap Prod.snd).map Candidate.key := by
    rw [List.map_map]
    exact List.map_congr_left fun c hc => (hapart.keyed c hc).symm
  constructor
  · have hrules := copies_predicated chosen
    have hnodup := hapart.nodup
    rw [List.nil_append, ← hkeys, ← hrules, List.map_map] at hnodup
    rw [List.map_map]
    exact hnodup
  · intro brought hbrought
    obtain ⟨entry, hentry, rfl⟩ := List.mem_map.1 hbrought
    have hrule := List.mem_map_of_mem (f := Predicated.rule) hentry
    rw [copies_predicated] at hrule
    obtain ⟨c, hc, hsame⟩ := List.mem_map.1 hrule
    show plan.IsFree skipped (routeKey entry.rule)
    rw [← hsame, ← hapart.keyed c hc]
    exact hapart.free c hc

theorem apart_rounds {fuel : ℕ} {admission : Admission} {skips : List Skip} :
    plan.CopiesApart ((plan.rounds fuel admission skips).2.map Prod.fst)
      (plan.rounds fuel admission skips).1 := by
  induction fuel generalizing admission skips with
  | zero => exact copiesApart_nil _
  | succ fuel ih =>
    unfold rounds
    split
    · rename_i hround
      exact apart_round hround
    · exact ih

end GroupPlan

variable [External]

/-- **The copies of a group are apart**: a frontend of the group with the key of one is
skipped. -/
theorem apart_planGroup {members : List Member}
    (hkeys : (members.map fun m => routeKey m.2.frontend).Nodup) :
    ((planGroup members).1.map fun brought => routeKey brought.2).Nodup ∧
      ∀ brought ∈ (planGroup members).1, ∀ m ∈ members,
        routeKey m.2.frontend = routeKey brought.2 →
          m.1 ∈ (planGroup members).2.map Prod.fst := by
  unfold planGroup
  dsimp only
  split
  · exact ⟨List.nodup_nil, fun _ h => absurd h List.not_mem_nil⟩
  · refine ⟨GroupPlan.apart_rounds.1, fun brought hbrought m hm hsame => ?_⟩
    refine GroupPlan.apart_rounds.2 brought hbrought m ?_
    rw [← hsame]
    exact @getElem?_fill_of_mem Member SozuRouteKey Member _ _ id _ _ hkeys m hm

/-! ## All groups -/

variable {frontends folded : List SourcedFrontend}

omit [External] in
/-- The keys of a group are distinct where those of all frontends are. -/
theorem nodup_groupKeys (hkeys : (frontends.map fun sf => routeKey sf.frontend).Nodup)
    {group : Group} {members : List Member}
    (h : (group, members) ∈ (groupsOf frontends).toList) :
    (members.map fun m => routeKey m.2.frontend).Nodup := by
  have hmembers := getD_groupsOf frontends group
  rw [Std.ExtTreeMap.mem_toList_iff_getElem?_eq_some.1 h, Option.getD_some] at hmembers
  have hall : (frontends.zipIdx.map fun x => routeKey x.1.frontend).Nodup := by
    have hfst := List.map_map (f := Prod.fst (α := SourcedFrontend) (β := ℕ))
      (g := fun sf => routeKey sf.frontend) (l := frontends.zipIdx)
    rw [List.zipIdx_map_fst] at hfst
    exact hfst ▸ hkeys
  rw [hmembers, List.map_map]
  exact hall.sublist (List.filter_sublist.map _)

omit [External] [CharTable] in
/-- Every frontend is in its group, with its place. -/
theorem exists_group {x : SourcedFrontend × ℕ} (hx : x ∈ frontends.zipIdx) :
    ∃ members, (groupOf x.1.frontend, members) ∈ (groupsOf frontends).toList ∧
      x.swap ∈ members := by
  have hmem : x.swap ∈ (groupsOf frontends)[groupOf x.1.frontend]?.getD [] := by
    rw [getD_groupsOf]
    exact List.mem_map_of_mem (List.mem_filter.2 ⟨hx, decide_eq_true rfl⟩)
  cases hat : (groupsOf frontends)[groupOf x.1.frontend]? with
  | none =>
    rw [hat] at hmem
    exact absurd hmem List.not_mem_nil
  | some members =>
    rw [hat] at hmem
    exact ⟨members, Std.ExtTreeMap.mem_toList_iff_getElem?_eq_some.2 hat, hmem⟩

/-- A copy of a group is in the group. -/
theorem groupOf_copy {group : Group} {members : List Member}
    (h : (group, members) ∈ (groupsOf frontends).toList) {brought : Brought}
    (hbrought : brought ∈ (planGroup members).1) : groupOf brought.2 = group := by
  obtain ⟨u, hu, p, -, -, hrule⟩ := mem_planGroup hbrought
  rw [hrule, groupOf_liftedCopy]
  exact (mem_groupsOf h u hu).2

/-- **The lifting leaves every route key to one frontend**, copies included. -/
theorem nodup_routeKeys_lift (hkeys : (frontends.map fun sf => routeKey sf.frontend).Nodup)
    (hplaced : ∀ sf ∈ frontends, Placeable sf.frontend) :
    (((liftHeaderMatches frontends folded).kept.map SourcedFrontend.frontend ++
      (liftHeaderMatches frontends folded).copies).map routeKey).Nodup := by
  have hcopied : ∀ f ∈ (liftHeaderMatches frontends folded).copies, Placeable f := by
    intro f hf
    obtain ⟨u, hu, p, -, -, -, rfl⟩ := mem_copies hf
    exact (hplaced u hu).liftedCopy p.frontend
  have hbrought : ∀ group ∈ (groupsOf frontends).toList, ∀ brought ∈ (planGroup group.2).1,
      brought.2 ∈ (liftHeaderMatches frontends folded).copies := by
    intro group hgroup brought hmem
    exact List.mem_map_of_mem (mem_sortBy.2
      (List.mem_flatMap.2 ⟨_, List.mem_map_of_mem hgroup, hmem⟩))
  rw [List.map_append, List.nodup_append]
  refine ⟨?_, ?_, ?_⟩
  · have hsub : (liftHeaderMatches frontends folded).kept.Sublist frontends := by
      have hfilter := (List.filter_sublist (l := frontends.zipIdx)
        (p := fun x => decide (x.2 ∉ (((groupsOf frontends).toList.map fun group =>
          planGroup group.2).flatMap Prod.snd).map Prod.fst))).map Prod.fst
      rwa [List.zipIdx_map_fst] at hfilter
    rw [List.map_map]
    exact hkeys.sublist (hsub.map _)
  · have hperm : ((liftHeaderMatches frontends folded).copies.map routeKey).Perm
        ((groupsOf frontends).toList.flatMap fun group =>
          (planGroup group.2).1.map fun brought => routeKey brought.2) := by
      have hplans : ((((groupsOf frontends).toList.map fun group =>
          planGroup group.2).flatMap Prod.fst).map Prod.snd).map routeKey =
            (groupsOf frontends).toList.flatMap fun group =>
              (planGroup group.2).1.map fun brought => routeKey brought.2 := by
        rw [List.flatMap_map, List.map_map, List.map_flatMap]
        rfl
      exact hplans ▸ ((sortBy_perm Prod.fst _).map Prod.snd).map routeKey
    rw [hperm.nodup_iff, List.nodup_flatMap]
    refine ⟨fun group hgroup => (apart_planGroup (nodup_groupKeys hkeys hgroup)).1, ?_⟩
    refine Std.ExtTreeMap.distinct_keys_toList.imp_of_mem fun {g g'} hg hg' hdistinct => ?_
    rintro key hkey hkey'
    obtain ⟨b, hb, rfl⟩ := List.mem_map.1 hkey
    obtain ⟨b', hb', hsame⟩ := List.mem_map.1 hkey'
    refine hdistinct (Std.LawfulEqOrd.compare_eq_iff_eq.2 ?_)
    rw [← groupOf_copy hg hb, ← groupOf_copy hg' hb']
    exact groupOf_eq_of_routeKey_eq (hcopied _ (hbrought g hg b hb))
      (hcopied _ (hbrought g' hg' b' hb')) hsame.symm
  · -- a kept frontend is not skipped, so it does not hold the key of a copy
    intro key hkey _ hkey' rfl
    obtain ⟨f, hf, rfl⟩ := List.mem_map.1 hkey
    obtain ⟨sf, hsf, rfl⟩ := List.mem_map.1 hf
    obtain ⟨c, hc, hsame⟩ := List.mem_map.1 hkey'
    obtain ⟨x, hx, rfl⟩ := List.mem_map.1 hsf
    obtain ⟨hplace, hkept⟩ := List.mem_filter.1 hx
    obtain ⟨brought, hmem, rfl⟩ := List.mem_map.1 hc
    obtain ⟨plan, hplan, hmem⟩ := List.mem_flatMap.1 (mem_sortBy.1 hmem)
    obtain ⟨⟨group, members⟩, hgroup, rfl⟩ := List.mem_map.1 hplan
    have hx1 : x.1 ∈ frontends := List.fst_mem_of_mem_zipIdx hplace
    have hsameGroup : groupOf x.1.frontend = group := by
      rw [← groupOf_copy hgroup hmem]
      exact groupOf_eq_of_routeKey_eq (hplaced _ hx1) (hcopied _ (hbrought _ hgroup _ hmem))
        hsame.symm
    obtain ⟨members', hgroup', hin⟩ := exists_group hplace
    rw [hsameGroup, Std.ExtTreeMap.mem_toList_iff_getElem?_eq_some,
      Std.ExtTreeMap.mem_toList_iff_getElem?_eq_some.1 hgroup] at hgroup'
    obtain rfl := Option.some.inj hgroup'
    obtain ⟨skip, hskip, hskipped⟩ := List.mem_map.1
      ((apart_planGroup (nodup_groupKeys hkeys hgroup)).2 brought hmem x.swap hin hsame.symm)
    have hnot := of_decide_eq_true hkept
    exact hnot (List.mem_map.2 ⟨skip, List.mem_flatMap.2 ⟨_, hplan, hskip⟩, hskipped⟩)

end Keys

end Builder

end SozuGateway
