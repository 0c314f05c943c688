import SozuGateway.Builder.Build

/-!
# What the lifting keeps and copies

* `mem_chooseAll`, `mem_rounds`, `mem_planGroup` — a copy a group adds is that of one of
  its plain routes, above one of its header matches.
* `mem_groupsOf` — a group holds frontends of one hostname on one listener.
* `mem_copies`, `mem_kept` — the copies and the kept frontends of all groups.
-/

set_option autoImplicit false

namespace SozuGateway

namespace Builder

open Lib

section Lifting

variable [CharTable]

/-! ## One group -/

namespace GroupPlan

variable {plan : GroupPlan}

/-- A candidate of a header match is a plain route with its copy. -/
def IsCandidate (plan : GroupPlan) (p : Member) (c : Candidate) : Prop :=
  c.route ∈ plan.plain ∧ c.rule = liftedCopy c.route.2.frontend p.2.frontend

theorem mem_candidates {p : Member} {c : Candidate} (h : c ∈ plan.candidates p) :
    plan.IsCandidate p c := by
  unfold candidates at h
  split at h
  · exact absurd h List.not_mem_nil
  · obtain ⟨u, hu, rfl⟩ := List.mem_map.1 h
    exact ⟨List.mem_of_mem_filter hu, rfl⟩

/-- Weighing a candidate adds no other. -/
theorem mem_choose {skipped : List ℕ} {brought : List SozuRouteKey} {p : Member}
    {fresh fresh' : List Candidate} {candidate c : Candidate}
    (h : choose skipped brought p fresh candidate = .ok fresh') (hc : c ∈ fresh') :
    c ∈ fresh ∨ c = candidate := by
  unfold choose at h
  split at h
  · split at h
    · obtain rfl := Except.ok.inj h
      exact .inl hc
    · cases h
  · split at h
    · obtain rfl := Except.ok.inj h
      exact .inl hc
    split at h
    · obtain rfl := Except.ok.inj h
      obtain ⟨d, hd, rfl⟩ := List.mem_map.1 hc
      split
      · exact .inr rfl
      · exact .inl hd
    split at h
    · cases h
    · obtain rfl := Except.ok.inj h
      exact (List.mem_append.1 hc).imp id List.mem_singleton.1

theorem mem_foldlM_choose {skipped : List ℕ} {brought : List SozuRouteKey} {p : Member}
    {candidates fresh fresh' : List Candidate} {c : Candidate}
    (h : candidates.foldlM (choose skipped brought p) fresh = .ok fresh') (hc : c ∈ fresh') :
    c ∈ fresh ∨ c ∈ candidates := by
  induction candidates generalizing fresh with
  | nil =>
      obtain rfl := Except.ok.inj h
      exact .inl hc
  | cons candidate candidates ih =>
      rw [List.foldlM_cons] at h
      cases hchoose : choose skipped brought p fresh candidate with
      | error skip =>
          rw [hchoose] at h
          cases h
      | ok next =>
          rw [hchoose] at h
          rcases ih h with hnext | hrest
          · rcases mem_choose hchoose hnext with hfresh | rfl
            · exact .inl hfresh
            · exact .inr List.mem_cons_self
          · exact .inr (List.mem_cons_of_mem _ hrest)

/-- The chosen copies are those of candidates. -/
theorem mem_chooseAll {skipped : List ℕ} {brought : List SozuRouteKey} {originals : List Member}
    {chosen : List (Member × List Candidate)}
    (h : plan.chooseAll skipped brought originals = .ok chosen) {x : Member × List Candidate}
    (hx : x ∈ chosen) : x.1 ∈ originals ∧ ∀ c ∈ x.2, plan.IsCandidate x.1 c := by
  induction originals generalizing brought chosen with
  | nil =>
      obtain rfl := Except.ok.inj h
      exact absurd hx List.not_mem_nil
  | cons p rest ih =>
      unfold chooseAll at h
      split at h
      · exact (ih h hx).imp (List.mem_cons_of_mem _) id
      split at h
      · cases h
      rename_i fresh hfresh
      split at h
      · cases h
      rename_i chosen' hchosen
      obtain rfl := Except.ok.inj h
      rcases List.mem_cons.1 hx with rfl | hx
      · refine ⟨List.mem_cons_self, fun c hc => mem_candidates ?_⟩
        exact (mem_foldlM_choose hfresh hc).resolve_left List.not_mem_nil
      · exact (ih hchosen hx).imp (List.mem_cons_of_mem _) id

/-- A header match is skipped for one of its candidates. -/
theorem exists_of_foldlM_choose {skipped : List ℕ} {brought : List SozuRouteKey} {p : Member}
    {candidates fresh : List Candidate} {skip : Skip}
    (h : candidates.foldlM (choose skipped brought p) fresh = .error skip) :
    ∃ fresh', ∃ candidate ∈ candidates,
      choose skipped brought p fresh' candidate = .error skip := by
  induction candidates generalizing fresh with
  | nil => cases h
  | cons candidate candidates ih =>
    rw [List.foldlM_cons] at h
    cases hchoose : choose skipped brought p fresh candidate with
    | error found =>
      rw [hchoose] at h
      obtain rfl := Except.error.inj h
      exact ⟨fresh, candidate, List.mem_cons_self, hchoose⟩
    | ok next =>
      rw [hchoose] at h
      obtain ⟨fresh', c, hc, hskip⟩ := ih h
      exact ⟨fresh', c, List.mem_cons_of_mem _ hc, hskip⟩

/-- A round asks for the skip of a header match it has not skipped. -/
theorem exists_of_chooseAll {skipped : List ℕ} {brought : List SozuRouteKey}
    {originals : List Member} {skip : Skip}
    (h : plan.chooseAll skipped brought originals = .error skip) :
    ∃ p ∈ originals, p.1 ∉ skipped ∧ ∃ brought' fresh, ∃ candidate ∈ plan.candidates p,
      choose skipped brought' p fresh candidate = .error skip := by
  induction originals generalizing brought with
  | nil => cases h
  | cons p rest ih =>
    unfold chooseAll at h
    split_ifs at h with hp
    · obtain ⟨q, hq, hskip⟩ := ih h
      exact ⟨q, List.mem_cons_of_mem _ hq, hskip⟩
    split at h
    · rename_i found hfound
      obtain rfl := Except.error.inj h
      obtain ⟨fresh, candidate, hcandidate, hskip⟩ := exists_of_foldlM_choose hfound
      exact ⟨p, List.mem_cons_self, hp, brought, fresh, candidate, hcandidate, hskip⟩
    · split at h
      · rename_i found hfound
        obtain rfl := Except.error.inj h
        obtain ⟨q, hq, hskip⟩ := ih hfound
        exact ⟨q, List.mem_cons_of_mem _ hq, hskip⟩
      · cases h

/-- A copy of a plain route of the plan above one of its header matches. -/
def IsCopy (plan : GroupPlan) (brought : Brought) : Prop :=
  ∃ u ∈ plan.plain, ∃ p ∈ plan.originals, brought.2 = liftedCopy u.2.frontend p.2.frontend

variable [External]

theorem mem_round {admission admission' : Admission} {skipped : List ℕ} {copies : List Brought}
    (h : plan.round admission skipped = (admission', .ok copies)) {brought : Brought}
    (hbrought : brought ∈ copies) : plan.IsCopy brought := by
  unfold round at h
  split at h
  · cases h
  rename_i chosen hchosen
  dsimp only at h
  split at h
  · cases h
  · obtain rfl := Except.ok.inj (Prod.mk.inj h).2
    obtain ⟨entry, hentry, rfl⟩ := List.mem_map.1 hbrought
    obtain ⟨htier, hcopy⟩ := List.mem_filter.1 hentry
    obtain ⟨x, hx, hpredicated⟩ := List.mem_flatMap.1 htier
    obtain ⟨horiginal, hcandidates⟩ := mem_chooseAll hchosen hx
    unfold predicated at hpredicated
    rcases List.mem_cons.1 hpredicated with rfl | hpredicated
    · exact absurd hcopy Bool.false_ne_true
    · obtain ⟨c, hc, rfl⟩ := List.mem_map.1 hpredicated
      obtain ⟨hroute, hrule⟩ := hcandidates c hc
      exact ⟨c.route, hroute, x.1, horiginal, hrule⟩

theorem mem_rounds {fuel : ℕ} {admission : Admission} {skips : List Skip} {brought : Brought}
    (h : brought ∈ (plan.rounds fuel admission skips).1) : plan.IsCopy brought := by
  induction fuel generalizing admission skips with
  | zero => exact absurd h List.not_mem_nil
  | succ fuel ih =>
      unfold rounds at h
      split at h
      · rename_i hround
        exact mem_round hround h
      · exact ih h

end GroupPlan

variable [External]

/-- **A copy a group adds is that of one of its plain routes above one of its header
matches.** -/
theorem mem_planGroup {members : List Member} {brought : Brought}
    (h : brought ∈ (planGroup members).1) :
    ∃ u ∈ members, ∃ p ∈ members, u.2.frontend.headerMatches = [] ∧
      brought.2 = liftedCopy u.2.frontend p.2.frontend := by
  unfold planGroup at h
  dsimp only at h
  split at h
  · exact absurd h List.not_mem_nil
  · obtain ⟨u, hu, p, hp, hrule⟩ := GroupPlan.mem_rounds h
    obtain ⟨humem, hplain⟩ := List.mem_filter.1 hu
    refine ⟨u, humem, p, List.mem_of_mem_filter (List.mem_of_mem_take hp), ?_, hrule⟩
    exact List.isEmpty_iff.1 (Bool.and_eq_true_iff.1 hplain).1

/-! ## All groups -/

omit [External] [CharTable] in
/-- A group holds frontends of its hostname and listener, each with its place. -/
theorem mem_groupsOf {frontends : List SourcedFrontend} {group : Group} {members : List Member}
    (h : (group, members) ∈ (groupsOf frontends).toList) :
    ∀ m ∈ members, frontends[m.1]? = some m.2 ∧ groupOf m.2.frontend = group := by
  have hfold : ∀ (l : List (SourcedFrontend × ℕ)) (groups : BTreeMap Group (List Member)),
      (∀ x ∈ l, frontends[x.2]? = some x.1) →
        (∀ group members, groups[group]? = some members →
          ∀ m ∈ members, frontends[m.1]? = some m.2 ∧ groupOf m.2.frontend = group) →
          ∀ group members, (l.foldl (fun groups x =>
            groups.insert (groupOf x.1.frontend)
              (groups[groupOf x.1.frontend]?.getD [] ++ [(x.2, x.1)])) groups)[group]? =
                some members →
                  ∀ m ∈ members, frontends[m.1]? = some m.2 ∧ groupOf m.2.frontend = group := by
    intro l
    induction l with
    | nil => exact fun _ _ h => h
    | cons x l ih =>
        intro groups hl hgroups
        refine ih _ (fun y hy => hl y (List.mem_cons_of_mem _ hy)) fun group members hmembers => ?_
        rw [BTreeMap.getElem?_insert] at hmembers
        split at hmembers
        · rename_i hgroup
          obtain rfl := Option.some.inj hmembers
          intro m hm
          rcases List.mem_append.1 hm with hm | hm
          · cases hold : groups[groupOf x.1.frontend]? with
            | none =>
                rw [hold] at hm
                exact absurd hm List.not_mem_nil
            | some old =>
                rw [hold] at hm
                exact hgroup ▸ hgroups _ old hold m hm
          · obtain rfl := List.mem_singleton.1 hm
            exact ⟨hl x List.mem_cons_self, hgroup⟩
        · exact hgroups group members hmembers
  have hat := Std.ExtTreeMap.mem_toList_iff_getElem?_eq_some.1 h
  refine hfold frontends.zipIdx ∅ (fun x hx => List.mem_zipIdx_iff_getElem?.1 hx) ?_ group members
    hat
  intro group members hmembers
  rw [BTreeMap.getElem?_empty] at hmembers
  cases hmembers

/-- **A copy is that of a plain route, above a header match of the same hostname on the same
listener.** -/
theorem mem_copies {frontends folded : List SourcedFrontend} {f : Frontend}
    (h : f ∈ (liftHeaderMatches frontends folded).copies) :
    ∃ u ∈ frontends, ∃ p ∈ frontends, u.frontend.headerMatches = [] ∧
      groupOf u.frontend = groupOf p.frontend ∧ f = liftedCopy u.frontend p.frontend := by
  obtain ⟨brought, hbrought, rfl⟩ := List.mem_map.1 h
  obtain ⟨plan, hplan, hmem⟩ := List.mem_flatMap.1 (mem_sortBy.1 hbrought)
  obtain ⟨⟨group, members⟩, hgroup, rfl⟩ := List.mem_map.1 hplan
  obtain ⟨u, hu, p, hp, hplain, hrule⟩ := mem_planGroup hmem
  have hmembers := mem_groupsOf hgroup
  refine ⟨u.2, List.mem_of_getElem? (hmembers u hu).1, p.2, List.mem_of_getElem? (hmembers p hp).1,
    hplain, ?_, hrule⟩
  exact (hmembers u hu).2.trans (hmembers p hp).2.symm

/-- The lifting keeps frontends it was given. -/
theorem mem_kept {frontends folded : List SourcedFrontend} {sf : SourcedFrontend}
    (h : sf ∈ (liftHeaderMatches frontends folded).kept) : sf ∈ frontends := by
  obtain ⟨x, hx, rfl⟩ := List.mem_map.1 h
  exact List.fst_mem_of_mem_zipIdx (List.mem_of_mem_filter hx)

end Lifting

/-! ## The frontends of the build -/

/-- The frontends a build emits: those of the walks, and copies of plain ones. -/
theorem mem_irFrontends [External] [CharTable] {cfg : BuildConfig} {inputs : Inputs}
    {emissions : List Emission} {f : Frontend}
    (h : f ∈ (arbitrate cfg inputs emissions).lifted.kept.map SourcedFrontend.frontend ++
      (arbitrate cfg inputs emissions).lifted.copies) :
    ∃ sf, .frontend sf ∈ emissions ∧ (f = sf.frontend ∨ sf.frontend.headerMatches = [] ∧
      ∃ p, groupOf sf.frontend = groupOf p ∧ f = liftedCopy sf.frontend p) := by
  have hresolved : ∀ sf ∈ (arbitrate cfg inputs emissions).resolved.kept,
      Emission.frontend sf ∈ emissions := by
    intro sf hsf
    have hkept : sf ∈ (resolveFrontendCollisions (emissions.filterMap Emission.frontend?)
      (ownerClaims cfg inputs)).kept := hsf
    rw [kept_resolve] at hkept
    have hemitted := mem_settled.1 (mem_of_mem_uniqueBy hkept)
    obtain ⟨e, he, hfrontend⟩ := List.mem_filterMap.1 hemitted
    cases e <;> cases hfrontend
    exact he
  rcases List.mem_append.1 h with h | h
  · obtain ⟨sf, hsf, rfl⟩ := List.mem_map.1 h
    exact ⟨sf, hresolved sf (mem_kept hsf), .inl rfl⟩
  · obtain ⟨u, hu, p, -, hplain, hgroup, rfl⟩ := mem_copies h
    exact ⟨u, hresolved u hu, .inr ⟨hplain, p.frontend, hgroup, rfl⟩⟩

end Builder

end SozuGateway
