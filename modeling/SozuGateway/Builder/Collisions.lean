import SozuGateway.Builder.Claims
import SozuGateway.Lib.Unique
import SozuGateway.Lib.Sorting
import SozuGateway.Sozu.Reference

/-!
# One frontend per route key

`resolve_frontend_collisions` of `crates/builder/src/lib.rs`: Sōzu holds one frontend per
route key, so the oldest claimant keeps it and the losers are told.

* `sameMatch`, `sameEffect` — two frontends match the same requests, or do the same with
  them.
* `arrivals` — the frontends by claim, then in emission order.
* `resolveFrontendCollisions` — the frontends kept, those folded into one of them, and
  the collisions.
* `OwnsKey`, `Repeats`, `Collides` — the fate of a frontend;
  `resolve_frontend_collisions_accounted` — the result is read off the fates, and newer
  claimants change none of the older ones.
-/

set_option autoImplicit false

namespace SozuGateway

namespace Builder

open Lib

/-! ## The resolution -/

/-- The raw path value of a match. -/
def pathValue : PathMatch → String
  | .pathPrefix v | .exact v | .regex v => v

/-- The two frontends match the same requests. -/
def sameMatch (a b : Frontend) : Bool :=
  a.tls = b.tls ∧ a.listener = b.listener ∧ a.hostname = b.hostname ∧
    a.path.sozuRule = b.path.sozuRule ∧ a.method = b.method ∧
      HeaderMatch.canonical a.headerMatches = HeaderMatch.canonical b.headerMatches

/-- The two frontends do the same with what they match. -/
def sameEffect (a b : Frontend) : Bool := a.clusterId = b.clusterId ∧ a.filters = b.filters

/-- Where a frontend goes among the others: by its owner's claim, then in emission
order. -/
def arrival (claims : BTreeMap OwnerIdent OwnerClaim) (x : ℕ × SourcedFrontend) :
    OwnerClaim ×ₗ ℕ := toLex (claimOf x.2.source claims, x.1)

/-- The frontends with their emission order, by claim and then in that order. -/
def arrivals (claims : BTreeMap OwnerIdent OwnerClaim) (frontends : List SourcedFrontend) :
    List (ℕ × SourcedFrontend) := sortBy (arrival claims) (frontends.zipIdx.map Prod.swap)

section Keys

variable [CharTable]

def routeKey (f : Frontend) : SozuRouteKey := f.sozuRouteKey

/-- The frontends kept, and the place among them of each route key's holder. -/
structure Winners where
  kept : List SourcedFrontend
  places : BTreeMap SozuRouteKey ℕ

namespace Winners

/-- Keep a frontend unless its key is held. -/
def keep (w : Winners) (sf : SourcedFrontend) : Winners :=
  match w.places[routeKey sf.frontend]? with
  | some _ => w
  | none =>
      { kept := w.kept ++ [sf]
        places := w.places.insert (routeKey sf.frontend) w.kept.length }

/-- The kept frontend that holds a key. -/
def holder (w : Winners) (key : SozuRouteKey) : Option SourcedFrontend :=
  w.places[key]?.bind fun place => w.kept[place]?

end Winners

/-- The frontends folded into a kept one, and the collisions. -/
structure Losers where
  folded : List SourcedFrontend
  collisions : List (FrontendSource × Problem)

/-- What a losing frontend is told. -/
def routeCollision (winner sf : Frontend) : Problem :=
  .routeCollision sf.hostname (pathValue sf.path) (winner.clusterId.getD "<redirect>")
    (!sameMatch winner sf)

/-- The frontend repeats the winner's match: for the same object, or with the same
effect. -/
def benign (winner sf : SourcedFrontend) : Bool :=
  sameMatch winner.frontend sf.frontend &&
    (winner.source.ownerIdent = sf.source.ownerIdent || sameEffect winner.frontend sf.frontend)

/-- Settle one frontend against the holder of its key. -/
def Losers.settle (w : Winners) (l : Losers) (sf : SourcedFrontend) : Losers :=
  match w.holder (routeKey sf.frontend) with
  -- every key has its holder by now
  | none => l
  | some winner =>
      if benign winner sf then
        -- the kept frontend itself, and a repeat from its own source, add nothing
        if sameEffect winner.frontend sf.frontend && sf.source ≠ winner.source then
          { l with folded := l.folded ++ [sf] }
        else l
      else
        { l with
          collisions := l.collisions ++ [(sf.source, routeCollision winner.frontend sf.frontend)] }

/-- What the resolution of the collisions gives. -/
structure Resolved where
  kept : List SourcedFrontend
  folded : List SourcedFrontend
  collisions : List (FrontendSource × Problem)

/-- Keep one frontend per Sōzu route key and report the losers. -/
def resolveFrontendCollisions (frontends : List SourcedFrontend)
    (claims : BTreeMap OwnerIdent OwnerClaim) : Resolved :=
  let sorted := (arrivals claims frontends).map Prod.snd
  let winners := sorted.foldl Winners.keep ⟨[], ∅⟩
  let losers := sorted.foldl (Losers.settle winners) ⟨[], []⟩
  ⟨winners.kept, losers.folded, losers.collisions⟩

/-! ## The holders -/

/-- The route key of a sourced frontend. -/
def SourcedFrontend.key (sf : SourcedFrontend) : SozuRouteKey := routeKey sf.frontend

/-- The places are where the keys' holders are. -/
structure Winners.Valid (w : Winners) : Prop where
  holder_eq : ∀ key, w.holder key = w.kept.find? fun sf => sf.key = key
  mem_iff : ∀ key : SozuRouteKey, w.places[key]? ≠ none ↔ key ∈ w.kept.map SourcedFrontend.key

theorem Winners.valid_empty : Winners.Valid ⟨[], ∅⟩ where
  holder_eq key := by simp [holder]
  mem_iff key := by simp

theorem Winners.kept_keep {w : Winners} (hw : w.Valid) (sf : SourcedFrontend) :
    (w.keep sf).kept = if sf.key ∈ w.kept.map SourcedFrontend.key then w.kept
      else w.kept ++ [sf] := by
  unfold keep
  have hmem := hw.mem_iff sf.key
  show (match w.places[sf.key]? with
    | some _ => w
    | none => (⟨w.kept ++ [sf], w.places.insert sf.key w.kept.length⟩ : Winners)).kept = _
  cases hplace : w.places[sf.key]? with
  | none => rw [if_neg fun h => hmem.2 h hplace]
  | some place => rw [if_pos (hmem.1 (by simp [hplace]))]

theorem Winners.Valid.keep {w : Winners} (hw : w.Valid) (sf : SourcedFrontend) :
    (w.keep sf).Valid := by
  have hmem := hw.mem_iff sf.key
  unfold Winners.keep
  show Winners.Valid (match w.places[sf.key]? with
    | some _ => w
    | none => (⟨w.kept ++ [sf], w.places.insert sf.key w.kept.length⟩ : Winners))
  cases hplace : w.places[sf.key]? with
  | some place => exact hw
  | none =>
    have hnot : sf.key ∉ w.kept.map SourcedFrontend.key := fun h => hmem.2 h hplace
    refine ⟨fun key => ?_, fun key => ?_⟩
    · unfold Winners.holder
      rw [BTreeMap.getElem?_insert, List.find?_append]
      by_cases hkey : sf.key = key
      · subst hkey
        have hnone : w.kept.find? (fun x => x.key = sf.key) = none := by
          rw [List.find?_eq_none]
          intro x hx hkey
          exact hnot (List.mem_map.2 ⟨x, hx, by simpa using hkey⟩)
        simp [hnone]
      · have hholder := hw.holder_eq key
        rw [if_neg hkey]
        cases hat : w.places[key]? with
        | none =>
          have hnone : w.kept.find? (fun x => x.key = key) = none := by
            rw [← hholder, Winners.holder, hat]
            rfl
          simp [hnone, hkey]
        | some place =>
          rw [Winners.holder, hat] at hholder
          simp only [Option.bind_some] at hholder ⊢
          obtain ⟨x, hx⟩ : ∃ x, w.kept[place]? = some x := by
            have hin := (hw.mem_iff key).1 (by simp [hat])
            obtain ⟨x, hx, hxkey⟩ := List.mem_map.1 hin
            cases hfind : w.kept.find? fun sf => sf.key = key with
            | none => exact absurd hxkey (by simpa using List.find?_eq_none.1 hfind x hx)
            | some y => exact ⟨y, hholder.trans hfind⟩
          have hlt : place < w.kept.length := (List.getElem?_eq_some_iff.1 hx).1
          rw [List.getElem?_append_left hlt, hholder, ← hholder, hx]
          rfl
    · rw [BTreeMap.getElem?_insert, List.map_append, List.mem_append]
      by_cases hkey : sf.key = key
      · simp [hkey]
      · rw [if_neg hkey, hw.mem_iff]
        simp [Ne.symm hkey]

/-- **The kept frontends are the first of each key**, and each key's holder is the
first of it. -/
theorem foldl_keep {w : Winners} (hw : w.Valid) (l : List SourcedFrontend) :
    (l.foldl Winners.keep w).Valid ∧ (l.foldl Winners.keep w).kept =
      w.kept ++ uniqueFrom SourcedFrontend.key (w.kept.map SourcedFrontend.key) l := by
  induction l generalizing w with
  | nil => exact ⟨hw, by simp [uniqueFrom]⟩
  | cons sf l ih =>
    obtain ⟨hvalid, hkept⟩ := ih (hw.keep sf)
    refine ⟨hvalid, ?_⟩
    rw [List.foldl_cons, hkept, Winners.kept_keep hw, uniqueFrom]
    by_cases hmem : sf.key ∈ w.kept.map SourcedFrontend.key
    · rw [if_pos hmem, if_pos hmem]
    · rw [if_neg hmem, if_neg hmem, List.append_assoc]
      refine congrArg _ (congrArg _ (uniqueFrom_congr (fun k => ?_) l))
      simp only [List.map_append, List.mem_append, List.map_cons, List.map_nil, List.mem_cons]
      tauto

/-- The frontends in the order they are settled. -/
def settled (claims : BTreeMap OwnerIdent OwnerClaim) (frontends : List SourcedFrontend) :
    List SourcedFrontend := (arrivals claims frontends).map Prod.snd

theorem kept_resolve (frontends : List SourcedFrontend) (claims : BTreeMap OwnerIdent OwnerClaim) :
    (resolveFrontendCollisions frontends claims).kept =
      uniqueBy SourcedFrontend.key (settled claims frontends) := by
  have hkept := (foldl_keep Winners.valid_empty (settled claims frontends)).2
  rwa [List.nil_append] at hkept

/-- What a frontend is told, given the holder of its key. -/
def verdict (holder : Option SourcedFrontend) (sf : SourcedFrontend) :
    Option (FrontendSource × Problem) :=
  match holder with
  | none => none
  | some winner =>
      if benign winner sf then none
      else some (sf.source, routeCollision winner.frontend sf.frontend)

theorem Losers.collisions_settle (w : Winners) (l : Losers) (sf : SourcedFrontend) :
    (l.settle w sf).collisions = l.collisions ++ (verdict (w.holder sf.key) sf).toList := by
  unfold Losers.settle verdict
  show (match w.holder sf.key with
    | none => l
    | some winner => _).collisions = _
  cases w.holder sf.key with
  | none => simp
  | some winner =>
    by_cases hbenign : benign winner sf
    · simp only [hbenign, if_true, Option.toList_none, List.append_nil]
      split <;> rfl
    · simp [hbenign]

theorem Losers.collisions_foldl (w : Winners) (l : Losers) (sfs : List SourcedFrontend) :
    (sfs.foldl (Losers.settle w) l).collisions =
      l.collisions ++ sfs.filterMap fun sf => verdict (w.holder sf.key) sf := by
  induction sfs generalizing l with
  | nil => simp
  | cons sf sfs ih =>
    rw [List.foldl_cons, ih, Losers.collisions_settle, List.append_assoc, List.filterMap_cons]
    cases verdict (w.holder sf.key) sf <;> rfl

/-- The first frontend of a key. -/
def firstOf (sfs : List SourcedFrontend) (key : SozuRouteKey) : Option SourcedFrontend :=
  sfs.find? fun sf => sf.key = key

theorem collisions_resolve (frontends : List SourcedFrontend)
    (claims : BTreeMap OwnerIdent OwnerClaim) :
    (resolveFrontendCollisions frontends claims).collisions =
      (settled claims frontends).filterMap fun sf =>
        verdict (firstOf (settled claims frontends) sf.key) sf := by
  obtain ⟨hvalid, hkept⟩ := foldl_keep Winners.valid_empty (settled claims frontends)
  have hholder : ∀ key, ((settled claims frontends).foldl Winners.keep ⟨[], ∅⟩).holder key =
      firstOf (settled claims frontends) key := by
    intro key
    rw [hvalid.holder_eq, hkept]
    exact find?_uniqueBy _ _
  show ((settled claims frontends).foldl (Losers.settle
    ((settled claims frontends).foldl Winners.keep ⟨[], ∅⟩)) ⟨[], []⟩).collisions = _
  rw [Losers.collisions_foldl, List.nil_append]
  simp only [hholder]

/-! ## Fates -/

section Arrivals

omit [CharTable]

theorem mem_arrivals {claims : BTreeMap OwnerIdent OwnerClaim} {frontends : List SourcedFrontend}
    {x : ℕ × SourcedFrontend} : x ∈ arrivals claims frontends ↔ frontends[x.1]? = some x.2 := by
  rw [arrivals, mem_sortBy, List.mem_map]
  constructor
  · rintro ⟨⟨sf, i⟩, hmem, rfl⟩
    simpa [List.mem_zipIdx_iff_getElem?] using hmem
  · intro h
    exact ⟨(x.2, x.1), by simpa [List.mem_zipIdx_iff_getElem?] using h, rfl⟩

theorem nodup_arrivals (claims : BTreeMap OwnerIdent OwnerClaim)
    (frontends : List SourcedFrontend) : (arrivals claims frontends).Nodup :=
  nodup_sortBy.2 ((List.nodup_zipIdx_map_snd frontends).of_map.map Prod.swap_injective)

/-- No two frontends go to the same place. -/
theorem arrivals_pairwise (claims : BTreeMap OwnerIdent OwnerClaim)
    (frontends : List SourcedFrontend) :
    (arrivals claims frontends).Pairwise fun x y => arrival claims x < arrival claims y := by
  have hle := pairwise_sortBy (arrival claims) (frontends.zipIdx.map Prod.swap)
  refine (hle.and (nodup_arrivals claims frontends)).imp_of_mem fun {x y} hx hy h => ?_
  refine lt_of_le_of_ne h.1 fun heq => h.2 ?_
  -- the emission order tells two frontends apart
  have hat : x.1 = y.1 := congrArg (fun p => (ofLex p).2) heq
  have hsome := (mem_arrivals.1 hx).symm.trans (hat ▸ mem_arrivals.1 hy)
  exact Prod.ext hat (Option.some.inj hsome)

/-- The frontends emitted are the frontends settled. -/
theorem exists_mem_arrivals {claims : BTreeMap OwnerIdent OwnerClaim}
    {frontends : List SourcedFrontend} {sf : SourcedFrontend} :
    (∃ i, (i, sf) ∈ arrivals claims frontends) ↔ sf ∈ frontends := by
  simp only [mem_arrivals]
  exact List.mem_iff_getElem?.symm

end Arrivals

section Fates

variable (claims : BTreeMap OwnerIdent OwnerClaim) (frontends : List SourcedFrontend)

/-- The frontend comes before every other of its key. -/
def OwnsKey (x : ℕ × SourcedFrontend) : Prop :=
  ∀ y ∈ arrivals claims frontends, y.2.key = x.2.key → arrival claims x ≤ arrival claims y

/-- The frontend repeats the match of its key's owner, for the same object or with the
same effect. -/
def Repeats (x : ℕ × SourcedFrontend) : Prop :=
  ¬OwnsKey claims frontends x ∧ ∃ owner ∈ arrivals claims frontends,
    OwnsKey claims frontends owner ∧ owner.2.key = x.2.key ∧ benign owner.2 x.2 = true

/-- The frontend shares its owner's key, and is not a repeat of it. -/
def Collides (x : ℕ × SourcedFrontend) : Prop :=
  ∃ owner ∈ arrivals claims frontends,
    OwnsKey claims frontends owner ∧ owner.2.key = x.2.key ∧ benign owner.2 x.2 = false

instance (x : ℕ × SourcedFrontend) : Decidable (OwnsKey claims frontends x) :=
  inferInstanceAs (Decidable (∀ y ∈ arrivals claims frontends, _))

instance (x : ℕ × SourcedFrontend) : Decidable (Collides claims frontends x) :=
  inferInstanceAs (Decidable (∃ owner ∈ arrivals claims frontends, _))

variable {claims frontends}

theorem find?_eq_owner {x : ℕ × SourcedFrontend} {key : SozuRouteKey} :
    (arrivals claims frontends).find? (fun y => y.2.key = key) = some x ↔
      x ∈ arrivals claims frontends ∧ OwnsKey claims frontends x ∧ x.2.key = key := by
  rw [find?_eq_some_iff_least (arrivals_pairwise claims frontends)]
  simp only [decide_eq_true_eq]
  constructor
  · rintro ⟨hx, rfl, hleast⟩
    exact ⟨hx, hleast, rfl⟩
  · rintro ⟨hx, howns, rfl⟩
    exact ⟨hx, rfl, howns⟩

/-- **A key in use has one owner.** -/
theorem existsUnique_owner {x : ℕ × SourcedFrontend} (hx : x ∈ arrivals claims frontends) :
    ∃! owner, owner ∈ arrivals claims frontends ∧ OwnsKey claims frontends owner ∧
      owner.2.key = x.2.key := by
  simp only [← find?_eq_owner]
  cases hfind : (arrivals claims frontends).find? fun y => y.2.key = x.2.key with
  | none => simpa using List.find?_eq_none.1 hfind x hx
  | some owner => exact ⟨owner, rfl, fun other hother => (Option.some.inj hother).symm⟩

theorem firstOf_settled (key : SozuRouteKey) :
    firstOf (settled claims frontends) key =
      ((arrivals claims frontends).find? fun y => y.2.key = key).map Prod.snd := by
  rw [firstOf, settled, List.find?_map]
  rfl

/-- The kept frontends are the owners, in their order. -/
theorem kept_eq_owners :
    (resolveFrontendCollisions frontends claims).kept =
      ((arrivals claims frontends).filter fun x => OwnsKey claims frontends x).map Prod.snd := by
  rw [kept_resolve, settled, uniqueBy, uniqueFrom_map]
  refine congrArg _ ((uniqueBy_eq_filter (nodup_arrivals claims frontends)).trans ?_)
  refine List.filter_congr fun x hx => ?_
  rw [decide_eq_decide, find?_eq_owner]
  exact ⟨fun h => h.2.1, fun h => ⟨hx, h, rfl⟩⟩

/-- **Every frontend has one of the three fates.** -/
theorem owns_or_repeats_or_collides {x : ℕ × SourcedFrontend}
    (hx : x ∈ arrivals claims frontends) :
    OwnsKey claims frontends x ∨ Repeats claims frontends x ∨ Collides claims frontends x := by
  obtain ⟨owner, ⟨hmem, howns, hkey⟩, -⟩ := existsUnique_owner hx
  by_cases hx' : OwnsKey claims frontends x
  · exact .inl hx'
  · cases hbenign : benign owner.2 x.2 with
    | true => exact .inr (.inl ⟨hx', owner, hmem, howns, hkey, hbenign⟩)
    | false => exact .inr (.inr ⟨owner, hmem, howns, hkey, hbenign⟩)

omit [CharTable] in
theorem benign_self (sf : SourcedFrontend) : benign sf sf = true := by
  simp [benign, sameMatch]

/-- **No frontend has two of them.** -/
theorem not_collides {x : ℕ × SourcedFrontend} (hx : x ∈ arrivals claims frontends)
    (h : OwnsKey claims frontends x ∨ Repeats claims frontends x) :
    ¬Collides claims frontends x := by
  rintro ⟨owner, hmem, howns, hkey, hbenign⟩
  rcases h with h | ⟨-, other, hmem', howns', hkey', hbenign'⟩
  · have hself : owner = x := (existsUnique_owner hx).unique ⟨hmem, howns, hkey⟩ ⟨hx, h, rfl⟩
    rw [hself, benign_self] at hbenign
    exact Bool.noConfusion hbenign
  · have hother : owner = other :=
      (existsUnique_owner hx).unique ⟨hmem, howns, hkey⟩ ⟨hmem', howns', hkey'⟩
    rw [hother, hbenign'] at hbenign
    exact Bool.noConfusion hbenign

/-- What the report on a colliding frontend says. -/
def ReportedBy (claims : BTreeMap OwnerIdent OwnerClaim) (frontends : List SourcedFrontend)
    (x : ℕ × SourcedFrontend) (collision : FrontendSource × Problem) : Prop :=
  ∃ owner ∈ arrivals claims frontends, OwnsKey claims frontends owner ∧ owner.2.key = x.2.key ∧
    collision = (x.2.source, .routeCollision x.2.frontend.hostname (pathValue x.2.frontend.path)
      (owner.2.frontend.clusterId.getD "<redirect>") (!sameMatch owner.2.frontend x.2.frontend))

/-- **The collisions are the reports on the colliding frontends**, one each, in their
order. -/
theorem collisions_forall₂ :
    List.Forall₂ (ReportedBy claims frontends)
      ((arrivals claims frontends).filter fun x => Collides claims frontends x)
      (resolveFrontendCollisions frontends claims).collisions := by
  rw [collisions_resolve, settled, List.filterMap_map]
  have hverdict : ∀ x ∈ arrivals claims frontends, ∃ owner ∈ arrivals claims frontends,
      OwnsKey claims frontends owner ∧ owner.2.key = x.2.key ∧
        firstOf (settled claims frontends) x.2.key = some owner.2 := by
    intro x hx
    obtain ⟨owner, howner, -⟩ := existsUnique_owner hx
    refine ⟨owner, howner.1, howner.2.1, howner.2.2, ?_⟩
    rw [firstOf_settled, find?_eq_owner.2 howner]
    rfl
  refine forall₂_filterMap (fun x hx => ?_) fun x hx collision hcollision => ?_
  · obtain ⟨owner, hmem, howns, hkey, hfirst⟩ := hverdict x hx
    show _ = (verdict (firstOf (settled claims frontends) x.2.key) x.2).isSome
    rw [hfirst, verdict]
    cases hbenign : benign owner.2 x.2 with
    | false => simpa using ⟨owner, hmem, howns, hkey, hbenign⟩
    | true =>
      simp only [if_true, Option.isSome_none, decide_eq_false_iff_not]
      by_cases hown : OwnsKey claims frontends x
      · exact not_collides hx (.inl hown)
      · exact not_collides hx (.inr ⟨hown, owner, hmem, howns, hkey, hbenign⟩)
  · obtain ⟨owner, hmem, howns, hkey, hfirst⟩ := hverdict x hx
    refine ⟨owner, hmem, howns, hkey, ?_⟩
    have hsome : verdict (firstOf (settled claims frontends) x.2.key) x.2 = some collision :=
      hcollision
    rw [hfirst, verdict] at hsome
    cases hbenign : benign owner.2 x.2 with
    | false => simpa [hbenign, routeCollision] using hsome.symm
    | true => simp [hbenign] at hsome

end Fates

/-! ## Newer claimants -/

section Newer

variable {claims claims' : BTreeMap OwnerIdent OwnerClaim} {frontends newer : List SourcedFrontend}

omit [CharTable] in
/-- Newer frontends are settled after all the others. -/
theorem settled_append
    (hclaims : ∀ sf ∈ frontends, claimOf sf.source claims' = claimOf sf.source claims)
    (hnewer : ∀ sf ∈ frontends, ∀ new ∈ newer,
      claimOf sf.source claims' < claimOf new.source claims') :
    ∃ rest, settled claims' (frontends ++ newer) = settled claims frontends ++ rest ∧
      ∀ new ∈ rest, new ∈ newer := by
  have hfirst : ∀ x ∈ frontends.zipIdx.map Prod.swap, x.2 ∈ frontends := by
    intro x hx
    obtain ⟨y, hy, rfl⟩ := List.mem_map.1 hx
    exact List.fst_mem_of_mem_zipIdx hy
  have hlast : ∀ n, ∀ x ∈ (newer.zipIdx n).map Prod.swap, x.2 ∈ newer := by
    intro n x hx
    obtain ⟨y, hy, rfl⟩ := List.mem_map.1 hx
    exact List.fst_mem_of_mem_zipIdx hy
  refine ⟨(sortBy (arrival claims') ((newer.zipIdx (0 + frontends.length)).map Prod.swap)).map
    Prod.snd, ?_, fun new hnew => ?_⟩
  · rw [settled, settled, arrivals, arrivals, List.zipIdx_append, List.map_append, sortBy_append,
      List.map_append]
    · refine congrArg (fun l => List.map Prod.snd l ++ _) (sortBy_congr fun x hx => ?_)
      rw [arrival, arrival, hclaims _ (hfirst x hx)]
    · intro x hx y hy
      exact Prod.Lex.lt_iff.2 (.inl (hnewer _ (hfirst x hx) _ (hlast _ y hy)))
  · obtain ⟨x, hx, rfl⟩ := List.mem_map.1 hnew
    exact hlast _ x (mem_sortBy.1 hx)

omit [CharTable] in
theorem mem_settled {sf : SourcedFrontend} :
    sf ∈ settled claims frontends ↔ sf ∈ frontends := by
  rw [← @exists_mem_arrivals claims frontends, settled, List.mem_map]
  exact ⟨fun ⟨x, hx, hsf⟩ => ⟨x.1, hsf ▸ hx⟩, fun ⟨i, hi⟩ => ⟨(i, sf), hi, rfl⟩⟩

theorem firstOf_append {sfs rest : List SourcedFrontend} {sf : SourcedFrontend} (h : sf ∈ sfs) :
    firstOf (sfs ++ rest) sf.key = firstOf sfs sf.key := by
  rw [firstOf, firstOf, List.find?_append]
  cases hfind : sfs.find? fun x => x.key = sf.key with
  | none => simpa using List.find?_eq_none.1 hfind sf h
  | some owner => rfl

/-- **Newer claimants take no key**: the frontends kept for the keys already in use are
the same. -/
theorem kept_append
    (hclaims : ∀ sf ∈ frontends, claimOf sf.source claims' = claimOf sf.source claims)
    (hnewer : ∀ sf ∈ frontends, ∀ new ∈ newer,
      claimOf sf.source claims' < claimOf new.source claims') :
    (resolveFrontendCollisions (frontends ++ newer) claims').kept.filter
        (fun sf => sf.key ∈ frontends.map SourcedFrontend.key) =
      (resolveFrontendCollisions frontends claims).kept := by
  obtain ⟨rest, hsettled, -⟩ := settled_append hclaims hnewer
  have hkeys : ∀ key, key ∈ (settled claims frontends).map SourcedFrontend.key ↔
      key ∈ frontends.map SourcedFrontend.key := by
    intro key
    simp only [List.mem_map, mem_settled]
  rw [kept_resolve, kept_resolve, hsettled, uniqueBy, uniqueFrom_append, List.filter_append]
  have hold : (uniqueFrom SourcedFrontend.key [] (settled claims frontends)).filter
      (fun sf => sf.key ∈ frontends.map SourcedFrontend.key) =
        uniqueBy SourcedFrontend.key (settled claims frontends) := by
    refine List.filter_eq_self.2 fun sf hsf => decide_eq_true ((hkeys _).1 ?_)
    exact List.mem_map_of_mem (mem_of_mem_uniqueBy hsf)
  have hnew : (uniqueFrom SourcedFrontend.key
      ((settled claims frontends).map SourcedFrontend.key ++ []) rest).filter
        (fun sf => sf.key ∈ frontends.map SourcedFrontend.key) = [] := by
    refine List.filter_eq_nil_iff.2 fun sf hsf hin => (mem_uniqueFrom.1 hsf).1 ?_
    rw [List.append_nil, hkeys]
    exact of_decide_eq_true hin
  rw [hold, hnew, List.append_nil]

/-- **Newer claimants cost no one a route**: the collisions reported on the sources
already there are the same. -/
theorem collisions_append
    (hclaims : ∀ sf ∈ frontends, claimOf sf.source claims' = claimOf sf.source claims)
    (hnewer : ∀ sf ∈ frontends, ∀ new ∈ newer,
      claimOf sf.source claims' < claimOf new.source claims') :
    (resolveFrontendCollisions (frontends ++ newer) claims').collisions.filter
        (fun collision => collision.1 ∈ frontends.map SourcedFrontend.source) =
      (resolveFrontendCollisions frontends claims).collisions := by
  obtain ⟨rest, hsettled, hrest⟩ := settled_append hclaims hnewer
  have hsource : ∀ holder sf collision, verdict holder sf = some collision →
      collision.1 = sf.source := by
    intro holder sf collision h
    unfold verdict at h
    split at h
    · cases h
    · split at h
      · cases h
      · exact (Option.some.inj h) ▸ rfl
  rw [collisions_resolve, collisions_resolve, hsettled, List.filterMap_append, List.filter_append]
  have hsame : (settled claims frontends).filterMap (fun sf =>
      verdict (firstOf (settled claims frontends ++ rest) sf.key) sf) =
        (settled claims frontends).filterMap fun sf =>
          verdict (firstOf (settled claims frontends) sf.key) sf :=
    List.filterMap_congr fun sf hsf => by rw [firstOf_append hsf]
  have hold : ((settled claims frontends).filterMap fun sf =>
      verdict (firstOf (settled claims frontends) sf.key) sf).filter
        (fun collision => collision.1 ∈ frontends.map SourcedFrontend.source) =
      (settled claims frontends).filterMap fun sf =>
        verdict (firstOf (settled claims frontends) sf.key) sf := by
    refine List.filter_eq_self.2 fun collision hcollision => decide_eq_true ?_
    obtain ⟨sf, hsf, hverdict⟩ := List.mem_filterMap.1 hcollision
    rw [hsource _ _ _ hverdict]
    exact List.mem_map_of_mem (mem_settled.1 hsf)
  have hnew : (rest.filterMap fun sf =>
      verdict (firstOf (settled claims frontends ++ rest) sf.key) sf).filter
        (fun collision => collision.1 ∈ frontends.map SourcedFrontend.source) = [] := by
    refine List.filter_eq_nil_iff.2 fun collision hcollision hin => ?_
    obtain ⟨new, hmem, hverdict⟩ := List.mem_filterMap.1 hcollision
    obtain ⟨sf, hsf, hsf'⟩ := List.mem_map.1 (of_decide_eq_true hin)
    -- a newer source's claim would be its own older one
    have hlt := hnewer sf hsf new (hrest new hmem)
    rw [hsf', hsource _ _ _ hverdict] at hlt
    exact lt_irrefl _ hlt
  rw [hsame, hold, hnew, List.append_nil]

end Newer

/-! ## Every frontend is accounted for -/

/-- **Route keys are owned by the oldest claimant and every loser is accounted for.** One
frontend of each key is kept, the first by claim and emission order; every frontend is
kept, repeats the kept one or is reported, once, on its own source; and frontends of newer
claimants change neither the frontends kept for the keys in use nor the reports on the
sources already there. -/
theorem resolve_frontend_collisions_accounted (frontends : List SourcedFrontend)
    (claims : BTreeMap OwnerIdent OwnerClaim) :
    (resolveFrontendCollisions frontends claims).kept =
        ((arrivals claims frontends).filter fun x => OwnsKey claims frontends x).map Prod.snd ∧
      (∀ x ∈ arrivals claims frontends, ∃! owner, owner ∈ arrivals claims frontends ∧
        OwnsKey claims frontends owner ∧ owner.2.key = x.2.key) ∧
      (∀ x ∈ arrivals claims frontends,
        (OwnsKey claims frontends x ∧ ¬Repeats claims frontends x ∧
            ¬Collides claims frontends x) ∨
          (¬OwnsKey claims frontends x ∧ Repeats claims frontends x ∧
            ¬Collides claims frontends x) ∨
          (¬OwnsKey claims frontends x ∧ ¬Repeats claims frontends x ∧
            Collides claims frontends x)) ∧
      List.Forall₂ (ReportedBy claims frontends)
        ((arrivals claims frontends).filter fun x => Collides claims frontends x)
        (resolveFrontendCollisions frontends claims).collisions ∧
      ∀ (newer : List SourcedFrontend) (claims' : BTreeMap OwnerIdent OwnerClaim),
        (∀ sf ∈ frontends, claimOf sf.source claims' = claimOf sf.source claims) →
        (∀ sf ∈ frontends, ∀ new ∈ newer,
          claimOf sf.source claims' < claimOf new.source claims') →
        (resolveFrontendCollisions (frontends ++ newer) claims').kept.filter
            (fun sf => sf.key ∈ frontends.map SourcedFrontend.key) =
          (resolveFrontendCollisions frontends claims).kept ∧
        (resolveFrontendCollisions (frontends ++ newer) claims').collisions.filter
            (fun collision => collision.1 ∈ frontends.map SourcedFrontend.source) =
          (resolveFrontendCollisions frontends claims).collisions := by
  refine ⟨kept_eq_owners, fun x hx => existsUnique_owner hx, fun x hx => ?_, collisions_forall₂,
    fun newer claims' hclaims hnewer =>
      ⟨kept_append hclaims hnewer, collisions_append hclaims hnewer⟩⟩
  rcases owns_or_repeats_or_collides hx with howns | hrepeats | hcollides
  · exact .inl ⟨howns, fun h => h.1 howns, not_collides hx (.inl howns)⟩
  · exact .inr (.inl ⟨hrepeats.1, hrepeats, not_collides hx (.inr hrepeats)⟩)
  · refine .inr (.inr ⟨fun h => ?_, fun h => ?_, hcollides⟩)
    · exact not_collides hx (.inl h) hcollides
    · exact not_collides hx (.inr h) hcollides

end Keys

attribute [local instance] Sozu.asciiTable

/-- The frontend of an Ingress for one host and path. -/
def ingressFrontend (name cluster : String) : SourcedFrontend where
  frontend := ⟨"app.example.com", .pathPrefix "/", none, some cluster, false,
    .v4 ⟨0, 0, 0, 0⟩ 80, {}, []⟩
  source := .ingress "shop" name

/-- An older and a newer Ingress that claim one route. -/
def twoIngresses : BTreeMap OwnerIdent OwnerClaim :=
  (∅ : BTreeMap OwnerIdent OwnerClaim)
    |>.insert (ownerIdent .ingress "shop" "web")
      (ownerClaim "shop" "web" (some "2024-01-01T00:00:00Z"))
    |>.insert (ownerIdent .ingress "shop" "api")
      (ownerClaim "shop" "api" (some "2025-01-01T00:00:00Z"))

/-- The newer Ingress does not take the route. -/
theorem resolve_frontend_collisions_newerIngress :
    (resolveFrontendCollisions ([ingressFrontend "web" "shop.web.80"] ++
        [ingressFrontend "api" "shop.api.80"]) twoIngresses).kept.filter
      (fun sf => sf.key ∈ [ingressFrontend "web" "shop.web.80"].map SourcedFrontend.key) =
    (resolveFrontendCollisions [ingressFrontend "web" "shop.web.80"] twoIngresses).kept :=
  ((resolve_frontend_collisions_accounted [ingressFrontend "web" "shop.web.80"]
    twoIngresses).2.2.2.2 [ingressFrontend "api" "shop.api.80"] twoIngresses (fun _ _ => rfl)
    (by decide +kernel)).1

end Builder

end SozuGateway
