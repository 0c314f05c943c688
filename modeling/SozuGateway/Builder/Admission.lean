import SozuGateway.Builder.Copies
import SozuGateway.Lib.Filled

/-!
# The incremental admission

`Admission::first_unsettled` of `crates/builder/src/lib.rs` checks again only what the last
skip changed.  It finds what `scan_unsettled` finds by a scan of every pair.

* `scanUnsettled` — the scan of every pair.
* `Finds` — what either returns: the entry of highest precedence that is not settled, with
  the first it conflicts with; `Finds.unique` — entries told by their places have one.
* `Admission.Sound` — a mark of the memo is about a tier of an earlier round;
  `Sound.firstUnsettled` — a round finds what the scan finds, and keeps the memo sound.
* `GroupPlan.Reaches` — the states the rounds of a group go through.
* `plan_group_rounds` — every round agrees with the scan, every skip is a new header match,
  and the rounds end within their budgets.
-/

set_option autoImplicit false

namespace SozuGateway

namespace Builder

open Lib

section Scan

variable [External]

/-- Take a conflict in place of the one found so far, when its upper entry ranks above. -/
def betterConflict (found : Option Conflict) (c : Conflict) : Option Conflict :=
  match found with
  | none => some c
  | some best => if best.high.precedenceKey < c.high.precedenceKey then some c else some best

/-- `Admission.firstUnsettled` by a scan of every pair. -/
def scanUnsettled (tier : List Predicated) : Option Conflict :=
  tier.foldl (fun found high =>
    tier.foldl (fun found low =>
      match high.conflict low with
      | none => found
      | some reason => betterConflict found ⟨high, low, reason⟩) found) none

/-! ## What is found -/

/-- The first entry of a tier that conflicts with `high`. -/
def conflictOf (high : Predicated) (tier : List Predicated) : Option Conflict :=
  tier.findSome? fun low => (high.conflict low).map fun reason => ⟨high, low, reason⟩

theorem high_of_conflictOf {high : Predicated} {tier : List Predicated} {c : Conflict}
    (h : conflictOf high tier = some c) : c.high = high ∧ c.low ∈ tier := by
  obtain ⟨low, hlow, hmap⟩ := List.exists_of_findSome?_eq_some h
  obtain ⟨reason, -, rfl⟩ := Option.map_eq_some_iff.1 hmap
  exact ⟨rfl, hlow⟩

/-- What a search among the highs finds: none when no pair of the tier conflicts, else the
first conflict of the highest of them that has one. -/
def Finds (tier highs : List Predicated) : Option Conflict → Prop
  | none => ∀ high ∈ highs, conflictOf high tier = none
  | some c => c.high ∈ highs ∧ conflictOf c.high tier = some c ∧
      ∀ high ∈ highs, conflictOf high tier ≠ none → high.precedenceKey ≤ c.high.precedenceKey

/-- Entries of equal precedence are the same. -/
theorem Finds.unique {tier highs : List Predicated} (hkey : KeyInjOn Predicated.precedenceKey highs)
    {o o' : Option Conflict} (h : Finds tier highs o) (h' : Finds tier highs o') : o = o' := by
  cases o with
  | none =>
    cases o' with
    | none => rfl
    | some c' =>
      have hnone := h c'.high h'.1
      rw [h'.2.1] at hnone
      cases hnone
  | some c =>
    cases o' with
    | none =>
      have hnone := h' c.high h.1
      rw [h.2.1] at hnone
      cases hnone
    | some c' =>
      have hle := h.2.2 c'.high h'.1 (by rw [h'.2.1]; exact Option.some_ne_none _)
      have hge := h'.2.2 c.high h.1 (by rw [h.2.1]; exact Option.some_ne_none _)
      have heq : c.high = c'.high := hkey _ h.1 _ h'.1 (le_antisymm hge hle)
      have hc := h.2.1
      rw [heq, h'.2.1] at hc
      exact hc.symm

/-! ## The scan -/

omit [External] in
theorem betterConflict_idem {found : Option Conflict} {c c' : Conflict} (h : c'.high = c.high) :
    betterConflict (betterConflict found c) c' = betterConflict found c := by
  cases found with
  | none => simp [betterConflict, h]
  | some best =>
    by_cases hlt : best.high.precedenceKey < c.high.precedenceKey
    · simp [betterConflict, hlt, h]
    · simp [betterConflict, hlt, h]

/-- The pairs of one entry come to its first conflict. -/
theorem foldl_lows (high : Predicated) (lows : List Predicated) (found : Option Conflict) :
    lows.foldl (fun found low =>
      match high.conflict low with
      | none => found
      | some reason => betterConflict found ⟨high, low, reason⟩) found =
        match conflictOf high lows with
        | none => found
        | some c => betterConflict found c := by
  induction lows generalizing found with
  | nil => rfl
  | cons low lows ih =>
    rw [List.foldl_cons, ih, conflictOf, conflictOf, List.findSome?_cons]
    cases hconflict : high.conflict low with
    | none => rfl
    | some reason =>
      simp only [Option.map_some]
      cases hrest : lows.findSome? fun low =>
          (high.conflict low).map fun reason => (⟨high, low, reason⟩ : Conflict) with
      | none => rfl
      | some c =>
        have hfound : conflictOf high lows = some c := hrest
        exact betterConflict_idem (high_of_conflictOf hfound).1

/-- The search goes on with one more entry. -/
theorem Finds.snoc {tier seen : List Predicated} {found : Option Conflict}
    (h : Finds tier seen found) (high : Predicated) :
    Finds tier (seen ++ [high])
      (match conflictOf high tier with
      | none => found
      | some c => betterConflict found c) := by
  cases hc : conflictOf high tier with
  | none =>
    -- nothing found on `high`, whatever was found stands
    have hskip : ∀ x ∈ seen ++ [high], conflictOf x tier ≠ none → x ∈ seen := by
      intro x hx hne
      rcases List.mem_append.1 hx with hx | hx
      · exact hx
      · rw [List.mem_singleton.1 hx] at hne
        exact absurd hc hne
    cases found with
    | none =>
      intro x hx
      by_contra hne
      exact hne (h x (hskip x hx hne))
    | some best =>
      exact ⟨List.mem_append_left _ h.1, h.2.1, fun x hx hne => h.2.2 x (hskip x hx hne) hne⟩
  | some c =>
    have hhigh : c.high = high := (high_of_conflictOf hc).1
    have hself : Finds tier [high] (some c) := by
      refine ⟨by rw [hhigh]; exact List.mem_singleton_self _, by rw [hhigh]; exact hc, ?_⟩
      intro x hx _
      rw [List.mem_singleton.1 hx, hhigh]
    cases found with
    | none =>
      refine ⟨List.mem_append_right _ hself.1, hself.2.1, fun x hx hne => ?_⟩
      rcases List.mem_append.1 hx with hx | hx
      · exact absurd (h x hx) hne
      · exact hself.2.2 x hx hne
    | some best =>
      simp only [betterConflict]
      split_ifs with hlt
      · refine ⟨List.mem_append_right _ hself.1, hself.2.1, fun x hx hne => ?_⟩
        rcases List.mem_append.1 hx with hx | hx
        · exact (h.2.2 x hx hne).trans hlt.le
        · exact hself.2.2 x hx hne
      · refine ⟨List.mem_append_left _ h.1, h.2.1, fun x hx hne => ?_⟩
        rcases List.mem_append.1 hx with hx | hx
        · exact h.2.2 x hx hne
        · exact (hself.2.2 x hx hne).trans (not_lt.1 hlt)

/-- **The scan finds the highest conflict.** -/
theorem finds_scanUnsettled (tier : List Predicated) : Finds tier tier (scanUnsettled tier) := by
  have hfold : ∀ (rest seen : List Predicated) (found : Option Conflict), Finds tier seen found →
      Finds tier (seen ++ rest) (rest.foldl (fun found high =>
        match conflictOf high tier with
        | none => found
        | some c => betterConflict found c) found) := by
    intro rest
    induction rest with
    | nil => exact fun seen found h => by rwa [List.append_nil]
    | cons high rest ih =>
      intro seen found h
      simpa using ih _ _ (h.snoc high)
  have h := hfold tier [] none (by simp [Finds])
  rw [scanUnsettled]
  simp only [foldl_lows]
  exact h

/-! ## Entries and their places -/

/-- The place and the pair of a low that conflicts. -/
def foundAt (high : Predicated) (low : Placed) : Option (ℕ × Conflict) :=
  (high.conflict low.entry).map fun reason => (low.place, ⟨high, low.entry, reason⟩)

/-- What a search among placed entries finds: the conflict of the first place. -/
def FindsFirst (high : Predicated) (lows : List Placed) : Option (ℕ × Conflict) → Prop
  | none => ∀ low ∈ lows, foundAt high low = none
  | some found => (∃ low ∈ lows, foundAt high low = some found) ∧
      ∀ low ∈ lows, foundAt high low ≠ none → found.1 ≤ low.place

theorem fst_of_foundAt {high : Predicated} {low : Placed} {found : ℕ × Conflict}
    (h : foundAt high low = some found) : found.1 = low.place := by
  obtain ⟨reason, -, rfl⟩ := Option.map_eq_some_iff.1 h
  rfl

/-- Entries told by their places have one first conflict. -/
theorem FindsFirst.unique {high : Predicated} {lows : List Placed}
    (hplace : KeyInjOn Placed.place lows) {o o' : Option (ℕ × Conflict)}
    (h : FindsFirst high lows o) (h' : FindsFirst high lows o') : o = o' := by
  cases o with
  | none =>
    cases o' with
    | none => rfl
    | some found' =>
      obtain ⟨low, hlow, hfound⟩ := h'.1
      rw [h low hlow] at hfound
      cases hfound
  | some found =>
    obtain ⟨low, hlow, hfound⟩ := h.1
    cases o' with
    | none =>
      rw [h' low hlow] at hfound
      cases hfound
    | some found' =>
      obtain ⟨low', hlow', hfound'⟩ := h'.1
      have hle := h.2 low' hlow' (by rw [hfound']; exact Option.some_ne_none _)
      have hge := h'.2 low hlow (by rw [hfound]; exact Option.some_ne_none _)
      rw [fst_of_foundAt hfound] at hle
      rw [fst_of_foundAt hfound'] at hge
      have heq : low = low' := hplace _ hlow _ hlow' (le_antisymm hle hge)
      rw [heq, hfound'] at hfound
      exact hfound.symm

/-- A search in the order of the places finds the first. -/
theorem findsFirst_firstConflict {high : Predicated} {lows : List Placed}
    (hsorted : lows.Pairwise fun a b => a.place ≤ b.place) :
    FindsFirst high lows (Admission.firstConflict high lows) := by
  show FindsFirst high lows (lows.findSome? (foundAt high))
  cases h : lows.findSome? (foundAt high) with
  | none => exact List.findSome?_eq_none_iff.1 h
  | some found =>
    obtain ⟨before, low, after, rfl, hfound, hbefore⟩ := List.findSome?_eq_some_iff.1 h
    refine ⟨⟨low, by simp, hfound⟩, fun low' hlow' hne => ?_⟩
    rw [fst_of_foundAt hfound]
    rw [List.pairwise_append] at hsorted
    rcases List.mem_append.1 hlow' with hmem | hmem
    · exact absurd (hbefore low' hmem) hne
    · rcases List.mem_cons.1 hmem with rfl | hmem
      · exact le_refl _
      · exact (List.pairwise_cons.1 hsorted.2.1).1 low' hmem

/-- Take the find of the lesser place. -/
def lesserFound (least : Option (ℕ × Conflict)) (found : ℕ × Conflict) : Option (ℕ × Conflict) :=
  match least with
  | none => some found
  | some l => if found.1 < l.1 then some found else some l

/-- The find of the least place, none when there is none. -/
def LeastOf (finds : List (ℕ × Conflict)) : Option (ℕ × Conflict) → Prop
  | none => finds = []
  | some found => found ∈ finds ∧ ∀ f ∈ finds, found.1 ≤ f.1

omit [External] in
theorem LeastOf.snoc {finds : List (ℕ × Conflict)} {least : Option (ℕ × Conflict)}
    (h : LeastOf finds least) (f : ℕ × Conflict) :
    LeastOf (finds ++ [f]) (lesserFound least f) := by
  cases least with
  | none =>
    rw [show finds = [] from h]
    exact ⟨List.mem_singleton_self f, fun g hg => by rw [List.mem_singleton.1 hg]⟩
  | some l =>
    simp only [lesserFound]
    split_ifs with hlt
    · refine ⟨List.mem_append_right _ (List.mem_singleton_self f), fun g hg => ?_⟩
      rcases List.mem_append.1 hg with hg | hg
      · exact hlt.le.trans (h.2 g hg)
      · rw [List.mem_singleton.1 hg]
    · refine ⟨List.mem_append_left _ h.1, fun g hg => ?_⟩
      rcases List.mem_append.1 hg with hg | hg
      · exact h.2 g hg
      · rw [List.mem_singleton.1 hg]
        exact not_lt.1 hlt

omit [External] in
/-- The fold leaves the find of the least place. -/
theorem leastOf_foldl (finds : List (ℕ × Conflict)) :
    LeastOf finds (finds.foldl lesserFound none) := by
  have hfold : ∀ (rest seen : List (ℕ × Conflict)) (least : Option (ℕ × Conflict)),
      LeastOf seen least → LeastOf (seen ++ rest) (rest.foldl lesserFound least) := by
    intro rest
    induction rest with
    | nil => exact fun seen least h => by rwa [List.append_nil]
    | cons f rest ih =>
      intro seen least h
      simpa using ih _ _ (h.snoc f)
  exact hfold finds [] none rfl

/-- **The newest entries are searched for the first of them all**, when none that was there
before conflicts. -/
theorem findsFirst_leastConflict {high : Predicated} {since : ℕ} {placed newest : List Placed}
    (hmem : ∀ low, low ∈ newest ↔ low ∈ placed)
    (hsorted : newest.Pairwise fun a b => b.appeared ≤ a.appeared)
    (hbefore : ∀ low ∈ placed, low.appeared ≤ since → high.conflict low.entry = none) :
    FindsFirst high placed (Admission.leastConflict high since newest) := by
  have hfront : newest.takeWhile (fun low => since < low.appeared) =
      newest.filter fun low => since < low.appeared := by
    refine takeWhile_eq_filter (hsorted.imp fun hab hb => ?_)
    exact decide_eq_true ((of_decide_eq_true hb).trans_le hab)
  -- so every find is among them
  have hfinds : ∀ low found, foundAt high low = some found →
      (low ∈ newest.takeWhile (fun low => since < low.appeared) ↔ low ∈ placed) := by
    intro low found hfound
    rw [hfront, List.mem_filter, hmem, and_iff_left_iff_imp, decide_eq_true_iff]
    intro h
    by_contra hle
    rw [foundAt, hbefore low h (not_lt.1 hle)] at hfound
    cases hfound
  have h := leastOf_foldl
    ((newest.takeWhile fun low => since < low.appeared).filterMap (foundAt high))
  show FindsFirst high placed
    (((newest.takeWhile fun low => since < low.appeared).filterMap (foundAt high)).foldl lesserFound
      none)
  cases hfold : ((newest.takeWhile fun low => since < low.appeared).filterMap
      (foundAt high)).foldl lesserFound none with
  | none =>
    rw [hfold] at h
    intro low hlow
    by_contra hne
    obtain ⟨found, hfound⟩ := Option.ne_none_iff_exists'.1 hne
    have hin := List.mem_filterMap.2 ⟨low, (hfinds low found hfound).2 hlow, hfound⟩
    rw [show _ = [] from h] at hin
    cases hin
  | some found =>
    rw [hfold] at h
    obtain ⟨low, hlow, hfound⟩ := List.mem_filterMap.1 h.1
    refine ⟨⟨low, (hfinds low found hfound).1 hlow, hfound⟩, fun low' hlow' hne => ?_⟩
    obtain ⟨found', hfound'⟩ := Option.ne_none_iff_exists'.1 hne
    rw [← fst_of_foundAt hfound']
    exact h.2 found' (List.mem_filterMap.2 ⟨low', (hfinds low' found' hfound').2 hlow', hfound'⟩)

/-! ## The memo -/

/-- A set of entries told by their identities. -/
def ToldById (entries : Predicated → Prop) : Prop :=
  ∀ e e', entries e → entries e' → e.id = e'.id → e = e'

omit [External] in
theorem keyInjOn_precedenceKey {entries : Predicated → Prop} (htold : ToldById entries)
    {tier : List Predicated} (htier : ∀ e ∈ tier, entries e) :
    KeyInjOn Predicated.precedenceKey tier := by
  intro e he e' he' heq
  refine htold e e' (htier e he) (htier e' he') ?_
  unfold Predicated.precedenceKey at heq
  simp only [EmbeddingLike.apply_eq_iff_eq, Prod.mk.injEq] at heq
  exact heq.2.2.2.2

namespace Admission

/-- **The memo is about the tiers of the rounds so far**: an entry has been in every one since
it appeared, and one found settled conflicts with nothing of the tier it was checked against. -/
structure Sound (entries : Predicated → Prop) (tierAt : ℕ → List Predicated)
    (admission : Admission) : Prop where
  known : ∀ round, ∀ e ∈ tierAt round, entries e
  present : ∀ id since, admission.present[id]? = some since →
    ∀ round, since ≤ round → round ≤ admission.round → ∃ e ∈ tierAt round, e.id = id
  settled : ∀ id since, admission.settled[id]? = some since → since ≤ admission.round ∧
    ∀ high, entries high → high.id = id → ∀ low ∈ tierAt since, high.conflict low = none

theorem sound_empty (entries : Predicated → Prop) : Sound entries (fun _ => []) {} where
  known round e he := absurd he List.not_mem_nil
  present id since h := by
    rw [BTreeMap.getElem?_empty] at h
    cases h
  settled id since h := by
    rw [BTreeMap.getElem?_empty] at h
    cases h

variable {entries : Predicated → Prop} {tierAt : ℕ → List Predicated} {admission : Admission}
  {tier : List Predicated}

/-! ### One round -/

/-- The round from which an entry has been in every tier, as the memo has it. -/
def appeared (admission : Admission) (entry : Predicated) : ℕ :=
  admission.present[entry.id]?.getD admission.round

omit [External] in
theorem mem_place {low : Placed} (h : low ∈ admission.place tier) :
    low.entry ∈ tier ∧ low.appeared = admission.appeared low.entry := by
  obtain ⟨x, hx, rfl⟩ := List.mem_map.1 h
  exact ⟨List.fst_mem_of_mem_zipIdx hx, rfl⟩

omit [External] in
theorem map_entry_place : (admission.place tier).map Placed.entry = tier := by
  rw [place, List.map_map]
  exact List.zipIdx_map_fst 0 tier

omit [External] in
theorem map_place_place : (admission.place tier).map Placed.place = List.range tier.length := by
  rw [place, List.map_map, List.range_eq_range']
  exact List.zipIdx_map_snd 0 tier

omit [External] in
theorem pairwise_place : (admission.place tier).Pairwise fun a b => a.place < b.place := by
  have h : ((admission.place tier).map Placed.place).Pairwise (· < ·) := by
    rw [map_place_place]
    exact List.pairwise_lt_range
  exact List.pairwise_map.1 h

omit [External] in
/-- The memo at the start of a round, with the tier taken in. -/
def enter (admission : Admission) (tier : List Predicated) : Admission :=
  let next := { admission with round := admission.round + 1 }
  { next with
    present := fill (fun e : Placed => e.entry.id) Placed.appeared ∅ (next.place tier) }

omit [External] in
/-- An entry of the tier is in the memo since it appeared. -/
theorem present_enter {low : Placed}
    (h : low ∈ ({ admission with round := admission.round + 1 } : Admission).place tier) :
    (admission.enter tier).present[low.entry.id]? = some low.appeared := by
  refine getElem?_fill_of_agree (fun e he hid => ?_) (.inr ⟨low, h, rfl⟩)
  rw [(mem_place he).2, (mem_place h).2, appeared, appeared, hid]

omit [External] in
/-- The memo has an entry since it has been in every tier. -/
theorem exists_of_present_enter {id : ℕ ×ₗ ℕ} {since : ℕ}
    (h : (admission.enter tier).present[id]? = some since) :
    (∃ e ∈ tier, e.id = id) ∧
      (since = admission.round + 1 ∨ admission.present[id]? = some since) := by
  rcases exists_of_fill h with hempty | ⟨e, he, hid, happeared⟩
  · rw [BTreeMap.getElem?_empty] at hempty
    cases hempty
  · obtain ⟨hentry, hsince⟩ := mem_place he
    refine ⟨⟨e.entry, hentry, hid⟩, ?_⟩
    rw [happeared, appeared, hid] at hsince
    cases hat : admission.present[id]? with
    | none => exact .inl (by rw [hsince]; simp [hat])
    | some since' => exact .inr (by rw [hsince]; simp [hat])

/-- The tiers so far, with one more. -/
def withTier (tierAt : ℕ → List Predicated) (round : ℕ) (tier : List Predicated) :
    ℕ → List Predicated := fun n => if n = round then tier else tierAt n

/-- **Taking a tier in keeps the memo sound.** -/
theorem Sound.enter (h : Sound entries tierAt admission) (htier : ∀ e ∈ tier, entries e) :
    Sound entries (withTier tierAt (admission.round + 1) tier) (admission.enter tier) where
  known round e he := by
    unfold withTier at he
    split_ifs at he
    · exact htier e he
    · exact h.known round e he
  present id since hat round hle hround := by
    obtain ⟨hin, hsince⟩ := exists_of_present_enter hat
    unfold withTier
    split_ifs with hlast
    · exact hin
    · have hround' : round ≤ admission.round + 1 := hround
      rcases hsince with rfl | hsince
      · omega
      · exact h.present id since hsince round hle (by omega)
  settled id since hat := by
    obtain ⟨hround, hsettled⟩ := h.settled id since hat
    refine ⟨hround.trans (Nat.le_succ _), fun high hhigh hid low hlow => ?_⟩
    rw [withTier, if_neg (by omega)] at hlow
    exact hsettled high hhigh hid low hlow

/-- The search of one entry for a conflict, by its mark. -/
def search (admission : Admission) (tier newest : List Placed) (high : Placed) :
    Option (ℕ × Conflict) :=
  match admission.settled[high.entry.id]? with
  | some since => leastConflict high.entry since newest
  | none => firstConflict high.entry tier

/-- The memo with an entry marked as settled. -/
def mark (admission : Admission) (high : Placed) : Admission :=
  { admission with settled := admission.settled.insert high.entry.id admission.round }

theorem scan_cons (tier newest : List Placed) (admission : Admission) (high : Placed)
    (rest : List Placed) :
    scan tier newest admission (high :: rest) =
      match admission.search tier newest high with
      | some (_, conflict) => (admission, some conflict)
      | none => scan tier newest (admission.mark high) rest := rfl

/-- What the search of an entry by its mark needs of the placed tier. -/
structure Ready (admission : Admission) (tier newest : List Placed) : Prop where
  present : ∀ low ∈ tier, admission.present[low.entry.id]? = some low.appeared
  places : tier.Pairwise fun a b => a.place < b.place
  covers : ∀ low, low ∈ newest ↔ low ∈ tier
  sorted : newest.Pairwise fun a b => b.appeared ≤ a.appeared

/-- **A search by a mark finds what a search of the whole tier finds.** -/
theorem Sound.search_eq {placed newest : List Placed} (h : Sound entries tierAt admission)
    (htold : ToldById entries) (hready : admission.Ready placed newest)
    (hplaced : ∀ low ∈ placed, entries low.entry) {high : Placed} (hhigh : entries high.entry) :
    admission.search placed newest high = firstConflict high.entry placed := by
  unfold search
  cases hmark : admission.settled[high.entry.id]? with
  | none => rfl
  | some since =>
    obtain ⟨hround, hsettled⟩ := h.settled _ since hmark
    have hinj : KeyInjOn Placed.place placed := by
      have hnodup : (placed.map Placed.place).Nodup :=
        (List.pairwise_map.2 hready.places).imp Nat.ne_of_lt
      exact fun a ha b hb heq => List.inj_on_of_nodup_map hnodup ha hb heq
    -- what was there in the round of the mark was checked then
    have hbefore : ∀ low ∈ placed, low.appeared ≤ since →
        high.entry.conflict low.entry = none := by
      intro low hlow hle
      obtain ⟨e, he, hid⟩ := h.present _ _ (hready.present low hlow) since hle hround
      have heq := htold e low.entry (h.known since e he) (hplaced low hlow) hid
      exact hsettled high.entry hhigh rfl low.entry (heq ▸ he)
    exact (findsFirst_leastConflict hready.covers hready.sorted hbefore).unique hinj
      (findsFirst_firstConflict (hready.places.imp le_of_lt))

/-- Marking an entry that conflicts with nothing keeps the memo sound. -/
theorem Sound.mark (h : Sound entries tierAt admission) (htold : ToldById entries) {high : Placed}
    (hhigh : entries high.entry)
    (hnone : ∀ low ∈ tierAt admission.round, high.entry.conflict low = none) :
    Sound entries tierAt (admission.mark high) where
  known := h.known
  present := h.present
  settled id since hat := by
    have hat : (admission.settled.insert high.entry.id admission.round)[id]? = some since := hat
    rw [BTreeMap.getElem?_insert] at hat
    split_ifs at hat with hid
    · obtain rfl := Option.some.inj hat
      refine ⟨le_refl _, fun high' hhigh' hid' low hlow => ?_⟩
      rw [htold high' high.entry hhigh' hhigh (hid'.trans hid.symm)]
      exact hnone low hlow
    · exact h.settled id since hat

/-- **A scan from the top stops at the first entry that conflicts**, and keeps the memo
sound. -/
theorem Sound.scan {placed newest order : List Placed} (h : Sound entries tierAt admission)
    (htold : ToldById entries) (hready : admission.Ready placed newest)
    (hplaced : placed.map Placed.entry = tierAt admission.round)
    (horder : ∀ high ∈ order, entries high.entry) :
    (scan placed newest admission order).2 =
        (order.findSome? fun high => firstConflict high.entry placed).map Prod.snd ∧
      Sound entries tierAt (scan placed newest admission order).1 := by
  have hentries : ∀ low ∈ placed, entries low.entry := by
    intro low hlow
    exact h.known admission.round _ (hplaced ▸ List.mem_map_of_mem hlow)
  induction order generalizing admission with
  | nil => exact ⟨rfl, h⟩
  | cons high rest ih =>
    have hhigh := horder high List.mem_cons_self
    rw [scan_cons, h.search_eq htold hready hentries hhigh, List.findSome?_cons]
    cases hfound : firstConflict high.entry placed with
    | some found => exact ⟨rfl, h⟩
    | none =>
      refine ih (h.mark htold hhigh ?_) ⟨hready.1, hready.2, hready.3, hready.4⟩ hplaced
        fun high hmem => horder high (List.mem_cons_of_mem _ hmem)
      intro low hlow
      rw [← hplaced] at hlow
      obtain ⟨x, hx, rfl⟩ := List.mem_map.1 hlow
      have hnone := List.findSome?_eq_none_iff.1 hfound x hx
      simpa using hnone

/-- Placing a tier changes nothing about the first conflict. -/
theorem map_snd_firstConflict (high : Predicated) (placed : List Placed) :
    (firstConflict high placed).map Prod.snd = conflictOf high (placed.map Placed.entry) := by
  rw [conflictOf, List.findSome?_map, firstConflict, List.map_findSome?]
  congr 1
  funext low
  simp [Function.comp_def, Option.map_map]

/-- **Read from the top, the first conflict is the highest.** -/
theorem finds_of_order {placed order : List Placed} (hplaced : placed.map Placed.entry = tier)
    (hmem : ∀ high, high ∈ order ↔ high ∈ placed)
    (hsorted : order.Pairwise fun a b => b.entry.precedenceKey ≤ a.entry.precedenceKey) :
    Finds tier tier
      ((order.findSome? fun high => firstConflict high.entry placed).map Prod.snd) := by
  have hconflict : ∀ high : Placed,
      conflictOf high.entry tier = (firstConflict high.entry placed).map Prod.snd := fun high => by
    rw [map_snd_firstConflict, hplaced]
  have hentry : ∀ e ∈ tier, ∃ high ∈ order, high.entry = e := by
    intro e he
    rw [← hplaced] at he
    obtain ⟨high, hhigh, heq⟩ := List.mem_map.1 he
    exact ⟨high, (hmem high).2 hhigh, heq⟩
  cases hfound : order.findSome? fun high => firstConflict high.entry placed with
  | none =>
    intro e he
    obtain ⟨high, hhigh, rfl⟩ := hentry e he
    rw [hconflict, List.findSome?_eq_none_iff.1 hfound high hhigh, Option.map_none]
  | some found =>
    obtain ⟨above, high, below, rfl, hhigh, habove⟩ := List.findSome?_eq_some_iff.1 hfound
    have hc : conflictOf high.entry tier = some found.2 := by rw [hconflict, hhigh, Option.map_some]
    have heq : found.2.high = high.entry := (high_of_conflictOf hc).1
    have hin : high ∈ placed := (hmem high).1 (by simp)
    refine ⟨?_, by rw [heq]; exact hc, fun e he hne => ?_⟩
    · rw [heq, ← hplaced]
      exact List.mem_map_of_mem hin
    · obtain ⟨x, hx, rfl⟩ := hentry e he
      rw [heq]
      rw [List.pairwise_append] at hsorted
      rcases List.mem_append.1 hx with hx | hx
      · exact absurd (by rw [hconflict, habove x hx, Option.map_none]) hne
      · rcases List.mem_cons.1 hx with rfl | hx
        · exact le_refl _
        · exact (List.pairwise_cons.1 hsorted.2.1).1 x hx

/-- **A round finds what the scan of every pair finds**, and keeps the memo sound. -/
theorem Sound.firstUnsettled (h : Sound entries tierAt admission) (htold : ToldById entries)
    (htier : ∀ e ∈ tier, entries e) :
    (admission.firstUnsettled tier).2 = scanUnsettled tier ∧
      ∃ tierAt', Sound entries tierAt' (admission.firstUnsettled tier).1 := by
  let placed := ({ admission with round := admission.round + 1 } : Admission).place tier
  let newest := sortBy
    (fun low : Placed => (toLex (OrderDual.toDual low.appeared, low.place) : ℕᵒᵈ ×ₗ ℕ)) placed
  let order := sortBy (fun high : Placed => OrderDual.toDual high.entry.precedenceKey) placed
  have hready : (admission.enter tier).Ready placed newest := by
    refine ⟨fun low hlow => present_enter hlow, pairwise_place, fun low => mem_sortBy, ?_⟩
    refine (pairwise_sortBy _ placed).imp fun hle => ?_
    rcases Prod.Lex.le_iff.1 hle with hlt | ⟨heq, -⟩
    · exact (OrderDual.toDual_lt_toDual.1 hlt).le
    · exact (OrderDual.toDual_inj.1 heq).ge
  have hround : withTier tierAt (admission.round + 1) tier (admission.enter tier).round = tier :=
    if_pos rfl
  have hplaced : placed.map Placed.entry = tier := map_entry_place
  have horder : ∀ high ∈ order, entries high.entry := fun high hhigh =>
    htier _ (mem_place (mem_sortBy.1 hhigh)).1
  obtain ⟨hfound, hsound⟩ := (h.enter htier).scan htold hready (hplaced.trans hround.symm) horder
  refine ⟨?_, _, hsound⟩
  have hfinds : Finds tier tier (admission.firstUnsettled tier).2 := by
    rw [show (admission.firstUnsettled tier).2 =
      (Admission.scan placed newest (admission.enter tier) order).2 from rfl, hfound]
    refine finds_of_order hplaced (fun high => mem_sortBy) ?_
    exact (pairwise_sortBy (fun high : Placed => OrderDual.toDual high.entry.precedenceKey)
      placed).imp fun hle => OrderDual.toDual_le_toDual.1 hle
  exact hfinds.unique (keyInjOn_precedenceKey htold htier) (finds_scanUnsettled tier)

end Admission

end Scan

/-! ## The rounds of a group -/

section Rounds

variable [CharTable]

namespace GroupPlan

variable {plan : GroupPlan}

/-- The entries a tier of the group may hold: its header matches, and copies of its plain
routes above them. -/
def IsEntry (plan : GroupPlan) (e : Predicated) : Prop :=
  ∃ p ∈ plan.originals,
    e = ⟨p.2.frontend, treeOffer p.2.frontend, p, p, false⟩ ∨
    ∃ u ∈ plan.plain, e = ⟨liftedCopy u.2.frontend p.2.frontend,
      treeOffer (liftedCopy u.2.frontend p.2.frontend), u, p, true⟩

/-- A plan whose frontends have places of their own, plain routes apart from header
matches. -/
structure PlacesApart (plan : GroupPlan) : Prop where
  places : ∀ m ∈ plan.plain ++ plan.originals, ∀ m' ∈ plan.plain ++ plan.originals,
    m.1 = m'.1 → m = m'
  apart : ∀ u ∈ plan.plain, u ∉ plan.originals

omit [CharTable] in
/-- **The entries of a group are told by their identities.** -/
theorem PlacesApart.toldById (h : plan.PlacesApart) : ToldById plan.IsEntry := by
  have hplain : ∀ u ∈ plan.plain, u ∈ plan.plain ++ plan.originals := fun u hu =>
    List.mem_append_left _ hu
  have horiginal : ∀ p ∈ plan.originals, p ∈ plan.plain ++ plan.originals := fun p hp =>
    List.mem_append_right _ hp
  rintro e e' ⟨p, hp, he⟩ ⟨p', hp', he'⟩ hid
  simp only [Predicated.id, EmbeddingLike.apply_eq_iff_eq, Prod.mk.injEq] at hid
  obtain ⟨hranks, howner⟩ := hid
  have hpp : p = p' := by
    refine h.places p (horiginal p hp) p' (horiginal p' hp') ?_
    rcases he with rfl | ⟨u, hu, rfl⟩ <;> rcases he' with rfl | ⟨u', hu', rfl⟩ <;> exact howner
  subst hpp
  rcases he with rfl | ⟨u, hu, rfl⟩ <;> rcases he' with rfl | ⟨u', hu', rfl⟩
  · rfl
  · -- a header match is no plain route
    have heq := h.places p (horiginal p hp) u' (hplain u' hu') hranks
    exact absurd (heq ▸ hp) (h.apart u' hu')
  · have heq := h.places u (hplain u hu) p (horiginal p hp) hranks
    exact absurd (heq ▸ hp) (h.apart u hu)
  · rw [h.places u (hplain u hu) u' (hplain u' hu') hranks]

/-- The tier of a choice is made of entries of the group. -/
theorem isEntry_of_mem_tier {skipped : List ℕ} {chosen : List (Member × List Candidate)}
    (h : plan.chooseAll skipped [] plan.originals = .ok chosen) :
    ∀ e ∈ chosen.flatMap predicated, plan.IsEntry e := by
  intro e he
  obtain ⟨x, hx, hmem⟩ := List.mem_flatMap.1 he
  obtain ⟨hp, hcandidates⟩ := mem_chooseAll h hx
  refine ⟨x.1, hp, ?_⟩
  rcases List.mem_cons.1 hmem with rfl | hmem
  · exact .inl rfl
  · obtain ⟨c, hc, rfl⟩ := List.mem_map.1 hmem
    obtain ⟨hroute, hrule⟩ := hcandidates c hc
    exact .inr ⟨c.route, hroute, by rw [hrule]⟩

/-- The header matches a choice is made for are not skipped. -/
theorem notMem_of_chooseAll {skipped : List ℕ} {brought : List SozuRouteKey}
    {originals : List Member} {chosen : List (Member × List Candidate)}
    (h : plan.chooseAll skipped brought originals = .ok chosen) :
    ∀ x ∈ chosen, x.1.1 ∉ skipped := by
  induction originals generalizing brought chosen with
  | nil =>
    obtain rfl := Except.ok.inj h
    exact fun x hx => absurd hx List.not_mem_nil
  | cons p rest ih =>
    unfold chooseAll at h
    split_ifs at h with hp
    · exact ih h
    split at h
    · cases h
    split at h
    · cases h
    rename_i chosen' hchosen
    obtain rfl := Except.ok.inj h
    intro x hx
    rcases List.mem_cons.1 hx with rfl | hx
    · exact hp
    · exact ih hchosen x hx

/-- A skip names the header match it is for. -/
theorem fst_of_choose_error {skipped : List ℕ} {brought : List SozuRouteKey} {p : Member}
    {fresh : List Candidate} {candidate : Candidate} {skip : Skip}
    (h : choose skipped brought p fresh candidate = .error skip) : skip.1 = p.1 := by
  unfold choose at h
  split at h
  · split_ifs at h
    rw [← Except.error.inj h]
  · split_ifs at h
    rw [← Except.error.inj h]

/-! ### The budget of copies -/

theorem length_of_choose {skipped : List ℕ} {brought : List SozuRouteKey} {p : Member}
    {fresh fresh' : List Candidate} {candidate : Candidate}
    (h : choose skipped brought p fresh candidate = .ok fresh')
    (hbudget : brought.length + fresh.length ≤ maxLiftedPerHostname) :
    brought.length + fresh'.length ≤ maxLiftedPerHostname := by
  unfold choose at h
  split at h
  · split_ifs at h
    obtain rfl := Except.ok.inj h
    exact hbudget
  · split_ifs at h with _ _ hroom
    · obtain rfl := Except.ok.inj h
      exact hbudget
    · obtain rfl := Except.ok.inj h
      rwa [List.length_map]
    · obtain rfl := Except.ok.inj h
      rw [List.length_append, List.length_singleton]
      omega

theorem length_of_foldlM_choose {skipped : List ℕ} {brought : List SozuRouteKey} {p : Member}
    {candidates fresh fresh' : List Candidate}
    (h : candidates.foldlM (choose skipped brought p) fresh = .ok fresh')
    (hbudget : brought.length + fresh.length ≤ maxLiftedPerHostname) :
    brought.length + fresh'.length ≤ maxLiftedPerHostname := by
  induction candidates generalizing fresh with
  | nil =>
    obtain rfl := Except.ok.inj h
    exact hbudget
  | cons candidate candidates ih =>
    rw [List.foldlM_cons] at h
    cases hchoose : choose skipped brought p fresh candidate with
    | error skip =>
      rw [hchoose] at h
      cases h
    | ok next =>
      rw [hchoose] at h
      exact ih h (length_of_choose hchoose hbudget)

/-- The copies of a choice. -/
def copyCount (chosen : List (Member × List Candidate)) : ℕ :=
  (chosen.map fun x => x.2.length).sum

/-- **The copies of a choice stay within the budget.** -/
theorem copyCount_of_chooseAll {skipped : List ℕ} {brought : List SozuRouteKey}
    {originals : List Member} {chosen : List (Member × List Candidate)}
    (h : plan.chooseAll skipped brought originals = .ok chosen)
    (hbudget : brought.length ≤ maxLiftedPerHostname) :
    brought.length + copyCount chosen ≤ maxLiftedPerHostname := by
  induction originals generalizing brought chosen with
  | nil =>
    obtain rfl := Except.ok.inj h
    simpa [copyCount] using hbudget
  | cons p rest ih =>
    unfold chooseAll at h
    split_ifs at h
    · exact ih h hbudget
    split at h
    · cases h
    rename_i fresh hfresh
    split at h
    · cases h
    rename_i chosen' hchosen
    obtain rfl := Except.ok.inj h
    have hlength := length_of_foldlM_choose hfresh (by simpa using hbudget)
    have hrest := ih hchosen (by rw [List.length_append, List.length_map]; exact hlength)
    rw [List.length_append, List.length_map] at hrest
    simp only [copyCount, List.map_cons, List.sum_cons] at hrest ⊢
    omega

omit [CharTable] in
/-- The copies among the entries of a choice. -/
theorem length_copies (chosen : List (Member × List Candidate)) :
    ((chosen.flatMap predicated).filter Predicated.copy).length = copyCount chosen := by
  induction chosen with
  | nil => rfl
  | cons x chosen ih =>
    rw [List.flatMap_cons, List.filter_append, List.length_append, ih, copyCount, copyCount,
      List.map_cons, List.sum_cons]
    congr 1
    simp [predicated, List.filter_map, Function.comp_def]

variable [External]

/-! ### One round -/

/-- The places of the header matches skipped so far. -/
def places (skips : List Skip) : List ℕ := skips.map Prod.fst

theorem round_of_error {admission : Admission} {skipped : List ℕ} {skip : Skip}
    (h : plan.chooseAll skipped [] plan.originals = .error skip) :
    plan.round admission skipped = (admission, .error skip) := by
  rw [round, h]

theorem round_of_ok {admission : Admission} {skipped : List ℕ}
    {chosen : List (Member × List Candidate)}
    (h : plan.chooseAll skipped [] plan.originals = .ok chosen) :
    plan.round admission skipped =
      ((admission.firstUnsettled (chosen.flatMap predicated)).1,
        match (admission.firstUnsettled (chosen.flatMap predicated)).2 with
        | some conflict => .error (overlapProblem conflict)
        | none => .ok (((chosen.flatMap predicated).filter Predicated.copy).map fun entry =>
            (entry.owner.1, entry.rule))) := by
  rw [round, h]
  dsimp only
  rcases admission.firstUnsettled (chosen.flatMap predicated) with ⟨next, _ | conflict⟩ <;> rfl

omit [External] in
/-- The lower entry of a conflict stands or falls with a header match that is not skipped. -/
theorem owner_of_conflict {skipped : List ℕ} {chosen : List (Member × List Candidate)}
    (h : plan.chooseAll skipped [] plan.originals = .ok chosen) {c : Conflict}
    (hlow : c.low ∈ chosen.flatMap predicated) :
    ∃ p ∈ plan.originals, p.1 = (overlapProblem c).1 ∧ p.1 ∉ skipped := by
  obtain ⟨x, hx, hlow⟩ := List.mem_flatMap.1 hlow
  have howner : c.low.owner = x.1 := by
    rcases List.mem_cons.1 hlow with heq | hmem
    · rw [heq]
    · obtain ⟨d, -, heq⟩ := List.mem_map.1 hmem
      rw [← heq]
  exact ⟨x.1, (mem_chooseAll h hx).1, (congrArg Prod.fst howner).symm, notMem_of_chooseAll h x hx⟩

/-- **What a round does**: it asks for the skip of a header match it has not skipped, or adds
copies within the budget; the memo stays sound. -/
theorem round_sound (hplaces : plan.PlacesApart) {tierAt : ℕ → List Predicated}
    {admission : Admission} (hsound : admission.Sound plan.IsEntry tierAt) (skipped : List ℕ) :
    (∃ tierAt', (plan.round admission skipped).1.Sound plan.IsEntry tierAt') ∧
      match (plan.round admission skipped).2 with
      | .error skip => ∃ p ∈ plan.originals, p.1 = skip.1 ∧ p.1 ∉ skipped
      | .ok copies => copies.length ≤ maxLiftedPerHostname := by
  cases hchosen : plan.chooseAll skipped [] plan.originals with
  | error skip =>
    obtain ⟨p, hp, hskipped, brought, fresh, candidate, -, hskip⟩ := exists_of_chooseAll hchosen
    rw [round_of_error hchosen]
    exact ⟨⟨tierAt, hsound⟩, p, hp, (fst_of_choose_error hskip).symm, hskipped⟩
  | ok chosen =>
    have hentries := isEntry_of_mem_tier hchosen
    obtain ⟨hscan, hnext⟩ := hsound.firstUnsettled hplaces.toldById hentries
    rw [round_of_ok hchosen]
    refine ⟨hnext, ?_⟩
    have hfinds := finds_scanUnsettled (chosen.flatMap predicated)
    rw [← hscan] at hfinds
    cases hfound : (admission.firstUnsettled (chosen.flatMap predicated)).2 with
    | none =>
      show ((List.filter _ _).map _).length ≤ _
      rw [List.length_map, length_copies]
      have hbudget := copyCount_of_chooseAll hchosen (by simp)
      simpa using hbudget
    | some c =>
      rw [hfound] at hfinds
      exact owner_of_conflict hchosen (high_of_conflictOf hfinds.2.1).2

/-! ### All rounds -/

/-- The states the rounds of a group go through: how many it took, the memo, and the skips. -/
inductive Reaches (plan : GroupPlan) (limits : List Skip) : ℕ → Admission → List Skip → Prop where
  | start : Reaches plan limits 0 {} limits
  | skip {n : ℕ} {admission admission' : Admission} {skips : List Skip} {skip : Skip} :
      Reaches plan limits n admission skips →
        plan.round admission (places skips) = (admission', .error skip) →
          Reaches plan limits (n + 1) admission' (skips ++ [skip])

/-- The header matches of the plan not skipped yet. -/
def remaining (plan : GroupPlan) (skips : List Skip) : List Member :=
  plan.originals.filter fun p => p.1 ∉ places skips

omit [CharTable] [External] in
/-- A new skip leaves fewer header matches. -/
theorem remaining_snoc {skips : List Skip} {skip : Skip} {p : Member} (hp : p ∈ plan.originals)
    (hplace : p.1 = skip.1) (hnew : p.1 ∉ places skips) :
    (plan.remaining (skips ++ [skip])).length < (plan.remaining skips).length := by
  have hsub : plan.remaining (skips ++ [skip]) =
      (plan.remaining skips).filter fun p => p.1 ≠ skip.1 := by
    unfold remaining
    rw [List.filter_filter]
    refine List.filter_congr fun q _ => ?_
    rw [Bool.eq_iff_iff]
    simp only [places, List.map_append, List.map_cons, List.map_nil, List.mem_append,
      List.mem_singleton, not_or, decide_eq_true_iff, Bool.and_eq_true, ne_eq]
    exact ⟨fun h => ⟨h.2, decide_eq_true h.1⟩, fun h => ⟨of_decide_eq_true h.2, h.1⟩⟩
  rw [hsub]
  refine List.length_filter_lt_length_iff_exists.2 ⟨p, ?_, by simp [hplace]⟩
  exact List.mem_filter.2 ⟨hp, decide_eq_true hnew⟩

variable {limits : List Skip}

/-- **Along the rounds the memo stays sound and each skip is new.** -/
theorem Reaches.sound (hplaces : plan.PlacesApart) {n : ℕ} {admission : Admission}
    {skips : List Skip} (h : plan.Reaches limits n admission skips) :
    (∃ tierAt, admission.Sound plan.IsEntry tierAt) ∧
      n + (plan.remaining skips).length ≤ plan.originals.length ∧ limits ⊆ skips := by
  induction h with
  | start =>
    refine ⟨⟨_, Admission.sound_empty _⟩, ?_, fun _ h => h⟩
    rw [Nat.zero_add]
    exact List.length_filter_le _ _
  | @skip n admission admission' skips skip _ hround ih =>
    obtain ⟨⟨tierAt, hsound⟩, hcount, hlimits⟩ := ih
    have hstep := round_sound hplaces hsound (places skips)
    rw [hround] at hstep
    obtain ⟨hnext, p, hp, hplace, hnew⟩ := hstep
    have hlt := remaining_snoc hp hplace hnew
    exact ⟨hnext, by omega, fun x hx => List.mem_append_left _ (hlimits hx)⟩

/-- A skip is one asked for from the start, or that of a header match of the plan. -/
theorem Reaches.skipped (hplaces : plan.PlacesApart) {n : ℕ} {admission : Admission}
    {skips : List Skip} (h : plan.Reaches limits n admission skips) :
    ∀ skip ∈ skips, skip ∈ limits ∨ ∃ p ∈ plan.originals, p.1 = skip.1 := by
  induction h with
  | start => exact fun skip hskip => .inl hskip
  | @skip n admission admission' skips skip hreach hround ih =>
    intro skip' hskip'
    rcases List.mem_append.1 hskip' with hskip' | hskip'
    · exact ih skip' hskip'
    · obtain rfl := List.mem_singleton.1 hskip'
      obtain ⟨tierAt, hsound⟩ := (hreach.sound hplaces).1
      have hstep := (round_sound hplaces hsound (places skips)).2
      rw [hround] at hstep
      obtain ⟨p, hp, hplace, -⟩ := hstep
      exact .inr ⟨p, hp, hplace⟩

/-- **The rounds end**: with as many of them as header matches remain, and one more. -/
theorem Reaches.ends (hplaces : plan.PlacesApart) {fuel n : ℕ} {admission : Admission}
    {skips : List Skip} (h : plan.Reaches limits n admission skips)
    (hfuel : (plan.remaining skips).length < fuel) :
    ∃ n' admission' skips' copies, plan.Reaches limits n' admission' skips' ∧
      (plan.round admission' (places skips')).2 = .ok copies ∧
        plan.rounds fuel admission skips = (copies, skips') := by
  induction fuel generalizing n admission skips with
  | zero => omega
  | succ fuel ih =>
    cases hround : plan.round admission (places skips) with
    | mk next result =>
      cases result with
      | ok copies =>
        refine ⟨n, admission, skips, copies, h, by rw [hround], ?_⟩
        unfold rounds
        rw [show plan.round admission (skips.map Prod.fst) = (next, .ok copies) from hround]
      | error skip =>
        obtain ⟨tierAt, hsound⟩ := (h.sound hplaces).1
        have hstep := round_sound hplaces hsound (places skips)
        rw [hround] at hstep
        obtain ⟨-, p, hp, hplace, hnew⟩ := hstep
        have hlt := remaining_snoc hp hplace hnew
        obtain ⟨n', admission', skips', copies, hreach, hok, heq⟩ :=
          ih (h.skip hround) (by omega)
        refine ⟨n', admission', skips', copies, hreach, hok, ?_⟩
        rw [← heq]
        conv_lhs => unfold rounds
        rw [show plan.round admission (skips.map Prod.fst) = (next, .error skip) from hround]

end GroupPlan

/-! ## The planning of a group -/

variable [External]

/-- The header matches of a group within the cap. -/
def originalsOf (members : List Member) : List Member :=
  (headerMatched members).take maxHeaderMatchesPerHostname

/-- The skips of the header matches beyond the cap. -/
def limitsOf (members : List Member) : List Skip :=
  ((headerMatched members).drop maxHeaderMatchesPerHostname).map fun m =>
    (m.1, .headerMatchLimit m.2.frontend.hostname maxHeaderMatchesPerHostname)

/-- The plan of a group. -/
def planOf (members : List Member) : GroupPlan := GroupPlan.of members (originalsOf members)

omit [External] in
/-- Members with places of their own have the plan's frontends apart. -/
theorem placesApart_planOf {members : List Member}
    (h : ∀ m ∈ members, ∀ m' ∈ members, m.1 = m'.1 → m = m') : (planOf members).PlacesApart where
  places := by
    have hmem : ∀ m ∈ (planOf members).plain ++ (planOf members).originals, m ∈ members := by
      intro m hm
      rcases List.mem_append.1 hm with hm | hm
      · exact List.mem_of_mem_filter hm
      · exact List.mem_of_mem_filter (List.mem_of_mem_take hm)
    exact fun m hm m' hm' => h m (hmem m hm) m' (hmem m' hm')
  apart := by
    intro u hu hu'
    have hplain := (Bool.and_eq_true_iff.1 (List.mem_filter.1 hu).2).1
    have hheaders := (List.mem_filter.1 (List.mem_of_mem_take hu')).2
    rw [hplain] at hheaders
    cases hheaders

/-- The planning of a group is the rounds of its plan. -/
theorem planGroup_eq (members : List Member) :
    planGroup members = (planOf members).rounds ((originalsOf members).length + 1) {}
      (limitsOf members) := by
  have hnone : originalsOf members = [] →
      (planOf members).rounds 1 {} (limitsOf members) = ([], limitsOf members) := by
    intro h
    have hchosen : (planOf members).chooseAll (GroupPlan.places (limitsOf members)) []
        (planOf members).originals = .ok [] := by
      rw [show (planOf members).originals = [] from h]
      rfl
    have hround : (planOf members).round {} (GroupPlan.places (limitsOf members)) = _ :=
      GroupPlan.round_of_ok hchosen
    unfold GroupPlan.rounds
    rw [show (limitsOf members).map Prod.fst = GroupPlan.places (limitsOf members) from rfl, hround]
    rfl
  unfold planGroup
  dsimp only
  split_ifs with h
  · have horiginals : originalsOf members = [] := h
    rw [horiginals]
    exact (hnone horiginals).symm
  · rfl

/-- **Only header matches are skipped.** -/
theorem headerMatched_of_skip {members : List Member}
    (hplaces : ∀ m ∈ members, ∀ m' ∈ members, m.1 = m'.1 → m = m') {skip : Skip}
    (h : skip ∈ (planGroup members).2) : ∃ p ∈ headerMatched members, p.1 = skip.1 := by
  obtain ⟨n, admission, skips, copies, hreach, -, heq⟩ :=
    GroupPlan.Reaches.ends (placesApart_planOf hplaces)
      (.start : (planOf members).Reaches (limitsOf members) 0 {} _)
      (Nat.lt_succ_of_le (List.length_filter_le _ _))
  rw [planGroup_eq, show (originalsOf members).length = (planOf members).originals.length from rfl,
    heq] at h
  rcases hreach.skipped (placesApart_planOf hplaces) skip h with hlimit | ⟨p, hp, hplace⟩
  · obtain ⟨p, hp, rfl⟩ := List.mem_map.1 hlimit
    exact ⟨p, List.mem_of_mem_drop hp, rfl⟩
  · exact ⟨p, List.mem_of_mem_take hp, hplace⟩

/-- **The incremental admission is the full scan, and the planning of a group ends within its
budgets.**  For a group of whatever frontends, each by its place: in every round the memo finds
what a scan of every pair finds, and a skip is that of a header match not skipped before; so the
rounds are at most sixty-five, with at most sixty-four header matches kept and as many copies
added. -/
theorem plan_group_rounds (frontends : List SourcedFrontend) (members : List Member)
    (hindex : ∀ m ∈ members, frontends[m.1]? = some m.2) :
    (∀ n admission skips, (planOf members).Reaches (limitsOf members) n admission skips →
      (∀ chosen, (planOf members).chooseAll (GroupPlan.places skips) [] (originalsOf members) =
          .ok chosen →
        (admission.firstUnsettled (chosen.flatMap GroupPlan.predicated)).2 =
          scanUnsettled (chosen.flatMap GroupPlan.predicated)) ∧
      (∀ skip, ((planOf members).round admission (GroupPlan.places skips)).2 = .error skip →
        ∃ p ∈ headerMatched members, p.1 = skip.1 ∧ p.1 ∉ GroupPlan.places skips)) ∧
    (∃ n admission skips copies,
      (planOf members).Reaches (limitsOf members) n admission skips ∧ n + 1 ≤ 65 ∧
        ((planOf members).round admission (GroupPlan.places skips)).2 = .ok copies ∧
          planGroup members = (copies, skips)) ∧
    ((headerMatched members).filter fun m =>
      m.1 ∉ GroupPlan.places (planGroup members).2).length ≤ 64 ∧
    (planGroup members).1.length ≤ 64 := by
  have hplaces : (planOf members).PlacesApart := by
    refine placesApart_planOf fun m hm m' hm' heq => ?_
    have hsame : some m.2 = some m'.2 := by rw [← hindex m hm, ← hindex m' hm', heq]
    exact Prod.ext heq (Option.some.inj hsame)
  have hcap : (originalsOf members).length ≤ 64 := List.length_take_le _ _
  obtain ⟨n, admission, skips, copies, hreach, hok, heq⟩ :=
    GroupPlan.Reaches.ends hplaces (.start : (planOf members).Reaches (limitsOf members) 0 {} _)
      (show ((planOf members).remaining (limitsOf members)).length <
        (originalsOf members).length + 1 from Nat.lt_succ_of_le (List.length_filter_le _ _))
  obtain ⟨⟨tierAt, hsound⟩, hcount, hlimits⟩ := hreach.sound hplaces
  have hcount : n + _ ≤ (originalsOf members).length := hcount
  refine ⟨fun n' admission' skips' h => ?_,
    ⟨n, admission, skips, copies, hreach, by omega, hok, ?_⟩,
    ?_, ?_⟩
  · obtain ⟨⟨tierAt', hsound'⟩, -⟩ := h.sound hplaces
    refine ⟨fun chosen hchosen => ?_, fun skip hskip => ?_⟩
    · exact (hsound'.firstUnsettled hplaces.toldById (GroupPlan.isEntry_of_mem_tier hchosen)).1
    · have hround := (GroupPlan.round_sound hplaces hsound' (GroupPlan.places skips')).2
      rw [hskip] at hround
      obtain ⟨p, hp, hplace, hnew⟩ := hround
      exact ⟨p, List.mem_of_mem_take hp, hplace, hnew⟩
  · rw [planGroup_eq, heq]
  · rw [planGroup_eq, heq]
    -- what is beyond the cap is skipped from the start
    have hbeyond : ((headerMatched members).drop maxHeaderMatchesPerHostname).filter (fun m =>
        decide (m.1 ∉ GroupPlan.places skips)) = [] := by
      rw [List.filter_eq_nil_iff]
      intro m hm
      have hskip := hlimits (List.mem_map_of_mem hm)
      have hmem : m.1 ∈ GroupPlan.places skips := List.mem_map_of_mem hskip
      simpa using hmem
    rw [← List.take_append_drop maxHeaderMatchesPerHostname (headerMatched members),
      List.filter_append, hbeyond, List.append_nil]
    exact (List.length_filter_le _ _).trans hcap
  · rw [planGroup_eq, heq]
    have hround := (GroupPlan.round_sound hplaces hsound (GroupPlan.places skips)).2
    rw [hok] at hround
    exact hround

end Rounds

/-- A plain route of a hostname. -/
def plainRoute : SourcedFrontend :=
  ⟨⟨"h", .exact "/a", none, some "c", true, .v4 ⟨0, 0, 0, 0⟩ 443, {}, []⟩, .ingress "ns" "a"⟩

/-- A header match of the same hostname. -/
def headerRoute : SourcedFrontend :=
  ⟨⟨"h", .pathPrefix "/", none, some "d", true, .v4 ⟨0, 0, 0, 0⟩ 443, {}, [⟨"x", .exact "1"⟩]⟩,
    .ingress "ns" "b"⟩

def pairMembers : List Member := [(0, plainRoute), (1, headerRoute)]

attribute [local instance] External.plain Sozu.asciiTable in
/-- A plain route and a header match on one hostname are planned within the budgets. -/
theorem plan_group_rounds_pair :
    (∀ n admission skips, (planOf pairMembers).Reaches (limitsOf pairMembers) n admission skips →
      (∀ chosen, (planOf pairMembers).chooseAll (GroupPlan.places skips) []
          (originalsOf pairMembers) = .ok chosen →
        (admission.firstUnsettled (chosen.flatMap GroupPlan.predicated)).2 =
          scanUnsettled (chosen.flatMap GroupPlan.predicated)) ∧
      (∀ skip, ((planOf pairMembers).round admission (GroupPlan.places skips)).2 = .error skip →
        ∃ p ∈ headerMatched pairMembers, p.1 = skip.1 ∧ p.1 ∉ GroupPlan.places skips)) ∧
    (∃ n admission skips copies,
      (planOf pairMembers).Reaches (limitsOf pairMembers) n admission skips ∧ n + 1 ≤ 65 ∧
        ((planOf pairMembers).round admission (GroupPlan.places skips)).2 = .ok copies ∧
          planGroup pairMembers = (copies, skips)) ∧
    ((headerMatched pairMembers).filter fun m =>
      m.1 ∉ GroupPlan.places (planGroup pairMembers).2).length ≤ 64 ∧
    (planGroup pairMembers).1.length ≤ 64 :=
  plan_group_rounds [plainRoute, headerRoute] pairMembers (by
    intro m hm
    rcases List.mem_pair.1 hm with rfl | rfl <;> rfl)

end Builder

end SozuGateway
