import SozuGateway.Agent.MainProcess
import SozuGateway.Translator.Replay

/-!
# The replay settles as the agent does

`settle` of `crates/translator/src/replay.rs` against `apply_tracked` of
`crates/sozu-agent/src/lib.rs`, over a main process that dispatches what it is sent.

* `HoldsKey` — the removal of what a state stores under a frontend request's key;
  `keyHolder_mainProcess` — the lookup finds it; `after_holdsKey` — dispatching it is the
  replay's eviction.
* `applyRequest_settles` — one request; `applyTracked_settles` — the batch of that request
  ends in the state the replay gives, acknowledged when the replay says so.
-/

set_option autoImplicit false

namespace SozuGateway

namespace Agent

open Lib Sozu Translator

variable {lib : Library} {m : MainProcess} {s : ConfigState}

/-! ## The texts -/

theorem isAlreadyGone_refused (hm : m.Documented) (t : RequestType) (e : StateError) :
    isAlreadyGone t (m.refused t e) =
      (t.isTeardown && (e = .notFound || e = .noChange : Bool)) := by
  cases ht : t.isTeardown with
  | false => simp [isAlreadyGone, ht]
  | true =>
    have hgone : saysGone t (m.refused t e) = (e = .notFound || e = .noChange : Bool) := by
      by_cases he : e = .notFound ∨ e = .noChange
      · have htrue : saysGone t (m.refused t e) = true := by
          rcases hm.gone t e ht he with h | h <;> simp [saysGone, h]
        rw [htrue]
        simpa using he
      · rw [not_or] at he
        simp [hm.not_gone t e ht he.1 he.2, he.1, he.2]
    simp [isAlreadyGone, hm.single, hm.not_ok, hgone, ht]

theorem isDuplicateAdd_refused (hm : m.Documented) (t : RequestType) (e : StateError) :
    isDuplicateAdd t (m.refused t e) =
      match t with
      | .addUdpFrontend _ => true
      | .addFrontend _ _ | .addTcpFrontend _ | .addTcpListener _ | .addUdpListener _ =>
          (e = .alreadyExists : Bool)
      | _ => false := by
  have hexists : (∀ f, t ≠ .addUdpFrontend f) →
      containsText (toAsciiLowercase (m.refused t e)) "already exist" =
        (e = .alreadyExists : Bool) := by
    intro ht
    by_cases he : e = .alreadyExists
    · subst he
      simpa using hm.already_exists t ht
    · simp [hm.not_exists t e he ht, he]
  cases t with
  | addUdpFrontend f => simpa [isDuplicateAdd] using hm.udp f e
  | addFrontend v f => simpa [isDuplicateAdd] using hexists (by simp)
  | addTcpFrontend f => simpa [isDuplicateAdd] using hexists (by simp)
  | addTcpListener l => simpa [isDuplicateAdd] using hexists (by simp)
  | addUdpListener l => simpa [isDuplicateAdd] using hexists (by simp)
  | _ => rfl

/-! ## The key's holder -/

/-- The removal of what the state stores under a frontend request's key. -/
def HoldsKey (lib : Library) (s : ConfigState) : RequestType → RequestType → Prop
  | .addFrontend v f, r | .removeFrontend v f, r =>
      ∃ held, (s.fronts v.https)[lib.display f]? = some held ∧ r = .removeHttpFrontend v.https held
  | .addTcpFrontend f, r | .removeTcpFrontend f, r =>
      ∃ id, ∃ held ∈ s.tcpOf id, sameTcp f held = true ∧ r = .removeTcpFrontend held
  | .addUdpFrontend f, r | .removeUdpFrontend f, r =>
      ∃ id, ∃ held ∈ s.udpOf id, held.address = f.address ∧ r = .removeUdpFrontend held
  | _, _ => False

/-- The hostname of a request, where it has one, holds no `;`. -/
def PlainHost : RequestType → Prop
  | .addFrontend _ f | .removeFrontend _ f => ';' ∉ f.hostname.toList
  | _ => True

/-- Texts that agree up to the first `;` of each. -/
theorem append_semicolon_inj {a a' b b' : List Char} (ha : ';' ∉ a) (ha' : ';' ∉ a')
    (h : a ++ ';' :: b = a' ++ ';' :: b') : a = a' ∧ b = b' := by
  induction a generalizing a' with
  | nil =>
    cases a' with
    | nil => exact ⟨rfl, by simpa using h⟩
    | cons c a' =>
      rw [List.nil_append, List.cons_append, List.cons.injEq] at h
      exact absurd (h.1 ▸ List.mem_cons_self) ha'
  | cons c a ih =>
    cases a' with
    | nil =>
      rw [List.nil_append, List.cons_append, List.cons.injEq] at h
      exact absurd (h.1 ▸ List.mem_cons_self) ha
    | cons c' a' =>
      rw [List.cons_append, List.cons_append, List.cons.injEq] at h
      obtain ⟨rfl, hb⟩ := ih (fun hc => ha (by simp [hc])) (fun hc => ha' (by simp [hc])) h.2
      exact ⟨by rw [h.1], hb⟩

theorem startsWith_of_append_semicolon {a b c d : List Char} (ha : ';' ∉ a)
    (h : a ++ ';' :: c = b ++ ';' :: d) : a <+: b := by
  induction a generalizing b with
  | nil => exact List.nil_prefix
  | cons x a ih =>
    cases b with
    | nil =>
      rw [List.nil_append, List.cons_append, List.cons.injEq] at h
      exact absurd (h.1 ▸ List.mem_cons_self) ha
    | cons y b =>
      rw [List.cons_append, List.cons_append, List.cons.injEq] at h
      rw [h.1]
      exact (List.cons_prefix_cons).2 ⟨rfl, ih (fun hx => ha (by simp [hx])) h.2⟩

/-- **The listing for a hostname holds every frontend under a key of that hostname.** -/
theorem containsText_hostname (hlib : FilesFrontends lib) {f held : RequestHttpFrontend}
    (hhost : ';' ∉ f.hostname.toList) (h : lib.display held = lib.display f) :
    containsText held.hostname f.hostname = true := by
  obtain ⟨address, rest, haddress, hf⟩ := hlib.display f
  obtain ⟨address', rest', haddress', hheld⟩ := hlib.display held
  rw [h, hf] at hheld
  obtain ⟨-, hrest⟩ := append_semicolon_inj haddress haddress' hheld
  exact decide_eq_true (startsWith_of_append_semicolon hhost hrest).isInfix

theorem tcpClaim_of_filed {f : RequestTcpFrontend} (h : f.filed = f) :
    tcpClaim f = (f.sni, f.alpn) := by
  have hsni : (tcpClaim f).1 = f.sni := congrArg RequestTcpFrontend.sni h
  have halpn : (tcpClaim f).2 = f.alpn := congrArg RequestTcpFrontend.alpn h
  rw [← hsni, ← halpn]

/-- What a lookup finds. -/
def Found (lib : Library) (s : ConfigState) (t : RequestType) (holder : Holder) : Prop :=
  (∃ r, HoldsKey lib s t r ∧ holder = .stored r) ∨ (∀ r, ¬HoldsKey lib s t r) ∧ holder = .nothing

theorem keyHolder_eq {t : RequestType} {filters : Sozu.FrontendFilters}
    (h : ownerQuery t = some (.listFrontends filters)) :
    keyHolder lib (mainProcess lib m) t s =
      (.ok ((storedRemoval lib t (m.list s filters)).elim .nothing .stored), s) := by
  unfold keyHolder
  rw [h]
  simp only [mainProcess, RequestType.into]
  cases storedRemoval lib t (m.list s filters) <;> rfl

theorem storedRemoval_front (hlib : FilesFrontends lib) (hm : m.Documented) (hs : Filed lib s)
    {https : Bool} {f : RequestHttpFrontend} (hhost : ';' ∉ f.hostname.toList) :
    (((m.list s ⟨!https, https, false, some f.hostname, none⟩).fronts https).find? fun stored =>
      lib.display stored = lib.display f) = (s.fronts https)[lib.display f]? := by
  cases hfind : ((m.list s ⟨!https, https, false, some f.hostname, none⟩).fronts https).find?
    fun stored => lib.display stored = lib.display f with
  | some held =>
    have hmem := List.mem_of_find?_eq_some hfind
    obtain ⟨⟨key, hkey⟩, -⟩ := (hm.mem_fronts s https f.hostname held).1 hmem
    have hdisplay : lib.display held = lib.display f := by simpa using List.find?_some hfind
    rw [← hdisplay, hs.front_keyed https key held hkey, hkey]
  | none =>
    cases hheld : (s.fronts https)[lib.display f]? with
    | none => rfl
    | some held =>
      have hdisplay := hs.front_keyed https _ held hheld
      have hmem := (hm.mem_fronts s https f.hostname held).2
        ⟨⟨_, hheld⟩, containsText_hostname hlib hhost hdisplay⟩
      have hnot := List.find?_eq_none.1 hfind held hmem
      simp [hdisplay] at hnot

theorem found_of_find? {α : Type} {l : List α} {p : α → Bool} {mk : α → RequestType}
    {t : RequestType} (h : ∀ r, HoldsKey lib s t r ↔ ∃ a ∈ l, p a = true ∧ r = mk a) :
    Found lib s t (((l.find? p).map mk).elim .nothing .stored) := by
  cases hfind : l.find? p with
  | some a =>
    have hmem := List.mem_of_find?_eq_some hfind
    refine .inl ⟨mk a, (h _).2 ⟨a, hmem, List.find?_some hfind, rfl⟩, rfl⟩
  | none =>
    refine .inr ⟨fun r hr => ?_, rfl⟩
    obtain ⟨a, ha, hpa, -⟩ := (h r).1 hr
    exact List.find?_eq_none.1 hfind a ha hpa

/-- **The lookup finds what the state stores under the key.** -/
theorem keyHolder_mainProcess (hlib : FilesFrontends lib) (hm : m.Documented) (hs : Filed lib s)
    {t : RequestType} (ht : isFrontend t = true) (hhost : PlainHost t) :
    ∃ holder, keyHolder lib (mainProcess lib m) t s = (.ok holder, s) ∧ Found lib s t holder := by
  have hfront : ∀ (v : FrontendVerb) (f : RequestHttpFrontend) (t : RequestType),
      ';' ∉ f.hostname.toList →
      (∀ r, HoldsKey lib s t r ↔ ∃ held, (s.fronts v.https)[lib.display f]? = some held ∧
        r = .removeHttpFrontend v.https held) →
      Found lib s t (((((m.list s ⟨!v.https, v.https, false, some f.hostname, none⟩).fronts
        v.https).find? fun stored => lib.display stored = lib.display f).map
          (RequestType.removeHttpFrontend v.https)).elim .nothing .stored) := by
    intro v f t hhost hholds
    rw [storedRemoval_front hlib hm hs hhost]
    cases hheld : (s.fronts v.https)[lib.display f]? with
    | some held => exact .inl ⟨_, (hholds _).2 ⟨held, hheld, rfl⟩, rfl⟩
    | none =>
      refine .inr ⟨fun r hr => ?_, rfl⟩
      obtain ⟨held, hheld', -⟩ := (hholds r).1 hr
      rw [hheld] at hheld'
      cases hheld'
  have htcp : ∀ (f : RequestTcpFrontend) (t : RequestType),
      (∀ r, HoldsKey lib s t r ↔ ∃ id, ∃ held ∈ s.tcpOf id, sameTcp f held = true ∧
        r = .removeTcpFrontend held) →
      Found lib s t ((((m.list s ⟨false, false, true, none, none⟩).tcpFrontends.find? fun stored =>
        stored.address = f.address ∧ tcpClaim stored = tcpClaim f).map
          .removeTcpFrontend).elim .nothing .stored) := by
    intro f t hholds
    refine found_of_find? fun r => (hholds r).trans ?_
    have hsame : ∀ id, ∀ held ∈ s.tcpOf id, (sameTcp f held = true ↔
        held.address = f.address ∧ tcpClaim held = tcpClaim f) := by
      intro id held hheld
      rw [tcpClaim_of_filed (hs.tcp_filed id held hheld).2]
      simp [sameTcp]
    constructor
    · rintro ⟨id, held, hheld, hclaim, rfl⟩
      exact ⟨held, (hm.mem_tcp s held).2 ⟨id, hheld⟩,
        decide_eq_true ((hsame id held hheld).1 hclaim), rfl⟩
    · rintro ⟨held, hmem, hclaim, rfl⟩
      obtain ⟨id, hheld⟩ := (hm.mem_tcp s held).1 hmem
      exact ⟨id, held, hheld, (hsame id held hheld).2 (of_decide_eq_true hclaim), rfl⟩
  have hudp : ∀ (f : RequestUdpFrontend) (t : RequestType),
      (∀ r, HoldsKey lib s t r ↔ ∃ id, ∃ held ∈ s.udpOf id, held.address = f.address ∧
        r = .removeUdpFrontend held) →
      Found lib s t ((((m.list s ⟨false, false, true, none, none⟩).udpFrontends.find? fun stored =>
        stored.address = f.address).map .removeUdpFrontend).elim .nothing .stored) := by
    intro f t hholds
    refine found_of_find? fun r => (hholds r).trans ?_
    constructor
    · rintro ⟨id, held, hheld, haddress, rfl⟩
      exact ⟨held, (hm.mem_udp s held).2 ⟨id, hheld⟩, decide_eq_true haddress, rfl⟩
    · rintro ⟨held, hmem, haddress, rfl⟩
      obtain ⟨id, hheld⟩ := (hm.mem_udp s held).1 hmem
      exact ⟨id, held, hheld, of_decide_eq_true haddress, rfl⟩
  cases t with
  | addFrontend v f => exact ⟨_, keyHolder_eq rfl, hfront v f _ hhost fun _ => Iff.rfl⟩
  | removeFrontend v f => exact ⟨_, keyHolder_eq rfl, hfront v f _ hhost fun _ => Iff.rfl⟩
  | addTcpFrontend f => exact ⟨_, keyHolder_eq rfl, htcp f _ fun _ => Iff.rfl⟩
  | removeTcpFrontend f => exact ⟨_, keyHolder_eq rfl, htcp f _ fun _ => Iff.rfl⟩
  | addUdpFrontend f => exact ⟨_, keyHolder_eq rfl, hudp f _ fun _ => Iff.rfl⟩
  | removeUdpFrontend f => exact ⟨_, keyHolder_eq rfl, hudp f _ fun _ => Iff.rfl⟩
  | _ => cases ht

/-! ## The eviction -/

theorem HoldsKey.fits (hs : Filed lib s) {t r : RequestType} (h : HoldsKey lib s t r) :
    isFrontendTeardown r = true ∧ Fits lib s r := by
  have hfront : ∀ https (key : String) held, (s.fronts https)[key]? = some held →
      Fits lib s (.removeHttpFrontend https held) := by
    intro https key held hheld
    refine ⟨held, ?_, rfl⟩
    rw [hs.front_keyed https key held hheld]
    exact hheld
  have htcp : ∀ id, ∀ held ∈ s.tcpOf id, Fits lib s (.removeTcpFrontend held) := by
    intro id held hheld
    obtain ⟨rfl, hfiled⟩ := hs.tcp_filed id held hheld
    refine ⟨held, hheld, ?_⟩
    simp [sameTcp, tcpClaim_of_filed hfiled]
  have hudp : ∀ id, ∀ held ∈ s.udpOf id, Fits lib s (.removeUdpFrontend held) := by
    intro id held hheld
    have hid := hs.udp_keyed id held hheld
    subst hid
    exact ⟨held, hheld, rfl⟩
  cases t with
  | addFrontend v f | removeFrontend v f =>
    obtain ⟨held, hheld, rfl⟩ := h
    exact ⟨rfl, hfront _ _ held hheld⟩
  | addTcpFrontend f | removeTcpFrontend f =>
    obtain ⟨id, held, hheld, -, rfl⟩ := h
    exact ⟨rfl, htcp id held hheld⟩
  | addUdpFrontend f | removeUdpFrontend f =>
    obtain ⟨id, held, hheld, -, rfl⟩ := h
    exact ⟨rfl, hudp id held hheld⟩
  | _ => exact absurd h id

section Buckets

variable {V : Type}

/-- The bucket of a cluster once every bucket is filtered. -/
theorem getD_map_filter (m : BTreeMap String (List V)) (p : V → Bool) (id : String) :
    (m.map fun _ l => l.filter p)[id]?.getD [] = (m[id]?.getD []).filter p := by
  rw [Std.ExtTreeMap.getElem?_map]
  cases m[id]? <;> rfl

theorem any_toList_iff {m : BTreeMap String (List V)} {p : V → Bool} :
    (m.toList.any fun entry => entry.2.any p) = true ↔
      ∃ id : String, ∃ v ∈ m[id]?.getD [], p v = true := by
  simp only [List.any_eq_true, Prod.exists, Std.ExtTreeMap.mem_toList_iff_getElem?_eq_some]
  constructor
  · rintro ⟨id, l, hl, v, hv, hp⟩
    exact ⟨id, v, by rwa [hl], hp⟩
  · rintro ⟨id, v, hv, hp⟩
    cases hl : m[id]? with
    | none => simp [hl] at hv
    | some l => exact ⟨id, l, hl, v, by rwa [hl] at hv, hp⟩

/-- Emptying one bucket of an element that is in no other is emptying all of them. -/
theorem getD_insert_filter {m : BTreeMap String (List V)} {p q : V → Bool} {id₀ : String}
    (hother : ∀ id : String, id ≠ id₀ → ∀ v ∈ m[id]?.getD [], q v = true)
    (hsame : ∀ v ∈ m[id₀]?.getD [], p v = q v) (id : String) :
    (m.insert id₀ ((m[id₀]?.getD []).filter p))[id]?.getD [] = (m[id]?.getD []).filter q := by
  rw [BTreeMap.getElem?_insert]
  by_cases hid : id₀ = id
  · subst hid
    rw [if_pos rfl]
    exact List.filter_congr hsame
  · rw [if_neg hid]
    exact (List.filter_eq_self.2 (hother id (Ne.symm hid))).symm

end Buckets

/-- What the eviction leaves, in a state where one frontend answers to the key. -/
theorem evict_tcp (hs : Filed lib s) {id : String} {f held : RequestTcpFrontend}
    (hheld : held ∈ s.tcpOf id) (hclaim : sameTcp f held = true) :
    (after lib s (.removeTcpFrontend held)).Agrees
      { s with tcpFronts := s.tcpFronts.map fun _ l => l.filter fun x => !sameTcp f x } := by
  obtain ⟨rfl, hfiled⟩ := hs.tcp_filed id held hheld
  have haddress : held.address = f.address := by
    have h := hclaim
    simp only [sameTcp, Bool.decide_and, Bool.and_eq_true, decide_eq_true_eq] at h
    exact h.1
  have hself : ∀ id, ∀ x ∈ s.tcpOf id, ∀ g : RequestTcpFrontend, g.address = held.address →
      sameTcp g held = true → (sameTcp g x = true ↔ x = held) := by
    intro id x hx g hg hgheld
    constructor
    · intro hsame
      simp only [sameTcp, Bool.decide_and, Bool.and_eq_true, decide_eq_true_eq] at hsame
      exact hs.tcp_one _ _ x hx held hheld (hsame.1.trans hg)
    · rintro rfl
      exact hgheld
  have hheldself : sameTcp held held = true := by simp [sameTcp, tcpClaim_of_filed hfiled]
  refine ⟨rfl, rfl, rfl, rfl, rfl, fun _ => .refl _, fun id => ?_, fun _ => .refl _⟩
  refine List.Perm.of_eq ((getD_insert_filter (fun id hid x hx => ?_) (fun x hx => ?_) id).trans
    (getD_map_filter _ _ id).symm)
  · -- no other cluster's bucket holds the frontend
    have hne : x ≠ held := fun h => hid ((hs.tcp_filed id x hx).1.symm.trans (congrArg _ h))
    have hsame := hself id x hx f haddress.symm hclaim
    simpa using fun h => hne (hsame.1 h)
  · have h₁ := hself _ x hx f haddress.symm hclaim
    have h₂ := hself _ x hx held rfl hheldself
    rw [Bool.eq_iff_iff.2 (h₂.trans h₁.symm)]

theorem evict_udp (hs : Filed lib s) {id : String} {f held : RequestUdpFrontend}
    (hheld : held ∈ s.udpOf id) (haddress : held.address = f.address) :
    (after lib s (.removeUdpFrontend held)).Agrees
      { s with
        udpFronts := s.udpFronts.map fun _ l => l.filter fun x => x.address ≠ f.address } := by
  have hid := hs.udp_keyed id held hheld
  subst hid
  refine ⟨rfl, rfl, rfl, rfl, rfl, fun _ => .refl _, fun _ => .refl _, fun id => ?_⟩
  refine List.Perm.of_eq ((getD_insert_filter (fun id hid x hx => ?_) (fun x _ => ?_) id).trans
    (getD_map_filter _ _ id).symm)
  · refine decide_eq_true fun h => hid ?_
    have hx' := hs.udp_one id _ x hx held hheld (h.trans haddress.symm)
    exact (hs.udp_keyed id x hx).symm.trans (congrArg _ hx')
  · rw [haddress]

/-- **Dispatching the removal of the key's holder is the replay's eviction.** -/
theorem after_holdsKey (hs : Filed lib s) {t r : RequestType} (h : HoldsKey lib s t r) :
    (after lib s r).Agrees (evict lib s t).1 ∧ (evict lib s t).2 = true := by
  have hfront : ∀ (v : FrontendVerb) (f held : RequestHttpFrontend),
      (s.fronts v.https)[lib.display f]? = some held →
      (after lib s (.removeHttpFrontend v.https held)).Agrees
        (s.setFronts v.https ((s.fronts v.https).erase (lib.display f))) ∧
      (s.fronts v.https)[lib.display f]?.isSome = true := by
    intro v f held hheld
    have hkey := hs.front_keyed v.https _ held hheld
    refine ⟨?_, by rw [hheld]; rfl⟩
    show (s.setFronts v.https ((s.fronts v.https).erase (lib.display held))).Agrees _
    rw [hkey]
    exact .refl _
  cases t with
  | addFrontend v f | removeFrontend v f =>
    obtain ⟨held, hheld, rfl⟩ := h
    exact hfront v f held hheld
  | addTcpFrontend f | removeTcpFrontend f =>
    obtain ⟨id, held, hheld, hclaim, rfl⟩ := h
    exact ⟨evict_tcp hs hheld hclaim, any_toList_iff.2 ⟨id, held, hheld, hclaim⟩⟩
  | addUdpFrontend f | removeUdpFrontend f =>
    obtain ⟨id, held, hheld, haddress, rfl⟩ := h
    exact ⟨evict_udp hs hheld haddress,
      any_toList_iff.2 ⟨id, held, hheld, decide_eq_true haddress⟩⟩
  | _ => exact absurd h id

/-- **Nothing is evicted where nothing holds the key.** -/
theorem evict_nothing {t : RequestType} (ht : isFrontend t = true)
    (h : ∀ r, ¬HoldsKey lib s t r) : s.Agrees (evict lib s t).1 ∧ (evict lib s t).2 = false := by
  have hfront : ∀ (v : FrontendVerb) (f : RequestHttpFrontend),
      (s.fronts v.https)[lib.display f]? = none →
      s.Agrees (s.setFronts v.https ((s.fronts v.https).erase (lib.display f))) ∧
        (s.fronts v.https)[lib.display f]?.isSome = false := by
    intro v f hnone
    have herase : (s.fronts v.https).erase (lib.display f) = s.fronts v.https := by
      refine BTreeMap.ext fun key => ?_
      rw [BTreeMap.getElem?_erase]
      by_cases hkey : lib.display f = key
      · rw [if_pos hkey, ← hkey, hnone]
      · rw [if_neg hkey]
    refine ⟨?_, by rw [hnone]; rfl⟩
    rw [herase]
    cases hv : v.https <;> exact ⟨rfl, rfl, rfl, rfl, rfl, fun _ => .refl _, fun _ => .refl _,
      fun _ => .refl _⟩
  have hbuckets : ∀ {V : Type} (m : BTreeMap String (List V)) (p : V → Bool),
      (∀ id : String, ∀ v ∈ m[id]?.getD [], p v = false) →
      (∀ id : String,
        (m[id]?.getD []).Perm ((m.map fun _ l => l.filter fun v => !p v)[id]?.getD [])) ∧
        (m.toList.any fun entry => entry.2.any p) = false := by
    intro V m p hp
    refine ⟨fun id => .of_eq ?_, ?_⟩
    · rw [getD_map_filter]
      exact (List.filter_eq_self.2 fun v hv => by simp [hp id v hv]).symm
    · rw [← Bool.not_eq_true, any_toList_iff]
      rintro ⟨id, v, hv, htrue⟩
      rw [hp id v hv] at htrue
      cases htrue
  have htcp : ∀ f : RequestTcpFrontend, (∀ id, ∀ held ∈ s.tcpOf id, sameTcp f held = false) →
      s.Agrees { s with tcpFronts := s.tcpFronts.map fun _ l => l.filter fun x => !sameTcp f x } ∧
        (s.tcpFronts.toList.any fun entry => entry.2.any (sameTcp f)) = false := by
    intro f hp
    obtain ⟨hperm, hany⟩ := hbuckets s.tcpFronts (sameTcp f) hp
    exact ⟨⟨rfl, rfl, rfl, rfl, rfl, fun _ => .refl _, hperm, fun _ => .refl _⟩, hany⟩
  have hudp : ∀ f : RequestUdpFrontend, (∀ id, ∀ held ∈ s.udpOf id, held.address ≠ f.address) →
      s.Agrees { s with
        udpFronts := s.udpFronts.map fun _ l => l.filter fun x => x.address ≠ f.address } ∧
        (s.udpFronts.toList.any fun entry => entry.2.any fun x => x.address = f.address) =
          false := by
    intro f hp
    obtain ⟨hperm, hany⟩ := hbuckets s.udpFronts (fun x => x.address = f.address)
      fun id x hx => decide_eq_false (hp id x hx)
    have hfilter : (fun _ : String => fun l : List RequestUdpFrontend =>
        l.filter fun x => decide (x.address ≠ f.address)) =
          fun _ l => l.filter fun x => !decide (x.address = f.address) := by
      funext _ l
      refine List.filter_congr fun x _ => ?_
      simp
    rw [hfilter]
    exact ⟨⟨rfl, rfl, rfl, rfl, rfl, fun _ => .refl _, fun _ => .refl _, hperm⟩, hany⟩
  cases t with
  | addFrontend v f | removeFrontend v f =>
    refine hfront v f (Option.eq_none_iff_forall_ne_some.2 fun held hheld => ?_)
    exact h _ ⟨held, hheld, rfl⟩
  | addTcpFrontend f | removeTcpFrontend f =>
    refine htcp f fun id held hheld => Bool.eq_false_iff.2 fun hclaim => ?_
    exact h _ ⟨id, held, hheld, hclaim, rfl⟩
  | addUdpFrontend f | removeUdpFrontend f =>
    exact hudp f fun id held hheld haddress => h _ ⟨id, held, hheld, haddress, rfl⟩
  | _ => cases ht

/-! ## Adding again -/

theorem Filed.agrees {s' : ConfigState} (hs : Filed lib s) (h : s.Agrees s') : Filed lib s' where
  front_keyed https := h.fronts https ▸ hs.front_keyed https
  tcp_filed id f hf := hs.tcp_filed id f ((h.tcpOf id).mem_iff.2 hf)
  udp_keyed id f hf := hs.udp_keyed id f ((h.udpOf id).mem_iff.2 hf)
  tcp_one id id' f hf g hg :=
    hs.tcp_one id id' f ((h.tcpOf id).mem_iff.2 hf) g ((h.tcpOf id').mem_iff.2 hg)
  udp_one id id' f hf g hg :=
    hs.udp_one id id' f ((h.udpOf id).mem_iff.2 hf) g ((h.udpOf id').mem_iff.2 hg)

/-- A removal leaves every frontend under its key. -/
theorem Filed.after (hs : Filed lib s) {r : RequestType} (hr : isFrontendTeardown r = true) :
    Filed lib (after lib s r) := by
  have htcp : ∀ {s' : ConfigState}, (∀ https, s'.fronts https = s.fronts https) →
      (∀ id, ∀ x ∈ s'.tcpOf id, x ∈ s.tcpOf id) → (∀ id, ∀ x ∈ s'.udpOf id, x ∈ s.udpOf id) →
      Filed lib s' := by
    intro s' hfronts htcp hudp
    exact
      { front_keyed := fun https => hfronts https ▸ hs.front_keyed https
        tcp_filed := fun id f hf => hs.tcp_filed id f (htcp id f hf)
        udp_keyed := fun id f hf => hs.udp_keyed id f (hudp id f hf)
        tcp_one := fun id id' f hf g hg => hs.tcp_one id id' f (htcp id f hf) g (htcp id' g hg)
        udp_one := fun id id' f hf g hg => hs.udp_one id id' f (hudp id f hf) g (hudp id' g hg) }
  cases r with
  | removeFrontend v f =>
    have hrest := setFronts_rest s v.https ((s.fronts v.https).erase (lib.display f))
    show Filed lib (s.setFronts v.https ((s.fronts v.https).erase (lib.display f)))
    refine ⟨fun https key g hg => ?_, ?_, ?_, ?_, ?_⟩
    · rw [fronts_setFronts] at hg
      split at hg
      · rename_i heq
        subst heq
        rw [BTreeMap.getElem?_erase] at hg
        split at hg
        · cases hg
        · exact hs.front_keyed _ key g hg
      · exact hs.front_keyed https key g hg
    all_goals simp only [ConfigState.tcpOf, ConfigState.udpOf, hrest]
    · exact hs.tcp_filed
    · exact hs.udp_keyed
    · exact hs.tcp_one
    · exact hs.udp_one
  | removeTcpFrontend f =>
    refine htcp (fun https => by cases https <;> rfl) (fun id x hx => ?_) fun id x hx => hx
    rw [Sozu.after, tcpOf_insert] at hx
    split at hx
    · rename_i hid
      exact hid ▸ List.mem_of_mem_filter hx
    · exact hx
  | removeUdpFrontend f =>
    refine htcp (fun https => by cases https <;> rfl) (fun id x hx => hx) fun id x hx => ?_
    rw [Sozu.after, udpOf_insert] at hx
    split at hx
    · rename_i hid
      exact hid ▸ List.mem_of_mem_filter hx
    · exact hx
  | _ => cases hr

/-- The effect of a frontend add respects agreement. -/
theorem after_add_agrees {s s' : ConfigState} (h : s.Agrees s') {t : RequestType}
    (ht : isFrontend t = true) (hadd : isFrontendTeardown t = false) :
    (after lib s t).Agrees (after lib s' t) := by
  cases t with
  | addFrontend v f =>
    have hmaps := h.fronts v.https
    have hhttp := h.httpFronts
    have hhttps := h.httpsFronts
    show (s.setFronts v.https _).Agrees (s'.setFronts v.https _)
    rw [hmaps]
    cases v.https
    · exact { h with httpFronts := rfl }
    · exact { h with httpsFronts := rfl }
  | addTcpFrontend f =>
    refine { h with tcpOf := fun id => ?_ }
    show (ConfigState.tcpOf { s with tcpFronts := _ } id).Perm
      (ConfigState.tcpOf { s' with tcpFronts := _ } id)
    rw [tcpOf_insert, tcpOf_insert]
    split
    · exact (h.tcpOf _).cons _
    · exact h.tcpOf id
  | addUdpFrontend f =>
    refine { h with udpOf := fun id => ?_ }
    show (ConfigState.udpOf { s with udpFronts := _ } id).Perm
      (ConfigState.udpOf { s' with udpFronts := _ } id)
    rw [udpOf_insert, udpOf_insert]
    split
    · exact (h.udpOf _).cons _
    · exact h.udpOf id
  | removeFrontend v f => cases hadd
  | removeTcpFrontend f => cases hadd
  | removeUdpFrontend f => cases hadd
  | _ => cases ht

/-- Two states that agree take a frontend add alike, once the key's holder is gone. -/
theorem readd_agrees (hlib : FilesFrontends lib) (hs : Filed lib s) {t r : RequestType}
    (ht : isFrontend t = true) (hadd : isFrontendTeardown t = false) (h : HoldsKey lib s t r)
    {s₁ s₂ : ConfigState} (h₁ : (after lib s r).Agrees s₁) (h₂ : (after lib s r).Agrees s₂)
    (hfiled : Filed lib s₁) :
    (∃ a b, lib.dispatch s₁ t.into = .ok a ∧ lib.dispatch s₂ t.into = .ok b ∧ a.Agrees b) ∨
      ∃ e e', lib.dispatch s₁ t.into = .error e ∧ lib.dispatch s₂ t.into = .error e' := by
  have h₁₂ : s₁.Agrees s₂ := h₁.symm.trans h₂
  have hfiled₂ := hfiled.agrees h₁₂
  have hboth : Fits lib s₁ t → Fits lib s₂ t →
      ∃ a b, lib.dispatch s₁ t.into = .ok a ∧ lib.dispatch s₂ t.into = .ok b ∧ a.Agrees b := by
    intro hfits₁ hfits₂
    obtain ⟨a, ha, hafter₁⟩ := hlib.fits s₁ t hfiled ht hfits₁
    obtain ⟨b, hb, hafter₂⟩ := hlib.fits s₂ t hfiled₂ ht hfits₂
    exact ⟨a, b, ha, hb, (hafter₁.trans (after_add_agrees h₁₂ ht hadd)).trans hafter₂.symm⟩
  cases t with
  | addFrontend v f =>
    by_cases hfits : Fits lib s₁ (.addFrontend v f)
    · refine .inl (hboth hfits ⟨hfits.1, ?_⟩)
      rw [← h₁₂.fronts v.https]
      exact hfits.2
    · have hrefused : Refused lib s₁ (.addFrontend v f) := by
        by_cases hadmits : lib.admits (.addFrontend v f) = true
        · exact .inr fun hnone => hfits ⟨hadmits, hnone⟩
        · exact .inl hadmits
      have hrefused₂ : Refused lib s₂ (.addFrontend v f) := by
        rcases hrefused with hadmits | hheld
        · exact .inl hadmits
        · rw [h₁₂.fronts v.https] at hheld
          exact .inr hheld
      obtain ⟨e, he⟩ := hlib.refuses_add s₁ v f hrefused
      obtain ⟨e', he'⟩ := hlib.refuses_add s₂ v f hrefused₂
      exact .inr ⟨e, e', he, he'⟩
  | addTcpFrontend f =>
    obtain ⟨id, held, hheld, hclaim, rfl⟩ := h
    obtain ⟨rfl, hheldfiled⟩ := hs.tcp_filed id held hheld
    simp only [sameTcp, Bool.decide_and, Bool.and_eq_true, decide_eq_true_eq] at hclaim
    -- the address is free without its one frontend
    have hfree : ∀ s', (after lib s (.removeTcpFrontend held)).Agrees s' →
        Fits lib s' (.addTcpFrontend f) := by
      intro s' hs' id x hx haddress
      have hx' := (hs'.tcpOf id).mem_iff.2 hx
      rw [after, tcpOf_insert] at hx'
      split at hx'
      · obtain ⟨hmem, hkept⟩ := List.mem_filter.1 hx'
        have hxheld := hs.tcp_one _ _ x hmem held hheld (haddress.trans hclaim.1.symm)
        simp [hxheld, sameTcp, tcpClaim_of_filed hheldfiled] at hkept
      · rename_i hid
        have hxheld := hs.tcp_one _ _ x hx' held hheld (haddress.trans hclaim.1.symm)
        exact hid ((congrArg _ hxheld.symm).trans (hs.tcp_filed id x hx').1)
    exact .inl (hboth (hfree _ h₁) (hfree _ h₂))
  | addUdpFrontend f =>
    obtain ⟨id, held, hheld, hheldaddress, rfl⟩ := h
    have hid := hs.udp_keyed id held hheld
    subst hid
    have hfree : ∀ s', (after lib s (.removeUdpFrontend held)).Agrees s' →
        Fits lib s' (.addUdpFrontend f) := by
      intro s' hs' id x hx haddress
      have hx' := (hs'.udpOf id).mem_iff.2 hx
      rw [after, udpOf_insert] at hx'
      split at hx'
      · obtain ⟨-, hkept⟩ := List.mem_filter.1 hx'
        exact of_decide_eq_true hkept (haddress.trans hheldaddress.symm)
      · rename_i hid
        have hxheld := hs.udp_one _ _ x hx' held hheld (haddress.trans hheldaddress.symm)
        exact hid ((congrArg _ hxheld.symm).trans (hs.udp_keyed id x hx'))
    exact .inl (hboth (hfree _ h₁) (hfree _ h₂))
  | removeFrontend v f => cases hadd
  | removeTcpFrontend f => cases hadd
  | removeUdpFrontend f => cases hadd
  | _ => cases ht

/-! ## Round trips -/

/-- A request that is no listing is dispatched. -/
theorem send_mainProcess {t : RequestType} (ht : isRouting t = true) :
    (mainProcess lib m).send t.into s =
      match lib.dispatch s t.into with
      | .ok s' => (.ok ⟨.ok, m.accepted t, none⟩, s')
      | .error e => (.error (.failure (m.refused t e)), s) := by
  cases t with
  | listFrontends filters => cases ht
  | _ => rfl

@[simp] theorem abandoned_mainProcess : (mainProcess lib m).abandoned s = (false, s) := rfl

theorem isRouting_of_isFrontend {t : RequestType} (ht : isFrontend t = true) :
    isRouting t = true := by
  cases t <;> first | rfl | cases ht

theorem isFrontend_of_teardown {t : RequestType} (ht : isFrontendTeardown t = true) :
    isFrontend t = true := by
  cases t <;> first | rfl | cases ht

/-- The removal of the key's holder is accepted. -/
theorem applyOne_holdsKey (hlib : FilesFrontends lib) (hs : Filed lib s) {t r : RequestType}
    (h : HoldsKey lib s t r) :
    ∃ s₁, applyOne (mainProcess lib m) r s = (.ok (), s₁) ∧ (after lib s r).Agrees s₁ := by
  obtain ⟨hteardown, hfits⟩ := h.fits hs
  have hfrontend := isFrontend_of_teardown hteardown
  obtain ⟨s₁, hok, hafter⟩ := hlib.fits s r hs hfrontend hfits
  refine ⟨s₁, ?_, hafter.symm⟩
  rw [applyOne, send_mainProcess (isRouting_of_isFrontend hfrontend), hok]

/-- **The agent's eviction is the replay's**, for a removal Sōzu refused. -/
theorem evictStaleHolder_settles (hlib : FilesFrontends lib) (hm : m.Documented)
    (hs : Filed lib s) {t : RequestType} (ht : isFrontendTeardown t = true) (hhost : PlainHost t)
    (hrefused : ¬Fits lib s t) (answer : String) (progress : ℕ × ℕ) :
    ∃ eviction s₁, evictStaleHolder lib (mainProcess lib m) t answer progress s =
      (.ok eviction, s₁) ∧ s₁.Agrees (evict lib s t).1 := by
  have hfrontend := isFrontend_of_teardown ht
  obtain ⟨holder, hholder, hfound⟩ := keyHolder_mainProcess hlib hm hs hfrontend hhost
  rcases hfound with ⟨r, hholds, rfl⟩ | ⟨hnone, rfl⟩
  · obtain ⟨s₁, hsent, hafter⟩ := applyOne_holdsKey (m := m) hlib hs hholds
    have hne : r ≠ t := by
      rintro rfl
      exact hrefused (hholds.fits hs).2
    refine ⟨.removed, s₁, ?_, hafter.symm.trans (after_holdsKey hs hholds).1⟩
    unfold evictStaleHolder
    rw [hholder]
    simp only [ne_eq, hne, not_false_eq_true, if_true, abandoned_mainProcess, hsent]
  · refine ⟨.nothing, s, ?_, (evict_nothing hfrontend hnone).1⟩
    unfold evictStaleHolder
    rw [hholder]

/-- Where nothing holds the key, an add's own removal finds nothing. -/
theorem not_fits_own {t own : RequestType} (hown : removalFor t = some own)
    (hnone : ∀ r, ¬HoldsKey lib s t r) : isFrontendTeardown own = true ∧ ¬Fits lib s own := by
  cases t with
  | addFrontend v f =>
    obtain rfl := Option.some.inj hown
    refine ⟨rfl, ?_⟩
    rintro ⟨held, hheld, -⟩
    exact hnone _ ⟨held, hheld, rfl⟩
  | addTcpFrontend f =>
    obtain rfl := Option.some.inj hown
    refine ⟨rfl, ?_⟩
    rintro ⟨held, hheld, hclaim⟩
    exact hnone _ ⟨_, held, hheld, hclaim, rfl⟩
  | addUdpFrontend f =>
    obtain rfl := Option.some.inj hown
    refine ⟨rfl, ?_⟩
    rintro ⟨held, hheld, haddress⟩
    exact hnone _ ⟨_, held, hheld, haddress, rfl⟩
  | _ => cases hown

/-- **The agent's repair is the replay's**, for an add Sōzu refused. -/
theorem repairDuplicate_settles (hlib : FilesFrontends lib) (hm : m.Documented)
    (hs : Filed lib s) {t own : RequestType} (ht : isFrontend t = true)
    (hadd : isFrontendTeardown t = false) (hown : removalFor t = some own) (hhost : PlainHost t)
    {e : StateError} (hrefused : lib.dispatch s t.into = .error e) (progress : ℕ × ℕ) :
    ∃ outcome s₁, repairDuplicate lib (mainProcess lib m) t own progress s = (outcome, s₁) ∧
      s₁.Agrees (repair lib s t).1 ∧ (outcome.isOk = true ↔ (repair lib s t).2 = true) := by
  obtain ⟨holder, hholder, hfound⟩ := keyHolder_mainProcess hlib hm hs ht hhost
  have hrouting := isRouting_of_isFrontend ht
  rcases hfound with ⟨r, hholds, rfl⟩ | ⟨hnone, rfl⟩
  · -- the holder is removed, and the add decides
    obtain ⟨s₁, hsent, hafter⟩ := applyOne_holdsKey (m := m) hlib hs hholds
    obtain ⟨hevicted, htrue⟩ := after_holdsKey hs hholds
    have hfiled : Filed lib s₁ := (hs.after (hholds.fits hs).1).agrees hafter
    have hrepair : repairDuplicate lib (mainProcess lib m) t own progress s =
        applyOne (mainProcess lib m) t s₁ := by
      unfold repairDuplicate
      simp only [hholder, abandoned_mainProcess, hsent]
    have hevict : evict lib s t = ((evict lib s t).1, true) := Prod.ext rfl htrue
    rw [hrepair, applyOne, send_mainProcess hrouting]
    unfold repair
    rw [hevict]
    rcases readd_agrees hlib hs ht hadd hholds hafter hevicted hfiled with
      ⟨a, b, ha, hb, hab⟩ | ⟨e₁, e₂, he₁, he₂⟩
    · rw [ha]
      simp only [hb]
      exact ⟨_, _, rfl, hab, by simp [Except.isOk, Except.toBool]⟩
    · rw [he₁]
      simp only [he₂]
      exact ⟨_, _, rfl, hafter.symm.trans hevicted, by simp [Except.isOk, Except.toBool]⟩
  · -- nothing to remove: the add is refused again
    obtain ⟨hagrees, hfalse⟩ := evict_nothing ht hnone
    obtain ⟨hteardown, hownnot⟩ := not_fits_own hown hnone
    obtain ⟨e', he'⟩ := hlib.refuses_removal s own hs hteardown hownnot
    have hevict : evict lib s t = ((evict lib s t).1, false) := Prod.ext rfl hfalse
    have hownrouting := isRouting_of_isFrontend (isFrontend_of_teardown hteardown)
    have hsent : applyOne (mainProcess lib m) own s =
        (.error (.failure (m.refused own e')), s) := by
      rw [applyOne, send_mainProcess hownrouting, he']
    have hagain : applyOne (mainProcess lib m) t s = (.error (.failure (m.refused t e)), s) := by
      rw [applyOne, send_mainProcess hrouting, hrefused]
    refine ⟨.error (.failure (m.refused t e)), s, ?_, ?_, ?_⟩
    · unfold repairDuplicate
      simp only [hholder, abandoned_mainProcess, hsent, hagain]
    · unfold repair
      rw [hevict]
      exact hagrees
    · unfold repair
      rw [hevict]
      simp [Except.isOk, Except.toBool]

/-! ## One request -/

/-- The verbs and refusals a duplicate add is recognised by. -/
def duplicates (t : RequestType) (e : StateError) : Bool :=
  match t with
  | .addUdpFrontend _ => true
  | .addFrontend _ _ | .addTcpFrontend _ | .addTcpListener _ | .addUdpListener _ =>
      (e = .alreadyExists : Bool)
  | _ => false

/-- What the replay makes of a refusal, by the agent's cases. -/
theorem settle_refused {t : RequestType} {e : StateError}
    (h : lib.dispatch s t.into = .error e) :
    settle lib s t.into = some
      (if t.isTeardown && (e = .notFound || e = .noChange : Bool) then ((evict lib s t).1, true)
      else if duplicates t e then
        match removalFor t with
        | none => (s, true)
        | some _ => repair lib s t
      else (s, false)) := by
  unfold settle
  simp only [RequestType.into, Option.map_some, Option.some.injEq]
  rw [show (⟨some t⟩ : Request) = t.into from rfl, h]
  cases e <;> cases t <;> rfl

theorem settle_accepted {t : RequestType} {s' : ConfigState}
    (h : lib.dispatch s t.into = .ok s') : settle lib s t.into = some (s', true) := by
  unfold settle
  simp only [RequestType.into, Option.map_some, Option.some.injEq]
  rw [show (⟨some t⟩ : Request) = t.into from rfl, h]

/-- **The agent settles a request as the replay does**: the state is left alike, and the
request is acknowledged when the replay explains its acknowledgement. -/
theorem applyRequest_settles (hlib : FilesFrontends lib) (hm : m.Documented) (hs : Filed lib s)
    {t : RequestType} (ht : isRouting t = true) (hhost : PlainHost t) (progress : ℕ × ℕ) :
    ∃ s' acknowledged outcome s₁, settle lib s t.into = some (s', acknowledged) ∧
      applyRequest lib (mainProcess lib m) t.into progress s = (outcome, s₁) ∧
      s₁.Agrees s' ∧ (outcome.isOk = true ↔ acknowledged = true) := by
  have hsend : (mainProcess lib m).send t.into s =
      match lib.dispatch s t.into with
      | .ok s' => (.ok ⟨.ok, m.accepted t, none⟩, s')
      | .error e => (.error (.failure (m.refused t e)), s) := send_mainProcess ht
  cases hdispatch : lib.dispatch s t.into with
  | ok s' =>
    rw [hdispatch] at hsend
    refine ⟨s', true, .ok .established, s', settle_accepted hdispatch, ?_, .refl _, by
      simp [Except.isOk, Except.toBool]⟩
    unfold applyRequest
    rw [hsend]
    simp [RequestType.into, settleOk, saysNothingToRemove, hm.accepted]
  | error e =>
    rw [hdispatch] at hsend
    have happly : applyRequest lib (mainProcess lib m) t.into progress s =
        settleFailure lib (mainProcess lib m) t (m.refused t e) progress s := by
      unfold applyRequest
      rw [hsend]
      rfl
    have hrefused : isFrontend t = true → ¬Fits lib s t := by
      intro hfrontend hfits
      obtain ⟨s', hok, -⟩ := hlib.fits s t hs hfrontend hfits
      rw [hok] at hdispatch
      cases hdispatch
    have hdup : isDuplicateAdd t (m.refused t e) = duplicates t e := isDuplicateAdd_refused hm t e
    rw [happly, settle_refused hdispatch]
    unfold settleFailure
    rw [isAlreadyGone_refused hm, hdup]
    by_cases hgone : (t.isTeardown && (e = .notFound || e = .noChange : Bool)) = true
    · -- a teardown of what is not held
      rw [if_pos hgone, if_pos hgone]
      unfold settleGone
      by_cases hfrontend : isFrontendTeardown t = true
      · obtain ⟨eviction, s₁, hevict, hagrees⟩ := evictStaleHolder_settles hlib hm hs hfrontend
          hhost (hrefused (isFrontend_of_teardown hfrontend)) (m.refused t e) progress
        rw [if_pos hfrontend, hevict]
        exact ⟨_, _, _, _, rfl, rfl, hagrees, by simp [Except.isOk, Except.toBool]⟩
      · have hevict : (evict lib s t).1 = s := by
          cases t <;> first | rfl | cases hgone | exact absurd rfl hfrontend
        rw [if_neg hfrontend, hevict]
        exact ⟨_, _, _, _, rfl, rfl, .refl _, by simp [Except.isOk, Except.toBool]⟩
    · rw [if_neg hgone, if_neg hgone]
      by_cases hduplicate : duplicates t e = true
      · -- an add of what is held
        rw [if_pos hduplicate, if_pos hduplicate]
        unfold settleDuplicate
        cases hown : removalFor t with
        | none => exact ⟨_, _, _, _, rfl, rfl, .refl _, by simp [Except.isOk, Except.toBool]⟩
        | some own =>
          have hadds : isFrontend t = true ∧ isFrontendTeardown t = false := by
            cases t <;> first | exact ⟨rfl, rfl⟩ | cases hown
          obtain ⟨outcome, s₁, hrepair, hagrees, hok⟩ := repairDuplicate_settles hlib hm hs hadds.1
            hadds.2 hown hhost hdispatch progress
          simp only [hrepair]
          refine ⟨_, _, _, _, rfl, rfl, ?_, Iff.trans ?_ hok⟩
          · cases outcome <;> exact hagrees
          · cases outcome <;> rfl
      · rw [if_neg hduplicate, if_neg hduplicate]
        have hreplace : isReplaceIntoEmptyListener t (m.refused t e) = false := by
          cases t <;> first | rfl | cases ht
        rw [hreplace]
        exact ⟨_, _, _, _, rfl, rfl, .refl _, by simp [Except.isOk, Except.toBool]⟩

/-- **The replay simulates what the agent does.** For every state with at most one frontend
on each layer-4 address and every request of a routing batch whose hostname, where it has
one, holds no `;`: the agent's settlement of that request ends in a state that routes as
the replay's, and acknowledges the request exactly when the replay explains it. -/
theorem applyTracked_settles {lib : Library} {m : MainProcess} {s : ConfigState}
    (hlib : FilesFrontends lib) (hm : m.Documented) (hs : Filed lib s) {t : RequestType}
    (ht : isRouting t = true) (hhost : PlainHost t) :
    ∃ s' acknowledged, settle lib s t.into = some (s', acknowledged) ∧
      (applyTracked lib (mainProcess lib m) 1 0 [t.into] {} s).2.2.Agrees s' ∧
      ((applyTracked lib (mainProcess lib m) 1 0 [t.into] {} s).2.1.acknowledged = 1 ↔
        acknowledged = true) := by
  obtain ⟨s', acknowledged, outcome, s₁, hsettle, happly, hagrees, hok⟩ :=
    applyRequest_settles hlib hm hs ht hhost (0, 1)
  refine ⟨s', acknowledged, hsettle, ?_⟩
  simp only [applyTracked, abandoned_mainProcess, happly]
  cases outcome with
  | ok effect =>
    refine ⟨hagrees, iff_of_true ?_ (hok.1 rfl)⟩
    cases effect <;> rfl
  | error cause => exact ⟨hagrees, iff_of_false (by simp) fun h => nomatch hok.2 h⟩

attribute [local instance] asciiTable

/-- A frontend of the reference listener. -/
def routeOn (hostname : String) (path : PathMatch) (cluster : String) : Frontend :=
  ⟨hostname, path, none, some cluster, false, .v4 ⟨0, 0, 0, 0⟩ 80, {}, []⟩

/-- A main process that routes one frontend. -/
def holding (f : Frontend) : ConfigState :=
  { httpFronts := (∅ : BTreeMap String RequestHttpFrontend).insert
      (reference.display (frontendPayload f)) (frontendPayload f) }

theorem holding_filed (f : Frontend) : Filed reference (holding f) where
  front_keyed https key g hg := by
    cases https with
    | false =>
      have hat : ((∅ : BTreeMap String RequestHttpFrontend).insert
        (reference.display (frontendPayload f)) (frontendPayload f))[key]? = some g := hg
      rw [BTreeMap.getElem?_insert] at hat
      split at hat
      · rename_i hkey
        exact Option.some.inj hat ▸ hkey
      · simp at hat
    | true => simp [holding, ConfigState.fronts] at hg
  tcp_filed id f hf := by simp [holding, ConfigState.tcpOf] at hf
  udp_keyed id f hf := by simp [holding, ConfigState.udpOf] at hf
  tcp_one id id' f hf := by simp [holding, ConfigState.tcpOf] at hf
  udp_one id id' f hf := by simp [holding, ConfigState.udpOf] at hf

/-- The removal of a route of the cluster `new`. -/
def removalOf (hostname : String) (path : PathMatch) : RequestType :=
  .removeHttpFrontend false (frontendPayload (routeOn hostname path "new"))

/-- The removal of a route another cluster holds: the holder is evicted on both sides. -/
theorem applyTracked_settles_staleHolder :
    ∃ s' acknowledged, settle reference (holding (routeOn "a" (.pathPrefix "/") "old"))
        (removalOf "a" (.pathPrefix "/")).into = some (s', acknowledged) ∧
      (applyTracked reference (mainProcess reference plainProcess) 1 0
        [(removalOf "a" (.pathPrefix "/")).into] {}
        (holding (routeOn "a" (.pathPrefix "/") "old"))).2.2.Agrees s' ∧
      ((applyTracked reference (mainProcess reference plainProcess) 1 0
        [(removalOf "a" (.pathPrefix "/")).into] {}
        (holding (routeOn "a" (.pathPrefix "/") "old"))).2.1.acknowledged = 1 ↔
          acknowledged = true) :=
  applyTracked_settles reference_filesFrontends plainProcess_documented (holding_filed _) rfl
    (show ';' ∉ "a".toList by decide)

/-- The cluster `new`, and a route to it or none. -/
def withRoutes (frontends : List Frontend) : Ir where
  clusters := [⟨"new", .roundRobin, false, false, none, none, false, none⟩]
  frontends := frontends
  backends := [⟨"new", "b", .v4 ⟨10, 0, 0, 1⟩ 8080, none, none⟩]

/-- Where the hostname holds a `;`, the listing for it misses the frontend of another
hostname under the same route key, which the replay evicts. -/
theorem settle_ne_applyTracked_semicolon :
    (∃ batch, reconcile reference (withRoutes [routeOn "a;Rx" (.pathPrefix "/") "new"])
        (withRoutes []) = .ok batch ∧ (removalOf "a;Rx" (.pathPrefix "/")).into ∈ batch) ∧
      Filed reference (holding (routeOn "a" (.regex "x;P/") "old")) ∧
      ∃ s', settle reference (holding (routeOn "a" (.regex "x;P/") "old"))
          (removalOf "a;Rx" (.pathPrefix "/")).into = some (s', true) ∧
        ¬(applyTracked reference (mainProcess reference plainProcess) 1 0
          [(removalOf "a;Rx" (.pathPrefix "/")).into] {}
          (holding (routeOn "a" (.regex "x;P/") "old"))).2.2.Agrees s' := by
  have hbatch : (match reconcile reference (withRoutes [routeOn "a;Rx" (.pathPrefix "/") "new"])
      (withRoutes []) with
    | .ok batch => decide ((removalOf "a;Rx" (.pathPrefix "/")).into ∈ batch)
    | .error _ => false) = true := by decide +kernel
  have hsettle : (settle reference (holding (routeOn "a" (.regex "x;P/") "old"))
      (removalOf "a;Rx" (.pathPrefix "/")).into).map (fun r => (r.1.httpFronts, r.2)) =
        some (∅, true) := by decide +kernel
  have happly : (applyTracked reference (mainProcess reference plainProcess) 1 0
      [(removalOf "a;Rx" (.pathPrefix "/")).into] {}
      (holding (routeOn "a" (.regex "x;P/") "old"))).2.2.httpFronts ≠ ∅ := by decide +kernel
  refine ⟨?_, holding_filed _, ?_⟩
  · cases hreconcile : reconcile reference (withRoutes [routeOn "a;Rx" (.pathPrefix "/") "new"])
      (withRoutes []) with
    | error e => simp [hreconcile] at hbatch
    | ok batch =>
      rw [hreconcile] at hbatch
      exact ⟨batch, rfl, of_decide_eq_true hbatch⟩
  · obtain ⟨⟨s', acknowledged⟩, hs', hfronts⟩ := Option.map_eq_some_iff.1 hsettle
    obtain ⟨hempty, rfl⟩ := Prod.mk.inj hfronts
    exact ⟨s', hs', fun h => happly (h.httpFronts.trans hempty)⟩

end Agent

end SozuGateway
