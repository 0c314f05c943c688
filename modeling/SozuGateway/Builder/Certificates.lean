import SozuGateway.Builder.Claims
import SozuGateway.Lib.Least
import SozuGateway.Lib.BTreeSet

/-!
# One claimant per SNI name

`arbitrate_certificate_names` and `merge_certificates` of `crates/builder/src/lib.rs`:
the oldest claimant of an SNI name keeps it, and the copies of one leaf are served as
one certificate.

* `arbitrateCertificateNames` — drops from every certificate the names another object
  owns.
* `mergeCertificates` — one certificate for each leaf of a listener, with the names of
  all its copies and the fullest material among them.
* `IsOwner`, `loadedBy`, `servedBy` — who owns a name, the leaves it loaded for the name,
  and the leaves the name is served with; `merge_arbitrate_owned` — the two sets are the
  same, and newer claimants change neither.
-/

set_option autoImplicit false

namespace SozuGateway

namespace Builder

open Lib

/-! ## Arbitration -/

/-- The digest of a leaf. -/
abbrev Fingerprint := List (Fin 256)

/-- A certificate with the digest of its leaf. -/
structure FingerprintedCert where
  fingerprint : Fingerprint
  cert : Certificate
  deriving DecidableEq, Repr

/-- A loaded certificate, and who asked for it. -/
structure ClaimedCert where
  cert : FingerprintedCert
  /-- The Secret it was read from. -/
  secret : String
  source : CertificateSource
  deriving DecidableEq, Repr

/-- A name at a listener, as Sōzu stores it. -/
abbrev NameKey := SocketAddr ×ₗ String

/-- Claim first, then the identity. -/
abbrev OwnerRank := OwnerClaim ×ₗ OwnerIdent

/-- A leaf at a listener. -/
abbrev LeafKey := SocketAddr ×ₗ Fingerprint

namespace ClaimedCert

def names (c : ClaimedCert) : List String := c.cert.cert.names

def nameKey (c : ClaimedCert) (name : String) : NameKey :=
  toLex (c.cert.cert.listener, toAsciiLowercase name)

def owner (c : ClaimedCert) : OwnerIdent := c.source.ownerIdent

def claim (claims : BTreeMap OwnerIdent OwnerClaim) (c : ClaimedCert) : OwnerClaim :=
  claimFor c.owner claims

def rank (claims : BTreeMap OwnerIdent OwnerClaim) (c : ClaimedCert) : OwnerRank :=
  toLex (c.claim claims, c.owner)

/-- The names a certificate carries. -/
def keys (c : ClaimedCert) : List NameKey := c.names.map c.nameKey

end ClaimedCert

/-- The names the certificates carry, each with its certificate. -/
def offers (certs : List ClaimedCert) : List (NameKey × ClaimedCert) :=
  certs.flatMap fun c => c.keys.map fun key => (key, c)

/-- The oldest claimant of every name, as one of its certificates. -/
def nameWinners (claims : BTreeMap OwnerIdent OwnerClaim) (certs : List ClaimedCert) :
    BTreeMap NameKey ClaimedCert := leastByKey (ClaimedCert.rank claims) (offers certs)

/-- Every certificate the winner loaded for each of its names. -/
def winningLeaves (claims : BTreeMap OwnerIdent OwnerClaim) (certs : List ClaimedCert) :
    BTreeSet (NameKey ×ₗ Fingerprint) :=
  BTreeSet.ofList (((offers certs).filter fun offer =>
    ((nameWinners claims certs)[offer.1]?.any fun winner => winner.owner = offer.2.owner)).map
      fun offer => toLex (offer.1, offer.2.cert.fingerprint))

/-- A name stays with a certificate of its winner. -/
def keepsName (claims : BTreeMap OwnerIdent OwnerClaim) (certs : List ClaimedCert)
    (c : ClaimedCert) (name : String) : Bool :=
  match (nameWinners claims certs)[c.nameKey name]? with
  | none => true
  | some _ => toLex (c.nameKey name, c.cert.fingerprint) ∈ winningLeaves claims certs

/-- A name a certificate lost, and who keeps it. -/
def lostName (claims : BTreeMap OwnerIdent OwnerClaim) (certs : List ClaimedCert)
    (c : ClaimedCert) (name : String) : Option ClaimedName :=
  if keepsName claims certs c name then none
  else (nameWinners claims certs)[c.nameKey name]?.map fun winner =>
    ⟨name, ownerKind winner.owner, (ofLex (ofLex (winner.claim claims)).2).2⟩

/-- What each object lost, grouped by the Secret it asked for. -/
def lostNames (claims : BTreeMap OwnerIdent OwnerClaim) (certs : List ClaimedCert) :
    BTreeMap (CertificateSource ×ₗ String) (BTreeSet ClaimedName) :=
  certs.foldl (fun lost c =>
    match c.names.filterMap (lostName claims certs c) with
    | [] => lost
    | lostHere =>
        lost.alter (toLex (c.source, c.secret)) fun names =>
          some ((names.getD ∅).union (BTreeSet.ofList lostHere))) ∅

/-- The certificate with the names its object keeps. -/
def ClaimedCert.arbitrated (claims : BTreeMap OwnerIdent OwnerClaim) (certs : List ClaimedCert)
    (c : ClaimedCert) : FingerprintedCert where
  fingerprint := c.cert.fingerprint
  cert := { c.cert.cert with names := c.names.filter (keepsName claims certs c) }

/-- Give every SNI name at a listener to one claimant. -/
def arbitrateCertificateNames (certs : List ClaimedCert)
    (claims : BTreeMap OwnerIdent OwnerClaim) :
    List FingerprintedCert × List (CertificateSource × Problem) :=
  (certs.map (ClaimedCert.arbitrated claims certs),
    (lostNames claims certs).toList.map fun entry =>
      ((ofLex entry.1).1, .certificateNameClaimed (ofLex entry.1).2 (ofLex entry.1).1.listener
        entry.2.toList))

/-! ## Merge -/

/-- More chain links first, then the smallest chain, key and leaf. -/
def servedRank (c : Certificate) : ℕᵒᵈ ×ₗ (List String ×ₗ (String ×ₗ String)) :=
  toLex (.toDual c.chain.length, toLex (c.chain, toLex (c.key, c.certificate)))

/-- The candidate's material is served rather than the current one. -/
def servedFirst (candidate current : Certificate) : Bool :=
  servedRank candidate < servedRank current

def FingerprintedCert.leafKey (fc : FingerprintedCert) : LeafKey :=
  toLex (fc.cert.listener, fc.fingerprint)

/-- Merge one certificate with the copies of its leaf before it. -/
def mergeOne (merged : BTreeMap LeafKey (Certificate × BTreeSet String))
    (fc : FingerprintedCert) : BTreeMap LeafKey (Certificate × BTreeSet String) :=
  match merged[fc.leafKey]? with
  | some (served, names) =>
      merged.insert fc.leafKey
        (if servedFirst fc.cert served then fc.cert else served,
          names.union (BTreeSet.ofList fc.cert.names))
  | none => merged.insert fc.leafKey (fc.cert, BTreeSet.ofList fc.cert.names)

/-- The leaves that keep a name, each with its certificate. -/
def mergedLeaves (certs : List FingerprintedCert) : List (LeafKey × Certificate) :=
  ((certs.foldl mergeOne ∅).toList.filter fun entry => !entry.2.2.isEmpty).map fun entry =>
    (entry.1, { entry.2.1 with names := entry.2.2.toList })

/-- One certificate for each leaf of a listener. -/
def mergeCertificates (certs : List FingerprintedCert) : List Certificate :=
  (mergedLeaves certs).map Prod.snd

/-! ## Who owns a name -/

theorem mem_offers {certs : List ClaimedCert} {key : NameKey} {c : ClaimedCert} :
    (key, c) ∈ offers certs ↔ c ∈ certs ∧ key ∈ c.keys := by
  simp only [offers, List.mem_flatMap, List.mem_map, Prod.mk.injEq]
  constructor
  · rintro ⟨d, hd, k, hk, rfl, rfl⟩
    exact ⟨hd, hk⟩
  · rintro ⟨hc, hkey⟩
    exact ⟨c, hc, key, hkey, rfl, rfl⟩

/-- The certificate is one of the least claimant's for the name. -/
def IsOwner (claims : BTreeMap OwnerIdent OwnerClaim) (certs : List ClaimedCert) (key : NameKey)
    (c : ClaimedCert) : Prop :=
  (c ∈ certs ∧ key ∈ c.keys) ∧ ∀ d ∈ certs, key ∈ d.keys → c.rank claims ≤ d.rank claims

/-- The leaves an object loaded for a name. -/
def loadedBy (certs : List ClaimedCert) (owner : OwnerIdent) (key : NameKey) : Set Fingerprint :=
  {fp | ∃ c ∈ certs, key ∈ c.keys ∧ c.owner = owner ∧ c.cert.fingerprint = fp}

/-- The leaves a name is served with. -/
def servedBy (leaves : List (LeafKey × Certificate)) (key : NameKey) : Set Fingerprint :=
  {fp | ∃ cert, (toLex ((ofLex key).1, fp), cert) ∈ leaves ∧
    ∃ name ∈ cert.names, toAsciiLowercase name = (ofLex key).2}

section Owner

variable {claims : BTreeMap OwnerIdent OwnerClaim} {certs : List ClaimedCert} {key : NameKey}

/-- The owners of a name are one object. -/
theorem IsOwner.owner_eq {c d : ClaimedCert} (hc : IsOwner claims certs key c)
    (hd : IsOwner claims certs key d) : c.owner = d.owner := by
  have hrank := le_antisymm (hc.2 d hd.1.1 hd.1.2) (hd.2 c hc.1.1 hc.1.2)
  exact congrArg (fun r => (ofLex r).2) hrank

theorem isOwner_of_nameWinners {w : ClaimedCert} (h : (nameWinners claims certs)[key]? = some w) :
    IsOwner claims certs key w := by
  refine ⟨mem_offers.1 (mem_of_leastByKey h), fun d hd hkey => ?_⟩
  exact leastByKey_le h (mem_offers.2 ⟨hd, hkey⟩)

/-- **A name some certificate carries has an owner.** -/
theorem exists_owner {c : ClaimedCert} (hc : c ∈ certs) (hkey : key ∈ c.keys) :
    ∃ w, (nameWinners claims certs)[key]? = some w ∧ IsOwner claims certs key w := by
  cases h : (nameWinners claims certs)[key]? with
  | none => exact absurd (mem_offers.2 ⟨hc, hkey⟩) (leastByKey_eq_none_iff.1 h c)
  | some w => exact ⟨w, rfl, isOwner_of_nameWinners h⟩

theorem mem_winningLeaves {fp : Fingerprint} {w : ClaimedCert}
    (h : (nameWinners claims certs)[key]? = some w) :
    toLex (key, fp) ∈ winningLeaves claims certs ↔ fp ∈ loadedBy certs w.owner key := by
  simp only [winningLeaves, BTreeSet.mem_ofList, List.mem_map, List.mem_filter, loadedBy,
    Set.mem_ofPred_eq]
  constructor
  · rintro ⟨⟨k, c⟩, ⟨hmem, hwin⟩, heq⟩
    obtain ⟨rfl, rfl⟩ := Prod.mk.inj heq
    rw [h] at hwin
    obtain ⟨hc, hkey⟩ := mem_offers.1 hmem
    exact ⟨c, hc, hkey, (of_decide_eq_true hwin).symm, rfl⟩
  · rintro ⟨c, hc, hkey, howner, rfl⟩
    refine ⟨(key, c), ⟨mem_offers.2 ⟨hc, hkey⟩, ?_⟩, rfl⟩
    simp [h, howner]

/-- **A certificate keeps a name exactly when the name's owner loaded its leaf for it.** -/
theorem keepsName_iff {c w : ClaimedCert} {name : String} (hc : c ∈ certs) (hname : name ∈ c.names)
    (hw : IsOwner claims certs (c.nameKey name) w) :
    keepsName claims certs c name = true ↔
      c.cert.fingerprint ∈ loadedBy certs w.owner (c.nameKey name) := by
  obtain ⟨w', hwinner, hw'⟩ :=
    exists_owner hc (List.mem_map_of_mem hname)
  unfold keepsName
  rw [hwinner, hw.owner_eq hw']
  exact (decide_eq_true_iff).trans (mem_winningLeaves hwinner)

end Owner

/-! ## What the merge serves -/

/-- What the merged map holds for a leaf. -/
def Merged (certs : List FingerprintedCert)
    (merged : BTreeMap LeafKey (Certificate × BTreeSet String))
    (key : LeafKey) : Prop :=
  match merged[key]? with
  | none => ∀ fc ∈ certs, fc.leafKey ≠ key
  | some (served, names) =>
      (∃ fc ∈ certs, fc.leafKey = key ∧ fc.cert = served) ∧
        ∀ name, name ∈ names ↔ ∃ fc ∈ certs, fc.leafKey = key ∧ name ∈ fc.cert.names

theorem Merged.mergeOne {certs : List FingerprintedCert}
    {merged : BTreeMap LeafKey (Certificate × BTreeSet String)} {key : LeafKey}
    (h : Merged certs merged key) (fc : FingerprintedCert) :
    Merged (certs ++ [fc]) (mergeOne merged fc) key := by
  by_cases hkey : fc.leafKey = key
  · subst hkey
    unfold Merged at h ⊢
    unfold Builder.mergeOne
    cases hm : merged[fc.leafKey]? with
    | none =>
      rw [hm] at h
      rw [BTreeMap.getElem?_insert, if_pos rfl]
      refine ⟨⟨fc, by simp, rfl, rfl⟩, fun name => ?_⟩
      rw [BTreeSet.mem_ofList]
      constructor
      · exact fun hname => ⟨fc, by simp, rfl, hname⟩
      · rintro ⟨fc', hmem, hkey', hname⟩
        rcases List.mem_append.1 hmem with hold | hnew
        · exact absurd hkey' (h fc' hold)
        · rwa [List.mem_singleton.1 hnew] at hname
    | some entry =>
      obtain ⟨served, names⟩ := entry
      rw [hm] at h
      obtain ⟨⟨fc', hmem, hkey', hserved⟩, hnames⟩ := h
      rw [BTreeMap.getElem?_insert, if_pos rfl]
      refine ⟨?_, fun name => ?_⟩
      · by_cases hfirst : servedFirst fc.cert served = true
        · exact ⟨fc, by simp, rfl, (if_pos hfirst).symm⟩
        · exact ⟨fc', by simp [hmem], hkey', hserved.trans (if_neg hfirst).symm⟩
      · rw [BTreeSet.mem_union, BTreeSet.mem_ofList, hnames]
        constructor
        · rintro (⟨fc₁, hmem₁, hkey₁, hname⟩ | hname)
          · exact ⟨fc₁, by simp [hmem₁], hkey₁, hname⟩
          · exact ⟨fc, by simp, rfl, hname⟩
        · rintro ⟨fc₁, hmem₁, hkey₁, hname⟩
          rcases List.mem_append.1 hmem₁ with hold | hnew
          · exact .inl ⟨fc₁, hold, hkey₁, hname⟩
          · rw [List.mem_singleton.1 hnew] at hname
            exact .inr hname
  · have hsame : (Builder.mergeOne merged fc)[key]? = merged[key]? := by
      unfold Builder.mergeOne
      split <;> exact (BTreeMap.getElem?_insert _ _ _ _).trans (if_neg hkey)
    unfold Merged at h ⊢
    rw [hsame]
    cases hm : merged[key]? with
    | none =>
      rw [hm] at h
      intro fc' hmem
      rcases List.mem_append.1 hmem with hold | hnew
      · exact h fc' hold
      · rwa [List.mem_singleton.1 hnew]
    | some entry =>
      obtain ⟨served, names⟩ := entry
      rw [hm] at h
      obtain ⟨⟨fc', hmem, hkey', hserved⟩, hnames⟩ := h
      refine ⟨⟨fc', by simp [hmem], hkey', hserved⟩, fun name => (hnames name).trans ?_⟩
      constructor
      · rintro ⟨fc₁, hmem₁, hrest⟩
        exact ⟨fc₁, by simp [hmem₁], hrest⟩
      · rintro ⟨fc₁, hmem₁, hkey₁, hname⟩
        rcases List.mem_append.1 hmem₁ with hold | hnew
        · exact ⟨fc₁, hold, hkey₁, hname⟩
        · exact absurd (List.mem_singleton.1 hnew ▸ hkey₁) hkey

theorem merged_foldl {certs : List FingerprintedCert}
    {merged : BTreeMap LeafKey (Certificate × BTreeSet String)} {key : LeafKey}
    (h : Merged certs merged key) (more : List FingerprintedCert) :
    Merged (certs ++ more) (more.foldl mergeOne merged) key := by
  induction more generalizing certs merged with
  | nil => rwa [List.append_nil]
  | cons fc more ih =>
    have hstep := ih (h.mergeOne fc)
    rwa [List.append_assoc] at hstep

theorem merged (certs : List FingerprintedCert) (key : LeafKey) :
    Merged certs (certs.foldl mergeOne ∅) key := by
  have hempty : Merged [] ∅ key := by simp [Merged]
  exact merged_foldl hempty certs

/-- A merged certificate has the material of one copy of its leaf, and the names of
all of them. -/
theorem mem_mergedLeaves {certs : List FingerprintedCert} {key : LeafKey} {cert : Certificate}
    (h : (key, cert) ∈ mergedLeaves certs) :
    (∃ fc ∈ certs, fc.leafKey = key ∧ { fc.cert with names := cert.names } = cert) ∧
      ∀ name, name ∈ cert.names ↔ ∃ fc ∈ certs, fc.leafKey = key ∧ name ∈ fc.cert.names := by
  obtain ⟨⟨k, served, names⟩, hmem, heq⟩ := List.mem_map.1 h
  obtain ⟨rfl, rfl⟩ := Prod.mk.inj heq
  have hat : (certs.foldl mergeOne ∅)[k]? = some (served, names) :=
    Std.ExtTreeMap.mem_toList_iff_getElem?_eq_some.1 (List.mem_of_mem_filter hmem)
  have hmerged := merged certs k
  rw [Merged, hat] at hmerged
  obtain ⟨⟨fc, hfc, hkey, rfl⟩, hnames⟩ := hmerged
  exact ⟨⟨fc, hfc, hkey, rfl⟩, hnames⟩

/-- A leaf some copy of which carries a name is merged. -/
theorem exists_mergedLeaf {certs : List FingerprintedCert} {fc : FingerprintedCert} {name : String}
    (hfc : fc ∈ certs) (hname : name ∈ fc.cert.names) :
    ∃ cert, (fc.leafKey, cert) ∈ mergedLeaves certs := by
  have hmerged := merged certs fc.leafKey
  rw [Merged] at hmerged
  cases hat : (certs.foldl mergeOne ∅)[fc.leafKey]? with
  | none =>
    rw [hat] at hmerged
    exact absurd rfl (hmerged fc hfc)
  | some entry =>
    obtain ⟨served, names⟩ := entry
    rw [hat] at hmerged
    refine ⟨_, List.mem_map.2 ⟨(fc.leafKey, served, names), List.mem_filter.2 ⟨?_, ?_⟩, rfl⟩⟩
    · exact Std.ExtTreeMap.mem_toList_iff_getElem?_eq_some.2 hat
    · have hheld := (hmerged.2 name).2 ⟨fc, hfc, rfl, hname⟩
      have hnonempty := BTreeSet.isEmpty_eq_false_iff.2 ⟨name, hheld⟩
      simp [hnonempty]

/-! ## Every name is served by its owner -/

section Served

variable {claims : BTreeMap OwnerIdent OwnerClaim} {certs : List ClaimedCert} {key : NameKey}

/-- **A name is served with the leaves its owner loaded for it.** -/
theorem servedBy_eq_loadedBy {w : ClaimedCert} (hw : IsOwner claims certs key w) :
    servedBy (mergedLeaves (arbitrateCertificateNames certs claims).1) key =
      loadedBy certs w.owner key := by
  have hkeeps : ∀ c ∈ certs, ∀ name ∈ c.names, c.nameKey name = key →
      (keepsName claims certs c name = true ↔
        c.cert.fingerprint ∈ loadedBy certs w.owner key) := by
    rintro c hc name hname rfl
    exact keepsName_iff hc hname hw
  ext fp
  constructor
  · rintro ⟨cert, hmem, name, hname, hlower⟩
    obtain ⟨fc, hfc, hleaf, hcarries⟩ := ((mem_mergedLeaves hmem).2 name).1 hname
    obtain ⟨c, hc, rfl⟩ := List.mem_map.1 hfc
    obtain ⟨hnames, hkept⟩ := List.mem_filter.1 hcarries
    have hlistener : c.cert.cert.listener = (ofLex key).1 := congrArg (fun k => (ofLex k).1) hleaf
    have hfp : c.cert.fingerprint = fp := congrArg (fun k => (ofLex k).2) hleaf
    have hkey : c.nameKey name = key := by rw [ClaimedCert.nameKey, hlistener, hlower]; rfl
    exact hfp ▸ (hkeeps c hc name hnames hkey).1 hkept
  · intro hfp
    obtain ⟨c, hc, hkey, howner, rfl⟩ := hfp
    obtain ⟨name, hname, rfl⟩ := List.mem_map.1 hkey
    have hkept := (hkeeps c hc name hname rfl).2 ⟨c, hc, hkey, howner, rfl⟩
    have hmem : c.arbitrated claims certs ∈ certs.map (ClaimedCert.arbitrated claims certs) :=
      List.mem_map_of_mem hc
    have hcarries : name ∈ (c.arbitrated claims certs).cert.names :=
      List.mem_filter.2 ⟨hname, hkept⟩
    obtain ⟨cert, hcert⟩ := exists_mergedLeaf hmem hcarries
    exact ⟨cert, hcert, name, ((mem_mergedLeaves hcert).2 name).2 ⟨_, hmem, rfl, hcarries⟩, rfl⟩

/-- The owner loaded a leaf for the name. -/
theorem IsOwner.loadedBy_nonempty {w : ClaimedCert} (hw : IsOwner claims certs key w) :
    (loadedBy certs w.owner key).Nonempty := ⟨w.cert.fingerprint, w, hw.1.1, hw.1.2, rfl, rfl⟩

/-- A name served at a listener is one some certificate brought there, with that leaf. -/
theorem exists_claimed_of_mem {leaf : LeafKey} {cert : Certificate} {name : String}
    (hmem : (leaf, cert) ∈ mergedLeaves (arbitrateCertificateNames certs claims).1)
    (hname : name ∈ cert.names) :
    cert.listener = (ofLex leaf).1 ∧ ∃ c ∈ certs, c.cert.leafKey = leaf ∧ name ∈ c.names := by
  obtain ⟨⟨fc, hfc, hleaf, hserved⟩, hnames⟩ := mem_mergedLeaves hmem
  refine ⟨?_, ?_⟩
  · rw [← hserved, ← hleaf]
    rfl
  · obtain ⟨fc', hfc', hleaf', hcarries⟩ := (hnames name).1 hname
    obtain ⟨c, hc, rfl⟩ := List.mem_map.1 hfc'
    exact ⟨c, hc, hleaf', (List.mem_filter.1 hcarries).1⟩

variable {claims' : BTreeMap OwnerIdent OwnerClaim} {newer : List ClaimedCert}

/-- The owner of a name stays its owner when newer claimants come. -/
theorem IsOwner.append {w : ClaimedCert} (hw : IsOwner claims certs key w)
    (hclaims : ∀ c ∈ certs, c.claim claims' = c.claim claims)
    (hnewer : ∀ c ∈ certs, ∀ new ∈ newer, c.rank claims' < new.rank claims') :
    IsOwner claims' (certs ++ newer) key w := by
  have hrank : ∀ c ∈ certs, c.rank claims' = c.rank claims := by
    intro c hc
    rw [ClaimedCert.rank, hclaims c hc]
    rfl
  refine ⟨⟨List.mem_append_left _ hw.1.1, hw.1.2⟩, fun d hd hkey => ?_⟩
  rcases List.mem_append.1 hd with hold | hnew
  · rw [hrank w hw.1.1, hrank d hold]
    exact hw.2 d hold hkey
  · exact (hnewer w hw.1.1 d hnew).le

/-- Newer claimants load nothing for an older object. -/
theorem loadedBy_append {w : ClaimedCert} (hw : w ∈ certs)
    (hnewer : ∀ c ∈ certs, ∀ new ∈ newer, c.rank claims' < new.rank claims') :
    loadedBy (certs ++ newer) w.owner key = loadedBy certs w.owner key := by
  ext fp
  constructor
  · rintro ⟨c, hc, hkey, howner, rfl⟩
    rcases List.mem_append.1 hc with hold | hnew
    · exact ⟨c, hold, hkey, howner, rfl⟩
    · have hlt := hnewer w hw c hnew
      rw [ClaimedCert.rank, ClaimedCert.rank, ClaimedCert.claim, ClaimedCert.claim, howner] at hlt
      exact absurd hlt (lt_irrefl _)
  · rintro ⟨c, hc, hrest⟩
    exact ⟨c, List.mem_append_left _ hc, hrest⟩

end Served

/-- **SNI names are owned by the oldest claimant.** Every name some certificate carries
has an owner, the least by claim and identity, and is served with the leaves the owner
loaded for it; no other name is served; and certificates of newer claimants change the
leaves of no name claimed before. -/
theorem merge_arbitrate_owned (certs : List ClaimedCert) (claims : BTreeMap OwnerIdent OwnerClaim) :
    mergeCertificates (arbitrateCertificateNames certs claims).1 =
        (mergedLeaves (arbitrateCertificateNames certs claims).1).map Prod.snd ∧
      (∀ c ∈ certs, ∀ key ∈ c.keys, ∃ owner, IsOwner claims certs key owner ∧
        servedBy (mergedLeaves (arbitrateCertificateNames certs claims).1) key =
          loadedBy certs owner.owner key ∧
        (loadedBy certs owner.owner key).Nonempty) ∧
      (∀ entry ∈ mergedLeaves (arbitrateCertificateNames certs claims).1,
        ∀ name ∈ entry.2.names, entry.2.listener = (ofLex entry.1).1 ∧
          ∃ c ∈ certs, c.cert.leafKey = entry.1 ∧ name ∈ c.names) ∧
      ∀ (newer : List ClaimedCert) (claims' : BTreeMap OwnerIdent OwnerClaim),
        (∀ c ∈ certs, c.claim claims' = c.claim claims) →
        (∀ c ∈ certs, ∀ new ∈ newer, c.rank claims' < new.rank claims') →
        ∀ c ∈ certs, ∀ key ∈ c.keys,
          servedBy (mergedLeaves (arbitrateCertificateNames (certs ++ newer) claims').1) key =
            servedBy (mergedLeaves (arbitrateCertificateNames certs claims).1) key := by
  refine ⟨rfl, fun c hc key hkey => ?_, fun entry hentry name hname => ?_,
    fun newer claims' hclaims hnewer c hc key hkey => ?_⟩
  · obtain ⟨w, -, hw⟩ := @exists_owner claims certs key c hc hkey
    exact ⟨w, hw, servedBy_eq_loadedBy hw, hw.loadedBy_nonempty⟩
  · exact exists_claimed_of_mem hentry hname
  · obtain ⟨w, -, hw⟩ := @exists_owner claims certs key c hc hkey
    rw [servedBy_eq_loadedBy hw, servedBy_eq_loadedBy (hw.append hclaims hnewer),
      loadedBy_append hw.1.1 hnewer]

/-- A certificate an Ingress loads for one host. -/
def ingressCert (name host : String) (fingerprint : Fingerprint) : ClaimedCert where
  cert := ⟨fingerprint, ⟨.v4 ⟨0, 0, 0, 0⟩ 443, "leaf", [], "key", [host]⟩⟩
  secret := name
  source := .ingress "shop" name

/-- A newer Ingress that spells the host otherwise does not take it. -/
theorem merge_arbitrate_newerIngress :
    servedBy (mergedLeaves (arbitrateCertificateNames ([ingressCert "a" "app.example.com" [1]] ++
        [ingressCert "b" "APP.example.com" [2]]) ∅).1)
          (toLex (.v4 ⟨0, 0, 0, 0⟩ 443, "app.example.com")) =
      servedBy
        (mergedLeaves (arbitrateCertificateNames [ingressCert "a" "app.example.com" [1]] ∅).1)
        (toLex (.v4 ⟨0, 0, 0, 0⟩ 443, "app.example.com")) :=
  (merge_arbitrate_owned [ingressCert "a" "app.example.com" [1]] ∅).2.2.2
    [ingressCert "b" "APP.example.com" [2]] ∅ (fun _ _ => rfl) (by decide +kernel)
    (ingressCert "a" "app.example.com" [1]) (by decide) _ (by decide +kernel)

end Builder

end SozuGateway
