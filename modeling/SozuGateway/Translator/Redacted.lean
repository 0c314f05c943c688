import SozuGateway.Translator.CertificateConvergence

/-!
# A shadow without its private keys

What `persist` writes is the applied IR with every private key blanked.  Read back, it diffs as
the live one does: the diff reads the identity of a previous certificate, never its material.

* `redactPrivateKeys` — what is written.
* `KeyedCert.bare` — a group without its material: what the diff reads of a previous one.
* `certDiff_bare` — the diff reads no more than that.
* `bare_keyedCerts_redacted` — the groups of the redacted certificates are those of the live
  ones, their material aside.
-/

set_option autoImplicit false

namespace SozuGateway

namespace Translator

open Lib Sozu

/-- A certificate without its private key. -/
def redactCertificate (cert : Certificate) : Certificate := { cert with key := "" }

/-- The IR with every certificate's private key blanked: what `persist` writes. -/
def redactPrivateKeys (shadow : Ir) : Ir :=
  { shadow with certificates := shadow.certificates.map redactCertificate }

/-- The certificate a request carries. -/
def carriedCertificate (r : Request) : Option CertificateAndKey :=
  match r.requestType with
  | some (.addCertificate add) => some add.certificate
  | some (.replaceCertificate replace) => some replace.newCertificate
  | _ => none

/-- A group without its material. -/
def KeyedCert.bare (k : KeyedCert) : KeyedCert :=
  { k with cert := { k.cert with certificate := "", chain := [], key := "" } }

/-! ## What the diff reads -/

section Diff

variable {lib : Library} {prev des : List KeyedCert}

theorem partner_bare (prev : List KeyedCert) (d : KeyedCert) :
    partner (prev.map KeyedCert.bare) d = (partner prev d).map KeyedCert.bare := by
  rw [partner, List.find?_map]
  rfl

theorem updates_bare (prev des : List KeyedCert) :
    updates (prev.map KeyedCert.bare) des =
      (updates prev des).map fun u => (u.1.bare, u.2) := by
  rw [updates, updates, List.map_filterMap]
  refine List.filterMap_congr fun d _ => ?_
  rw [partner_bare]
  cases partner prev d with
  | none => rfl
  | some p =>
    have hchanged : changed p.bare d = changed p d := rfl
    simp only [Option.map_some, Option.bind_some, hchanged]
    cases changed p d <;> rfl

theorem addedCerts_bare (prev des : List KeyedCert) :
    addedCerts (prev.map KeyedCert.bare) des = addedCerts prev des := by
  rw [addedCerts, addedCerts]
  refine List.filter_congr fun d _ => ?_
  rw [partner_bare, Option.isNone_map]

theorem removedCerts_bare (prev des : List KeyedCert) :
    removedCerts (prev.map KeyedCert.bare) des = (removedCerts prev des).map KeyedCert.bare := by
  rw [removedCerts, List.filter_map]
  rfl

theorem pairRotations_bare (added removed : List KeyedCert) :
    pairRotations added (removed.map KeyedCert.bare) =
      ((pairRotations added removed).1.map fun pair => (pair.1, pair.2.map KeyedCert.bare),
        (pairRotations added removed).2.map KeyedCert.bare) := by
  induction added generalizing removed with
  | nil => rfl
  | cons new added ih =>
    have hrotates : rotates new ∘ KeyedCert.bare = rotates new := rfl
    rw [pairRotations, pairRotations, List.find?_map, hrotates]
    cases removed.find? (rotates new) with
    | none =>
      rw [Option.map_none]
      simp only [ih, List.map_cons, Option.map_none]
    | some old =>
      rw [Option.map_some]
      simp only [List.eraseP_map, hrotates, ih, List.map_cons, Option.map_some]

/-- **The diff reads no material of a previous certificate.** -/
theorem certDiff_bare (lib : Library) (prev des : List KeyedCert) :
    certDiff lib (prev.map KeyedCert.bare) des = certDiff lib prev des := by
  have htrades : tradesOf (prev.map KeyedCert.bare) des = tradesOf prev des := by
    rw [tradesOf, tradesOf, updates_bare, List.filter_map, List.map_map]
    rfl
  have hothers : ((updates (prev.map KeyedCert.bare) des).filter fun u => !isTrade u).map
      (fun u => (updateRank u, updateRequest u)) =
        ((updates prev des).filter fun u => !isTrade u).map
          fun u => (updateRank u, updateRequest u) := by
    rw [updates_bare, List.filter_map, List.map_map]
    rfl
  have hadd : ∀ pair : KeyedCert × Option KeyedCert,
      addRequest (pair.1, pair.2.map KeyedCert.bare) = addRequest pair := by
    rintro ⟨new, _ | old⟩
    · rfl
    · rfl
  simp only [certDiff, htrades, hothers, addedCerts_bare, removedCerts_bare, pairRotations_bare,
    List.map_map, Function.comp_def, hadd]
  rfl

/-- **The certificates of the diff are desired ones.** -/
theorem carried_certDiff {r : Request} (hr : r ∈ (certDiff lib prev des).map Prod.snd)
    {carried : CertificateAndKey} (hcarried : carriedCertificate r = some carried) :
    ∃ d ∈ des, carried = certificateAndKey d.cert := by
  rw [(certDiff_perm lib prev des).mem_iff] at hr
  simp only [List.mem_append, List.mem_map] at hr
  rcases hr with (⟨u, hu, rfl⟩ | ⟨pair, hpair, rfl⟩) | ⟨old, -, rfl⟩
  · exact ⟨u.2, (mem_updates.1 hu).1, (Option.some.inj hcarried).symm⟩
  · have hnew := (mem_addedCerts.1 (fst_mem_of_mem_pairRotations hpair)).1
    obtain ⟨new, _ | old⟩ := pair
    · exact ⟨new, hnew, (Option.some.inj hcarried).symm⟩
    · exact ⟨new, hnew, (Option.some.inj hcarried).symm⟩
  · cases hcarried

end Diff

/-! ## The groups of the redacted certificates -/

section Groups

variable {lib : Library}

/-- Which chain a group serves after one more entry depends on the chains alone. -/
theorem chain_absorb (k : KeyedCert) (c : Certificate) (chain : List Der) :
    (k.absorb c chain).chain =
      if toLex (OrderDual.toDual chain.length, chain) <
          toLex (OrderDual.toDual k.chain.length, k.chain) then chain else k.chain := by
  by_cases hsame : chain = k.chain
  · subst hsame
    rw [KeyedCert.absorb, ite_self]
    split <;> rfl
  · have hlt : KeyedCert.material chain c < KeyedCert.material k.chain k.cert ↔
        toLex (OrderDual.toDual chain.length, chain) <
          toLex (OrderDual.toDual k.chain.length, k.chain) := by
      simp only [KeyedCert.material, Prod.Lex.toLex_lt_toLex, hsame, false_and, or_false]
    rw [KeyedCert.absorb]
    simp only [hlt]
    split <;> rfl

/-- **A group's identity after one more entry depends on its identity alone**: which key the
material has only decides which of two entries of one chain is kept. -/
theorem bare_absorb {k k' : KeyedCert} (hbare : k.bare = k'.bare) {c c' : Certificate}
    (hlistener : c.listener = c'.listener) (hnames : c.names = c'.names)
    (hk : k.cert.listener = c.listener) (chain : List Der) :
    (k.absorb c chain).bare = (k'.absorb c' chain).bare := by
  have hchain : (k.absorb c chain).chain = (k'.absorb c' chain).chain := by
    have hsame := congrArg KeyedCert.chain hbare
    change k.chain = k'.chain at hsame
    rw [chain_absorb, chain_absorb, hsame]
  have hfields : ∀ (k : KeyedCert) (c : Certificate), k.cert.listener = c.listener →
      (k.absorb c chain).bare = { k.bare with
        chain := (k.absorb c chain).chain
        cert := { k.bare.cert with
          names := (BTreeSet.ofList (k.bare.cert.names ++ c.names)).toList } } := by
    intro k c hk
    rw [KeyedCert.absorb]
    split
    · simp only [KeyedCert.bare, hk]
    · rfl
  have hk' : k'.cert.listener = c'.listener := by
    rw [← hlistener, ← hk]
    exact (congrArg (fun b : KeyedCert => b.cert.listener) hbare).symm
  rw [hfields k c hk, hfields k' c' hk', hchain, hbare, hnames]

/-- Filing an entry changes the identities alike, whatever its key. -/
theorem bare_fileCert {out out' : List KeyedCert}
    (hbare : out.map KeyedCert.bare = out'.map KeyedCert.bare)
    (hvalid : ∀ k ∈ out, k.cert.listener = k.listener) (c : Certificate) (fp : String)
    (chain : List Der) :
    (fileCert c fp chain out).map KeyedCert.bare =
      (fileCert (redactCertificate c) fp chain out').map KeyedCert.bare := by
  induction out generalizing out' with
  | nil =>
    obtain rfl : out' = [] := List.map_eq_nil_iff.1 hbare.symm
    rfl
  | cons k out ih =>
    obtain _ | ⟨k', out'⟩ := out'
    · simp at hbare
    rw [List.map_cons, List.map_cons, List.cons.injEq] at hbare
    have hkey := congrArg KeyedCert.key hbare.1
    change k.key = k'.key at hkey
    rw [fileCert, fileCert, ← hkey]
    show List.map _ (if k.key = (c.listener, fp) then _ else _) =
      List.map _ (if k.key = (c.listener, fp) then _ else _)
    by_cases hmine : k.key = (c.listener, fp)
    · have hlistener : k.cert.listener = c.listener :=
        (hvalid k List.mem_cons_self).trans (congrArg Prod.fst hmine)
      have hredacted : c.listener = (redactCertificate c).listener ∧
          c.names = (redactCertificate c).names := ⟨rfl, rfl⟩
      have habsorb := bare_absorb hbare.1 hredacted.1 hredacted.2 hlistener chain
      rw [if_pos hmine, if_pos hmine, List.map_cons, List.map_cons, hbare.2, habsorb]
    · rw [if_neg hmine, if_neg hmine, List.map_cons, List.map_cons, hbare.1,
        ih hbare.2 fun k hk => hvalid k (List.mem_cons_of_mem _ hk)]

theorem listener_fileCert {out : List KeyedCert} (hvalid : ∀ k ∈ out, k.cert.listener = k.listener)
    (c : Certificate) (fp : String) (chain : List Der) :
    ∀ k ∈ fileCert c fp chain out, k.cert.listener = k.listener := by
  induction out with
  | nil =>
    intro k hk
    rw [List.mem_singleton.1 hk]
  | cons first out ih =>
    intro k hk
    rw [fileCert] at hk
    split at hk
    · rename_i hmine
      rcases List.mem_cons.1 hk with rfl | hk
      · have hfirst := hvalid first List.mem_cons_self
        have hlistener : first.listener = c.listener := congrArg Prod.fst hmine
        rw [KeyedCert.absorb]
        split
        · exact hlistener.symm
        · exact hfirst
      · exact hvalid k (List.mem_cons_of_mem _ hk)
    · rcases List.mem_cons.1 hk with rfl | hk
      · exact hvalid k List.mem_cons_self
      · exact ih (fun k hk => hvalid k (List.mem_cons_of_mem _ hk)) k hk

theorem bare_keyedCertsFrom {certs : List Certificate} {out out' : List KeyedCert}
    (hbare : out.map KeyedCert.bare = out'.map KeyedCert.bare)
    (hvalid : ∀ k ∈ out, k.cert.listener = k.listener) :
    (keyedCertsFrom lib out certs).map (List.map KeyedCert.bare) =
      (keyedCertsFrom lib out' (certs.map redactCertificate)).map (List.map KeyedCert.bare) := by
  induction certs generalizing out out' with
  | nil => exact congrArg Except.ok hbare
  | cons c certs ih =>
    have hfp : fingerprint lib (redactCertificate c) = fingerprint lib c := rfl
    have hchain : servedChain lib (redactCertificate c) = servedChain lib c := rfl
    rw [List.map_cons, keyedCertsFrom, keyedCertsFrom, hfp, hchain]
    cases fingerprint lib c with
    | error e => rfl
    | ok fp =>
      cases servedChain lib c with
      | error e => rfl
      | ok chain =>
        exact ih (bare_fileCert hbare hvalid c fp chain) (listener_fileCert hvalid c fp chain)

/-- **The groups of the redacted certificates are those of the live ones**, their material
aside. -/
theorem bare_keyedCerts_redacted (certs : List Certificate) :
    (keyedCerts lib (certs.map redactCertificate)).map (List.map KeyedCert.bare) =
      (keyedCerts lib certs).map (List.map KeyedCert.bare) :=
  (bare_keyedCertsFrom rfl fun _ hk => absurd hk List.not_mem_nil).symm

/-- The requests read the previous groups without their material. -/
theorem certificateRequests_eq (previous desired : List Certificate) :
    certificateRequests lib previous desired = (do
      let prev ← (keyedCerts lib previous).map (List.map KeyedCert.bare)
      let des ← keyedCerts lib desired
      return certDiff lib prev des) := by
  rw [certificateRequests]
  cases keyedCerts lib previous with
  | error e => rfl
  | ok prev =>
    show (keyedCerts lib desired >>= fun des => pure (certDiff lib prev des)) =
      keyedCerts lib desired >>= fun des => pure (certDiff lib (prev.map KeyedCert.bare) des)
    simp only [certDiff_bare]

theorem certificateRequests_redacted (previous desired : List Certificate) :
    certificateRequests lib (previous.map redactCertificate) desired =
      certificateRequests lib previous desired := by
  rw [certificateRequests_eq, bare_keyedCerts_redacted, ← certificateRequests_eq]

end Groups

/-! ## The batch -/

section Batch

variable [CharTable] {lib : Library}

/-- A reconcile reads nothing of the keys of the previous IR. -/
theorem reconcile_redactPrivateKeys (lib : Library) (previous desired : Ir) :
    reconcile lib (redactPrivateKeys previous) desired = reconcile lib previous desired := by
  have hrouting : routingState lib (redactPrivateKeys previous) = routingState lib previous := rfl
  have hcertificates : certificateRequests lib (redactPrivateKeys previous).certificates
      desired.certificates = certificateRequests lib previous.certificates desired.certificates :=
    certificateRequests_redacted previous.certificates desired.certificates
  rw [reconcile, reconcile, hrouting, hcertificates]

/-- **The certificates a batch carries are desired ones.** -/
theorem carried_of_mem_batch (hlib : lib.Documented) {previous desired : Ir}
    {batch : List Request} (h : reconcile lib previous desired = .ok batch) {r : Request}
    (hr : r ∈ batch) {carried : CertificateAndKey}
    (hcarried : carriedCertificate r = some carried) :
    ∃ c ∈ desired.certificates, carried.key = c.key ∧ carried.certificate = c.certificate ∧
      carried.certificateChain = c.chain := by
  obtain ⟨a, b, prev, des, hrec, rfl⟩ := reconcile_ok_iff.1 h
  rw [batchOf, mem_dedupAdjacent, mem_canonicalizeRanked] at hr
  obtain ⟨rank, hr⟩ := hr
  rcases List.mem_append.1 hr with hr | hr
  · -- a routing request carries none
    obtain ⟨req, hreq, heq⟩ := List.mem_map.1 hr
    cases heq
    obtain ⟨t, rfl, hplan⟩ := ((hrec.convergent hlib).mem_routingBatch hlib).1 hreq
    cases hplan <;> cases hcarried
  · obtain ⟨d, hd, rfl⟩ := carried_certDiff (List.mem_map_of_mem hr) hcarried
    obtain ⟨c, hc, -, -, hsame⟩ := (keyedCerts_ok hrec.desiredCerts).source d hd
    exact ⟨c, hc, by rw [← hsame]; rfl, by rw [← hsame]; rfl, by rw [← hsame]; rfl⟩

/-- **A shadow without its keys diffs as the live one**: the batch is the same, it is the same
for any keys the previous certificates had, and every key it carries is a desired one. -/
theorem reconcile_redacted (hlib : lib.Documented) (previous desired : Ir) :
    reconcile lib (redactPrivateKeys previous) desired = reconcile lib previous desired ∧
      (∀ other, redactPrivateKeys other = redactPrivateKeys previous →
        reconcile lib other desired = reconcile lib previous desired) ∧
      ∀ batch, reconcile lib previous desired = .ok batch → ∀ r ∈ batch, ∀ carried,
        carriedCertificate r = some carried → ∃ c ∈ desired.certificates,
          carried.key = c.key ∧ carried.certificate = c.certificate ∧
            carried.certificateChain = c.chain := by
  refine ⟨reconcile_redactPrivateKeys lib previous desired, fun other hother => ?_, ?_⟩
  · rw [← reconcile_redactPrivateKeys lib other, hother, reconcile_redactPrivateKeys]
  · exact fun batch h r hr carried hcarried => carried_of_mem_batch hlib h hr hcarried

end Batch

attribute [local instance] asciiTable

/-- Two entries of one leaf whose keys choose the material: blanked, the other one is chosen. -/
theorem reconcile_redacted_twoKeys :
    reconcile reference
        (redactPrivateKeys { certificates :=
          [{ sampleCertificate "A" ["x"] with key := "second" },
            { sampleCertificate "A" ["y"] with key := "first" }] })
        { certificates := [sampleCertificate "A" ["x", "z"]] } =
      reconcile reference
        { certificates :=
          [{ sampleCertificate "A" ["x"] with key := "second" },
            { sampleCertificate "A" ["y"] with key := "first" }] }
        { certificates := [sampleCertificate "A" ["x", "z"]] } :=
  (@reconcile_redacted asciiTable reference reference_documented _ _).1

end Translator

end SozuGateway
