import SozuGateway.Translator.Replay

/-!
# The certificates a replay leaves

The certificate half of the replay: the store of the replayed certificates is the
store of the previous ones with the acknowledged requests applied.

* `groupKey` — the key the replay files a certificate of the store under.
* `Acknowledged` — what an acknowledged head is made of: requests of the certificate
  diff, and requests that name no certificate.
* `Regrouped` — what some writes make of a group, one write after the other.
* `group_applyAll` — a group that a request of the head writes is the desired one, or
  empty; any other is the previous one.
* `certStore_replayed` — the store of the replayed certificates.
-/

set_option autoImplicit false

namespace SozuGateway

namespace Translator

open Lib Sozu

variable {lib : Library}

/-! ## Fingerprints -/

theorem toLower_hexDigit (n : ℕ) : (hexDigit n).toLower = hexDigit n := by
  by_cases hn : n < 16
  · interval_cases n <;> decide
  · have hdefault : hexDigit n = '0' := by
      unfold hexDigit
      rw [List.getD_eq_default]
      show 16 ≤ n
      omega
    rw [hdefault]
    decide

/-- A fingerprint is in lower case. -/
theorem toAsciiLowercase_hex (bytes : List (Fin 256)) :
    toAsciiLowercase (hex bytes) = hex bytes := by
  have hmap : (bytes.flatMap fun b => [hexDigit (b.val / 16), hexDigit (b.val % 16)]).map
      Char.toLower = bytes.flatMap fun b => [hexDigit (b.val / 16), hexDigit (b.val % 16)] := by
    induction bytes with
    | nil => rfl
    | cons b bytes ih =>
      rw [List.flatMap_cons, List.map_append, ih]
      simp [toLower_hexDigit]
  rw [toAsciiLowercase, hex, String.toList_ofList, hmap]

theorem fingerprintOf_eq_some {c : Certificate} {fp : String} :
    fingerprintOf lib c.certificate = some fp ↔ fingerprint lib c = .ok fp := by
  unfold fingerprintOf fingerprint
  cases lib.calculateFingerprint c.certificate with
  | error e => simp
  | ok bytes => simp

theorem KeyedCert.Valid.lowercase {k : KeyedCert} (hk : k.Valid lib) :
    toAsciiLowercase k.fingerprint = k.fingerprint := by
  have hparse := hk.parses.fingerprint
  unfold Translator.fingerprint at hparse
  cases hfp : lib.calculateFingerprint k.cert.certificate with
  | error e => simp [hfp] at hparse
  | ok bytes =>
    have hhex : hex bytes = k.fingerprint := by simpa [hfp] using hparse
    rw [← hhex, toAsciiLowercase_hex]

/-! ## Keys -/

/-- The key the replay files a certificate of the store under. -/
def groupKey (key : CertKey) : CertificateKey := some (toLex (key.1.toAddr, key.2))

theorem groupKey_injective : Function.Injective groupKey := by
  rintro ⟨address, fp⟩ ⟨address', fp'⟩ h
  have hpair := toLex.injective (Option.some.inj h)
  simp only [Prod.mk.injEq] at hpair
  rw [SocketAddress.toAddr_injective hpair.1, hpair.2]

theorem certificateKey_eq_groupKey {c : Certificate} {key : CertKey} :
    certificateKey lib c = groupKey key ↔
      c.listener.plain = key.1.toAddr ∧ fingerprint lib c = .ok key.2 := by
  unfold certificateKey groupKey
  rw [← fingerprintOf_eq_some]
  cases fingerprintOf lib c.certificate with
  | none => simp
  | some fp =>
    show (some (toLex (c.listener.plain, fp)) : Option (SocketAddr ×ₗ String)) = _ ↔ _
    simp

/-! ## The store of a list of certificates -/

section Store

variable {certs certs' : List Certificate} {ks ks' : List KeyedCert}

/-- The groups of a key, when every address is plain. -/
theorem keyedCerts_groupKey (h : keyedCerts lib certs = .ok ks)
    (hplain : ∀ c ∈ certs, c.listener.IsPlain) (key : CertKey) :
    keyedCerts lib (under (certificateKey lib) (groupKey key) certs) =
      .ok (ks.filter fun k => k.certKey = key) := by
  have hentries : under (certificateKey lib) (groupKey key) certs =
      certs.filter fun c => (fileKey lib c).any fun x => x = (key.1.toAddr, key.2) := by
    refine under_eq_filter fun c hc => ?_
    rw [certificateKey_eq_groupKey, hplain c hc]
    unfold fileKey
    cases fingerprint lib c with
    | error e => simp
    | ok fp => simp
  have hgroups : (ks.filter fun k => k.certKey = key) =
      ks.filter fun k => k.key = (key.1.toAddr, key.2) := by
    refine List.filter_congr fun k hk => ?_
    obtain ⟨c, hc, hin, -⟩ := (keyedCerts_ok h).source k hk
    have hk' : k.listener.plain = k.listener := hin.1 ▸ hplain c hc
    have haddr : k.listener.toWire = key.1 ↔ k.listener = key.1.toAddr := by
      refine ⟨fun heq => ?_, fun heq => ?_⟩
      · rw [← heq, SocketAddress.toAddr_toWire, hk']
      · rw [heq, SocketAddress.toWire_toAddr]
    have hkey : k.certKey = key ↔ k.listener.toWire = key.1 ∧ k.fingerprint = key.2 :=
      Prod.ext_iff
    rw [Bool.eq_iff_iff, decide_eq_true_eq, decide_eq_true_eq, hkey, KeyedCert.key, haddr,
      Prod.mk.injEq]
  rw [hentries, hgroups]
  exact keyedCerts_filter _ h

theorem certStore_eq_head (ks : List KeyedCert) (key : CertKey) :
    certStore ks key = ((ks.filter fun k => k.certKey = key).head?).map KeyedCert.served := by
  rw [certStore, List.head?_filter]

/-- **What a list of certificates serves under a key depends on the entries of that
key alone.** -/
theorem certStore_congr (h : keyedCerts lib certs = .ok ks) (h' : keyedCerts lib certs' = .ok ks')
    (hplain : ∀ c ∈ certs ++ certs', c.listener.IsPlain) {key : CertKey}
    (hentries : under (certificateKey lib) (groupKey key) certs =
      under (certificateKey lib) (groupKey key) certs') :
    certStore ks key = certStore ks' key := by
  have hks := keyedCerts_groupKey h (fun c hc => hplain c (List.mem_append_left _ hc)) key
  have hks' := keyedCerts_groupKey h' (fun c hc => hplain c (List.mem_append_right _ hc)) key
  rw [hentries, hks'] at hks
  rw [certStore_eq_head, certStore_eq_head, Except.ok.inj hks]

/-- A key without entries serves nothing. -/
theorem certStore_eq_none_of_entries (h : keyedCerts lib certs = .ok ks)
    (hplain : ∀ c ∈ certs, c.listener.IsPlain) {key : CertKey}
    (hentries : under (certificateKey lib) (groupKey key) certs = []) :
    certStore ks key = none := by
  have hks := keyedCerts_groupKey h hplain key
  rw [hentries] at hks
  rw [certStore_eq_head, ← Except.ok.inj hks]
  rfl

end Store

/-! ## One request -/

namespace Replay

variable (q : Replay) (step : ℕ)

@[simp] theorem wantedCertificates_apply (r : Request) :
    (q.apply lib step r).wantedCertificates = q.wantedCertificates := by
  unfold apply
  split <;> try rfl
  all_goals
    split <;> try rfl
  simp only
  split <;> rfl

theorem certificates_apply {r : Request} (hr : r.namesACertificate = false) :
    (q.apply lib step r).certificates = q.certificates := by
  unfold Request.namesACertificate at hr
  unfold apply
  split <;> try rfl
  · split <;> rfl
  all_goals simp_all [RequestType.namesACertificate]

theorem apply_add {k : KeyedCert} (hk : k.Valid lib) :
    q.apply lib step (addCertificateRequest k.cert) =
      q.setCertificate (groupKey k.certKey) step := by
  have hfp := fingerprintOf_eq_some.2 hk.parses.fingerprint
  unfold Replay.apply
  simp only [addCertificateRequest, RequestType.into, certificateAndKey, hfp, hk.listener,
    SocketAddress.plain_toAddr]
  rfl

theorem apply_replace {k : KeyedCert} (hk : k.Valid lib) (old : String) :
    q.apply lib step (replaceCertificateRequest k.cert old) =
      (if toAsciiLowercase old ≠ k.fingerprint then
        { q with
          certificates := q.certificates.remove
            (groupKey (k.listener.toWire, toAsciiLowercase old)) }
      else q).setCertificate (groupKey k.certKey) step := by
  have hfp := fingerprintOf_eq_some.2 hk.parses.fingerprint
  unfold Replay.apply
  simp only [replaceCertificateRequest, RequestType.into, certificateAndKey, hfp, hk.listener,
    SocketAddress.plain_toAddr]
  rfl

theorem apply_remove {k : KeyedCert} (hk : k.Valid lib) :
    q.apply lib step (removeRequest k) =
      { q with certificates := q.certificates.remove (groupKey k.certKey) } := by
  show ({ q with
    certificates := q.certificates.remove
      (some (toLex (k.listener.toWire.toAddr.plain,
        toAsciiLowercase k.fingerprint))) } : Replay) = _
  rw [hk.lowercase]
  simp only [SocketAddress.plain_toAddr]
  rfl

theorem group_setCertificate {desired : List Certificate}
    (hwanted : q.wantedCertificates = wanted desired (certificateKey lib)) {key : CertificateKey}
    (hheld : under (certificateKey lib) key desired ≠ []) (key' : CertificateKey) :
    (q.setCertificate key step).certificates.group key' =
      if key = key' then under (certificateKey lib) key' desired
      else q.certificates.group key' := by
  have hget : q.wantedCertificates[key]? =
      some (under (certificateKey lib) key desired) := by
    rw [hwanted, getElem?_wanted, if_neg hheld]
  rw [setCertificate, hget]
  show (q.certificates.set key _ step).group key' = _
  rw [Keyed.group_set]
  by_cases hkey : key = key'
  · rw [if_pos hkey, if_pos hkey, hkey]
  · rw [if_neg hkey, if_neg hkey]

end Replay

/-! ## An acknowledged head -/

theorem certWrites_eq_nil {r : Request} (hr : r.namesACertificate = false) :
    certWrites lib r = [] := by
  obtain ⟨t⟩ := r
  cases t with
  | none => rfl
  | some t =>
    cases t
    case addCertificate => cases hr
    case replaceCertificate => cases hr
    case removeCertificate => cases hr
    all_goals rfl

/-- What an acknowledged head is made of. -/
def Acknowledged (lib : Library) (prev des : List KeyedCert) (p : List Request) : Prop :=
  ∀ r ∈ p, r.namesACertificate = true → r ∈ (certDiff lib prev des).map Prod.snd

/-- What a group is after a write of its key: the desired one, or none. -/
def writtenGroup (lib : Library) (desired : List Certificate) (w : Write CertKey Served) :
    List Certificate :=
  if w.value.isSome then under (certificateKey lib) (groupKey w.slot) desired else []

/-- What some writes make of the group of a key: what the last of them wrote, or what it was. -/
def Regrouped (lib : Library) (desired : List Certificate) (ws : List (Write CertKey Served))
    (key : CertificateKey) (before after : List Certificate) : Prop :=
  ((∀ w ∈ ws, groupKey w.slot ≠ key) ∧ after = before) ∨
    ∃ w ∈ ws, groupKey w.slot = key ∧ after = writtenGroup lib desired w

section Regrouped

variable {desired before middle after : List Certificate} {ws ws' : List (Write CertKey Served)}
  {key : CertificateKey}

theorem Regrouped.nil : Regrouped lib desired [] key before before :=
  .inl ⟨by simp, rfl⟩

theorem Regrouped.single {w : Write CertKey Served}
    (h : after = if groupKey w.slot = key then writtenGroup lib desired w else before) :
    Regrouped lib desired [w] key before after := by
  by_cases hkey : groupKey w.slot = key
  · exact .inr ⟨w, by simp, hkey, h.trans (if_pos hkey)⟩
  · exact .inl ⟨by simpa using hkey, h.trans (if_neg hkey)⟩

theorem Regrouped.append (h : Regrouped lib desired ws key before middle)
    (h' : Regrouped lib desired ws' key middle after) :
    Regrouped lib desired (ws ++ ws') key before after := by
  rcases h' with ⟨hnone', hsame'⟩ | ⟨w, hw, hkey, hgroup⟩
  · rcases h with ⟨hnone, hsame⟩ | ⟨w, hw, hkey, hgroup⟩
    · refine .inl ⟨fun w hw => ?_, hsame'.trans hsame⟩
      rcases List.mem_append.1 hw with hw | hw
      · exact hnone w hw
      · exact hnone' w hw
    · exact .inr ⟨w, List.mem_append_left _ hw, hkey, hsame'.trans hgroup⟩
  · exact .inr ⟨w, List.mem_append_right _ hw, hkey, hgroup⟩

end Regrouped

section Groups

variable {prev des : List KeyedCert} {desired : List Certificate} (hplan : CertPlan lib prev des)
  (hdes : keyedCerts lib desired = .ok des)

include hplan hdes

omit hplan in
/-- A desired certificate has entries in the desired list. -/
theorem entries_ne_nil {d : KeyedCert} (hd : d ∈ des) :
    under (certificateKey lib) (groupKey d.certKey) desired ≠ [] := by
  obtain ⟨c, hc, hin, -, hsame⟩ := (keyedCerts_ok hdes).source d hd
  refine List.ne_nil_of_mem (mem_under.2 ⟨hc, ?_⟩)
  rw [certificateKey_eq_groupKey]
  refine ⟨?_, hin.2⟩
  show c.listener.plain = d.listener.toWire.toAddr
  rw [hin.1, SocketAddress.toAddr_toWire]

omit hplan in
/-- The load of a desired certificate. -/
theorem regrouped_load (q : Replay)
    (hwanted : q.wantedCertificates = wanted desired (certificateKey lib)) {d : KeyedCert}
    (hd : d ∈ des) (step : ℕ) (key : CertificateKey) :
    Regrouped lib desired [d.load] key (q.certificates.group key)
      ((q.setCertificate (groupKey d.certKey) step).certificates.group key) := by
  refine .single ?_
  rw [q.group_setCertificate step hwanted (entries_ne_nil hdes hd)]
  by_cases hkey : groupKey d.certKey = key
  · subst hkey
    rfl
  · exact (if_neg hkey).trans (if_neg hkey).symm

omit hplan hdes in
/-- The removal of a certificate. -/
theorem regrouped_unload (certificates : Keyed CertificateKey Certificate) (old : KeyedCert)
    (key : CertificateKey) :
    Regrouped lib desired [old.unload] key (certificates.group key)
      ((certificates.remove (groupKey old.certKey)).group key) := by
  refine .single ?_
  rw [Keyed.group_remove]
  by_cases hkey : groupKey old.certKey = key
  · exact (if_pos hkey).trans (if_pos hkey).symm
  · exact (if_neg hkey).trans (if_neg hkey).symm

/-- An addition, with what it rotates. -/
theorem regrouped_addRequest {q : Replay}
    (hwanted : q.wantedCertificates = wanted desired (certificateKey lib))
    {pair : KeyedCert × Option KeyedCert}
    (hpair : pair ∈ (pairRotations (addedCerts prev des) (removedCerts prev des)).1) (step : ℕ)
    (key : CertificateKey) :
    Regrouped lib desired (certWrites lib (addRequest pair)) key (q.certificates.group key)
      ((q.apply lib step (addRequest pair)).certificates.group key) := by
  have hd := (mem_addedCerts.1 (fst_mem_of_mem_pairRotations hpair)).1
  have hvalid := hplan.valid_right pair.1 hd
  rw [certWrites_addRequest hplan.valid_right hpair]
  obtain ⟨new, old⟩ := pair
  cases old with
  | none =>
    rw [addRequest, q.apply_add step hvalid]
    exact regrouped_load hdes q hwanted hd step key
  | some old =>
    obtain ⟨-, hold, hrot⟩ := rotates_of_mem_pairRotations hpair
    have hvalid' := hplan.valid_left old (mem_removedCerts.1 hold).1
    have hkey : (new.listener.toWire, old.fingerprint) = old.certKey := by
      rw [KeyedCert.certKey, (rotates_iff.1 hrot).1]
    rw [addRequest, q.apply_replace step hvalid, hvalid'.lowercase,
      if_pos (fingerprint_ne_of_rotates hd hold hrot), hkey]
    -- the old group goes first, then the new one is set
    have hloaded := regrouped_load hdes
      { q with certificates := q.certificates.remove (groupKey old.certKey) } hwanted hd step key
    exact (regrouped_unload q.certificates old key).append hloaded

/-- **One request changes the groups of the keys it writes alone.** -/
theorem group_apply {q : Replay}
    (hwanted : q.wantedCertificates = wanted desired (certificateKey lib))
    {r : Request} (hr : r.namesACertificate = true → r ∈ (certDiff lib prev des).map Prod.snd)
    (step : ℕ) (key : CertificateKey) :
    Regrouped lib desired (certWrites lib r) key (q.certificates.group key)
      ((q.apply lib step r).certificates.group key) := by
  by_cases hnames : r.namesACertificate = true
  swap
  · have hfalse : r.namesACertificate = false := by simpa using hnames
    rw [certWrites_eq_nil hfalse, q.certificates_apply step hfalse]
    exact .nil
  have hmem := (certDiff_perm lib prev des).mem_iff.1 (hr hnames)
  simp only [List.mem_append, List.mem_map] at hmem
  rcases hmem with (⟨u, hu, rfl⟩ | ⟨pair, hpair, rfl⟩) | ⟨old, hold, rfl⟩
  · have hd := (mem_updates.1 hu).1
    have hvalid := hplan.valid_right u.2 hd
    rw [updateRequest, certWrites_update hvalid, q.apply_replace step hvalid, hvalid.lowercase,
      if_neg (by simp)]
    exact regrouped_load hdes q hwanted hd step key
  · exact regrouped_addRequest hplan hdes hwanted hpair step key
  · have hremoved : old ∈ removedCerts prev des := by
      rw [← (pairRotations_perm (addedCerts prev des) (removedCerts prev des)).mem_iff]
      exact List.mem_append_right _ hold
    rw [certWrites_remove, q.apply_remove step
      (hplan.valid_left old (mem_removedCerts.1 hremoved).1)]
    exact regrouped_unload q.certificates old key

/-- **After a head**, a group that one of its requests writes is the desired one or
empty, and any other is as before. -/
theorem group_applyAll {q : Replay}
    (hwanted : q.wantedCertificates = wanted desired (certificateKey lib)) {p : List Request}
    (hp : Acknowledged lib prev des p) (step : ℕ) (key : CertificateKey) :
    Regrouped lib desired (p.flatMap (certWrites lib)) key (q.certificates.group key)
      ((q.applyAll lib step p).certificates.group key) := by
  induction p generalizing q step with
  | nil => exact .nil
  | cons r p ih =>
    have hwanted' : (q.apply lib step r).wantedCertificates = wanted desired (certificateKey lib) :=
      (q.wantedCertificates_apply step r).trans hwanted
    rw [List.flatMap_cons]
    exact (group_apply hplan hdes hwanted (hp r (by simp)) step key).append
      (ih hwanted' (fun r' hr' => hp r' (by simp [hr'])) (step + 1))

end Groups

/-- A load of the head leaves what the desired certificates serve. -/
theorem CertPlan.value_of_load {prev des : List KeyedCert} (hplan : CertPlan lib prev des)
    {p : List Request} {w : Write CertKey Served} (hw : ∃ r ∈ p, w ∈ certWrites lib r)
    (hp : Acknowledged lib prev des p) {served : Served} (hvalue : w.value = some served) :
    certStore des w.slot = w.value := by
  obtain ⟨r, hr, hw⟩ := hw
  have hnames : r.namesACertificate = true := by
    by_contra hnot
    rw [certWrites_eq_nil (by simpa using hnot)] at hw
    cases hw
  have hmem : w ∈ planWrites prev des := by
    rw [← (certWrites_certDiff hplan.valid_right).mem_iff]
    exact List.mem_flatMap.2 ⟨r, hp r hr hnames, hw⟩
  have hplain : AllPlain des := fun k hk => hplan.plain k (List.mem_append_right _ hk)
  have hload : ∀ d ∈ des, certStore des d.load.slot = d.load.value := fun d hd =>
    certStore_eq_some hplan.nodup_right hplain hd
  simp only [planWrites, List.mem_append, List.mem_map] at hmem
  rcases hmem with (⟨u, hu, rfl⟩ | ⟨d, hd, rfl⟩) | ⟨old, -, rfl⟩
  · exact hload u.2 (mem_updates.1 hu).1
  · exact hload d (mem_addedCerts.1 hd).1
  · cases hvalue

/-! ## The store of the replayed certificates -/

section Replayed

variable [CharTable] {previous desired : Ir} {prev des : List KeyedCert} {p : List Request}

omit [CharTable] in
/-- Without a certificate request nothing changes. -/
theorem certificates_applyAll {q : Replay} (hp : ∀ r ∈ p, r.namesACertificate = false) (step : ℕ) :
    (q.applyAll lib step p).certificates = q.certificates := by
  induction p generalizing q step with
  | nil => rfl
  | cons r p ih =>
    rw [Replay.applyAll, ih fun r' hr' => hp r' (by simp [hr'])]
    exact q.certificates_apply step (hp r (by simp))

theorem under_certificates {q : Replay} {flag : Bool} (hq : q.Valid lib desired flag)
    (key : CertificateKey) :
    under (certKeyIf lib flag) key q.finish.certificates = q.certificates.group key :=
  Keyed.under_intoObjects hq.certificates (fun _ _ _ => .refl _) key

/-- The replayed certificates under a key: the previous ones, or what a request of the
head wrote. -/
theorem under_replayed (hplan : CertPlan lib prev des)
    (hdes : keyedCerts lib desired.certificates = .ok des) (hp : Acknowledged lib prev des p)
    (key : CertificateKey) :
    Regrouped lib desired.certificates (p.flatMap (certWrites lib)) key
      (under (certificateKey lib) key previous.certificates)
      (under (certificateKey lib) key
        (applyAcknowledged lib previous desired p).certificates) := by
  unfold applyAcknowledged
  by_cases hnil : p = []
  · subst hnil
    exact .inl ⟨by simp, rfl⟩
  rw [if_neg hnil]
  simp only
  cases hany : p.any Request.namesACertificate with
  | true =>
    have hvalid := (@Replay.Valid.new lib _ previous desired true).applyAll 1 p
    have hunder := under_certificates hvalid key
    have hkey : certKeyIf lib true = certificateKey lib := rfl
    rw [hkey] at hunder
    rw [hunder]
    have hgroup := @group_applyAll lib prev des desired.certificates hplan hdes
      (.new lib previous desired true) rfl p hp 1 key
    have hnew : (Replay.new lib previous desired true).certificates.group key =
        under (certificateKey lib) key previous.certificates := Keyed.group_new _ _
    rw [hnew] at hgroup
    exact hgroup
  | false =>
    -- nothing was fingerprinted: every certificate is in one group
    have hnone : ∀ r ∈ p, r.namesACertificate = false := by
      intro r hr
      have hnot := List.any_eq_false.1 hany r hr
      simpa using hnot
    have hvalid := (@Replay.Valid.new lib _ previous desired false).applyAll 1 p
    have hall : ∀ l : List Certificate, under (certKeyIf lib false) none l = l := fun l =>
      under_eq_self fun _ _ => rfl
    have hunder := under_certificates hvalid none
    rw [hall, certificates_applyAll hnone] at hunder
    have hnew : (Replay.new lib previous desired false).certificates.group none =
        previous.certificates := (Keyed.group_new _ _).trans (hall _)
    rw [hnew] at hunder
    rw [hunder]
    refine .inl ⟨fun w hw => ?_, rfl⟩
    obtain ⟨r, hr, hw⟩ := List.mem_flatMap.1 hw
    rw [certWrites_eq_nil (hnone r hr)] at hw
    cases hw

/-- Every replayed certificate is a previous or a desired one. -/
theorem mem_replayed (hplan : CertPlan lib prev des)
    (hdes : keyedCerts lib desired.certificates = .ok des) (hp : Acknowledged lib prev des p)
    {c : Certificate} (hc : c ∈ (applyAcknowledged lib previous desired p).certificates) :
    c ∈ previous.certificates ++ desired.certificates := by
  have hmem : c ∈ under (certificateKey lib) (certificateKey lib c)
      (applyAcknowledged lib previous desired p).certificates := mem_under.2 ⟨hc, rfl⟩
  rcases @under_replayed lib _ previous desired prev des p hplan hdes hp (certificateKey lib c) with
    ⟨-, hsame⟩ | ⟨w, -, -, hwritten⟩
  · rw [hsame] at hmem
    exact List.mem_append_left _ (mem_under.1 hmem).1
  · rw [hwritten, writtenGroup] at hmem
    split at hmem
    · exact List.mem_append_right _ (mem_under.1 hmem).1
    · cases hmem

/-- **The store of the replayed certificates** is that of the previous ones with the
writes of the head's requests. -/
theorem certStore_replayed (hprev : keyedCerts lib previous.certificates = .ok prev)
    (hdes : keyedCerts lib desired.certificates = .ok des)
    (hplain : ∀ c ∈ previous.certificates ++ desired.certificates, c.listener.IsPlain)
    (hp : Acknowledged lib prev des p) (hnd : ((p.flatMap (certWrites lib)).map Write.slot).Nodup) :
    ∃ ks, keyedCerts lib (applyAcknowledged lib previous desired p).certificates = .ok ks ∧
      certStore ks = run (certStore prev) (p.flatMap (certWrites lib)) := by
  have hplan := certPlan_of_keyedCerts hprev hdes hplain
  set replayed := (applyAcknowledged lib previous desired p).certificates with hreplayed
  have hmem : ∀ c ∈ replayed, c ∈ previous.certificates ++ desired.certificates := fun c hc =>
    mem_replayed hplan hdes hp hc
  have hplainr : ∀ c ∈ replayed, c.listener.IsPlain := fun c hc => hplain c (hmem c hc)
  obtain ⟨ks, hks⟩ : ∃ ks, keyedCerts lib replayed = .ok ks := by
    refine keyedCerts_isOk_iff.2 fun c hc => ?_
    rcases List.mem_append.1 (hmem c hc) with hc | hc
    · exact (keyedCerts_ok hprev).parsesAll c hc
    · exact (keyedCerts_ok hdes).parsesAll c hc
  refine ⟨ks, hks, ?_⟩
  funext key
  rcases @under_replayed lib _ previous desired prev des p hplan hdes hp (groupKey key) with
    ⟨hnone, hsame⟩ | ⟨w, hw, hkey, hwritten⟩
  · rw [run_of_forall_ne fun w hw heq => hnone w hw (congrArg groupKey heq)]
    refine certStore_congr hks hprev (fun c hc => ?_) hsame
    rcases List.mem_append.1 hc with hc | hc
    · exact hplainr c hc
    · exact hplain c (List.mem_append_left _ hc)
  · obtain rfl := groupKey_injective hkey
    rw [run_of_nodup hnd hw]
    cases hvalue : w.value with
    | none =>
      rw [writtenGroup, hvalue] at hwritten
      exact certStore_eq_none_of_entries hks hplainr hwritten
    | some served =>
      rw [writtenGroup, hvalue] at hwritten
      have hstore : certStore ks w.slot = certStore des w.slot := by
        refine certStore_congr hks hdes (fun c hc => ?_) hwritten
        rcases List.mem_append.1 hc with hc | hc
        · exact hplainr c hc
        · exact hplain c (List.mem_append_right _ hc)
      rw [hstore, ← hvalue]
      exact hplan.value_of_load (List.mem_flatMap.1 hw) hp hvalue

end Replayed

end Translator

end SozuGateway
