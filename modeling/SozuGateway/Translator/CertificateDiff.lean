import SozuGateway.Translator.Certificates

/-!
# The certificate diff

`certificate_requests`: the requests between two lists of certificates, and the
store Sōzu keeps of them.

* `CertStore` — what each (listener, fingerprint) serves; `CertStore.apply` — the
  effect of a request: an add is a no-op on a held fingerprint.
* `certDiff` — in-place replaces, rotations, adds and removals, ranked.
* `certWrites_certDiff` — the keys its requests write, and what with.
* `run_planWrites` — these writes turn the previous store into the desired
  one, and `nodup_slot_planWrites` — each key is written at most once.
-/

set_option autoImplicit false

namespace SozuGateway

namespace Translator

open Lib Sozu

/-! ## Requests -/

def certificateAndKey (c : Certificate) : CertificateAndKey where
  certificate := c.certificate
  certificateChain := c.chain
  key := c.key
  versions := []
  names := c.names

def addCertificateRequest (c : Certificate) : Request :=
  (RequestType.addCertificate ⟨c.listener.toWire, certificateAndKey c, none⟩).into

def removeCertificateRequest (listener : SocketAddr) (fingerprint : String) : Request :=
  (RequestType.removeCertificate ⟨listener.toWire, fingerprint⟩).into

def replaceCertificateRequest (new : Certificate) (oldFingerprint : String) : Request :=
  (RequestType.replaceCertificate
    ⟨new.listener.toWire, certificateAndKey new, oldFingerprint, none⟩).into

/-- SNI name set, for rotation pairing. -/
def namesSet (c : Certificate) : BTreeSet String := .ofList c.names

/-- The names of a certificate as Sōzu's resolver keys them. -/
def sniKeys (c : Certificate) : BTreeSet SniKey :=
  .ofList (c.names.map fun n => toLex (c.listener, toAsciiLowercase n))

/-! ## The diff -/

/-- The group of a list with the key of `k`. -/
def partner (ks : List KeyedCert) (k : KeyedCert) : Option KeyedCert :=
  ks.find? fun p => p.key = k.key

/-- A held certificate and the one wanted in its place need a request. -/
def changed (p d : KeyedCert) : Bool := namesSet p.cert ≠ namesSet d.cert ∨ p.chain ≠ d.chain

/-- The certificates to update in place, each with what it is updated from. -/
def updates (prev des : List KeyedCert) : List (KeyedCert × KeyedCert) :=
  des.filterMap fun d =>
    (partner prev d).bind fun p => if changed p d then some (p, d) else none

/-- The names an update gives to its certificate. -/
def gives (u : KeyedCert × KeyedCert) : BTreeSet SniKey :=
  (sniKeys u.2.cert).difference (sniKeys u.1.cert)

/-- The names an update takes off its certificate. -/
def takes (u : KeyedCert × KeyedCert) : BTreeSet SniKey :=
  (sniKeys u.1.cert).difference (sniKeys u.2.cert)

def updateRequest (u : KeyedCert × KeyedCert) : Request :=
  replaceCertificateRequest u.2.cert u.2.fingerprint

/-- An update that both gives and takes names. -/
def isTrade (u : KeyedCert × KeyedCert) : Bool := !(gives u).isEmpty && !(takes u).isEmpty

/-- The rank of an update that is no trade. -/
def updateRank (u : KeyedCert × KeyedCert) : CertRank :=
  if (takes u).isEmpty then .gains else .withdraws

def tradeOf (u : KeyedCert × KeyedCert) : Trade := ⟨updateRequest u, gives u, takes u⟩

/-- The trades of a batch. -/
def tradesOf (prev des : List KeyedCert) : List Trade :=
  ((updates prev des).filter fun u => isTrade u).map tradeOf

/-- A removed certificate that `new` takes the place of: same listener, same names. -/
def rotates (new old : KeyedCert) : Bool :=
  old.listener = new.listener ∧ namesSet old.cert = namesSet new.cert

/-- Pair each added certificate with the first removed one it rotates that no
other took, and return the removed ones left. -/
def pairRotations : List KeyedCert → List KeyedCert →
    List (KeyedCert × Option KeyedCert) × List KeyedCert
  | [], removed => ([], removed)
  | new :: added, removed =>
      match removed.find? (rotates new) with
      | some old =>
          let (pairs, left) := pairRotations added (removed.eraseP (rotates new))
          ((new, some old) :: pairs, left)
      | none =>
          let (pairs, left) := pairRotations added removed
          ((new, none) :: pairs, left)

def addedCerts (prev des : List KeyedCert) : List KeyedCert :=
  des.filter fun d => (partner prev d).isNone

def removedCerts (prev des : List KeyedCert) : List KeyedCert :=
  prev.filter fun p => (partner des p).isNone

/-- The request for an added certificate: a replace when it rotates another. -/
def addRequest (pair : KeyedCert × Option KeyedCert) : Request :=
  match pair.2 with
  | some old => replaceCertificateRequest pair.1.cert old.fingerprint
  | none => addCertificateRequest pair.1.cert

def removeRequest (old : KeyedCert) : Request :=
  removeCertificateRequest old.listener old.fingerprint

/-- The requests between two lists of groups, ranked. -/
def certDiff (lib : Library) (prev des : List KeyedCert) : List (CertRank × Request) :=
  let trades := tradesOf prev des
  let (pairs, left) := pairRotations (addedCerts prev des) (removedCerts prev des)
  ((updates prev des).filter fun u => !isTrade u).map (fun u => (updateRank u, updateRequest u)) ++
    (trades.zip (transferOrder lib trades)).map (fun t => (.trades t.2, t.1.request)) ++
    pairs.map (fun pair => (.gains, addRequest pair)) ++
    left.map fun old => (.withdraws, removeRequest old)

/-- Minimal certificate requests to converge `previous` to `desired`. -/
def certificateRequests (lib : Library) (previous desired : List Certificate) :
    Except TranslatorError (List (CertRank × Request)) := do
  let prev ← keyedCerts lib previous
  let des ← keyedCerts lib desired
  return certDiff lib prev des

/-! ## The store -/

/-- Sōzu's key for a loaded certificate. -/
abbrev CertKey := Sozu.SocketAddress × String

/-- What a loaded certificate serves. -/
structure Served where
  names : BTreeSet String
  chain : List Der
  deriving DecidableEq

/-- The certificates Sōzu holds. -/
abbrev CertStore := Store CertKey Served

/-- The certificate a payload carries. -/
def payloadCertificate (address : Sozu.SocketAddress) (c : CertificateAndKey) : Certificate :=
  ⟨address.toAddr, c.certificate, c.certificateChain, c.key, c.names⟩

/-- The links Sōzu serves after a leaf: each decoded, copies of the leaf left out; nothing when
one does not parse. -/
def linksAfter (lib : Library) (leaf : Der) : List String → Option (List Der)
  | [] => some []
  | pem :: pems =>
      match lib.parsePem pem, linksAfter lib leaf pems with
      | .ok link, some links => some (if link = leaf then links else link :: links)
      | _, _ => none

/-- What a payload loads, and under which fingerprint; nothing when it does not
parse. -/
def loaded (lib : Library) (c : Certificate) : Option (String × Served) :=
  match lib.calculateFingerprint c.certificate, lib.parsePem c.certificate with
  | .ok digest, .ok leaf =>
      (linksAfter lib leaf (c.chain.flatMap lib.splitCertificateChain)).map fun links =>
        (hex digest, ⟨.ofList c.names, links⟩)
  | _, _ => none

/-- The effect of a request on the store. -/
def CertStore.apply (lib : Library) (S : CertStore) (r : Request) : CertStore :=
  match r.requestType with
  | some (.addCertificate add) =>
      match loaded lib (payloadCertificate add.address add.certificate) with
      | some (fp, served) =>
          if S (add.address, fp) = none then Function.update S (add.address, fp) (some served)
          else S
      | none => S
  | some (.replaceCertificate replace) =>
      match loaded lib (payloadCertificate replace.address replace.newCertificate) with
      | some (fp, served) =>
          Function.update (Function.update S (replace.address, replace.oldFingerprint) none)
            (replace.address, fp) (some served)
      | none => S
  | some (.removeCertificate remove) =>
      Function.update S (remove.address, remove.fingerprint) none
  | _ => S

namespace KeyedCert

/-- The key a group is loaded under. -/
def certKey (k : KeyedCert) : CertKey := (k.listener.toWire, k.fingerprint)

/-- What a group serves. -/
def served (k : KeyedCert) : Served := ⟨namesSet k.cert, k.chain⟩

/-- Loading a group. -/
def load (k : KeyedCert) : Write CertKey Served := ⟨k.certKey, some k.served⟩

/-- Unloading a group. -/
def unload (k : KeyedCert) : Write CertKey Served := ⟨k.certKey, none⟩

end KeyedCert

/-- The store a list of groups is. -/
def certStore (ks : List KeyedCert) : CertStore := fun key =>
  (ks.find? fun k => k.certKey = key).map KeyedCert.served

/-! ## The keys a request writes -/

/-- The writes of a request. -/
def certWrites (lib : Library) (r : Request) : List (Write CertKey Served) :=
  match r.requestType with
  | some (.addCertificate add) =>
      match loaded lib (payloadCertificate add.address add.certificate) with
      | some (fp, served) => [⟨(add.address, fp), some served⟩]
      | none => []
  | some (.replaceCertificate replace) =>
      match loaded lib (payloadCertificate replace.address replace.newCertificate) with
      | some (fp, served) =>
          if replace.oldFingerprint = fp then [⟨(replace.address, fp), some served⟩]
          else [⟨(replace.address, replace.oldFingerprint), none⟩,
            ⟨(replace.address, fp), some served⟩]
      | none => []
  | some (.removeCertificate remove) => [⟨(remove.address, remove.fingerprint), none⟩]
  | _ => []

variable {lib : Library}

theorem payloadCertificate_certificateAndKey (c : Certificate) :
    payloadCertificate c.listener.toWire (certificateAndKey c) =
      { c with listener := c.listener.plain } := by
  simp [payloadCertificate, certificateAndKey]

/-- Sōzu decodes a chain as the translator does. -/
theorem linksAfter_eq_some {leaf : Der} {pems : List String} {chain : List Der} :
    linksAfter lib leaf pems = some chain ↔
      ∃ links, pems.mapM (decode lib) = .ok links ∧
        links.filter (fun link => link ≠ leaf) = chain := by
  induction pems generalizing chain with
  | nil => simp [linksAfter, pure, Except.pure]
  | cons pem pems ih =>
    rw [linksAfter, List.mapM_cons, decode]
    cases lib.parsePem pem with
    | error e => simp [bind, Except.bind]
    | ok link =>
      cases hrest : pems.mapM (decode lib) with
      | error e =>
        have hnone : linksAfter lib leaf pems = none := by
          refine Option.eq_none_iff_forall_ne_some.2 fun chain hchain => ?_
          obtain ⟨links, hlinks, -⟩ := ih.1 hchain
          rw [hrest] at hlinks
          cases hlinks
        simp [hnone, bind, Except.bind]
      | ok links =>
        have hsome := ih.2 ⟨links, hrest, rfl⟩
        by_cases hlink : link = leaf <;>
          simp [hsome, hlink, bind, Except.bind, pure, Except.pure]

/-- **Sōzu loads a certificate exactly when it parses**, under its fingerprint and with the chain
the translator compares. -/
theorem loaded_eq_some {c : Certificate} {fp : String} {served : Served} :
    loaded lib c = some (fp, served) ↔
      Parses lib c fp served.chain ∧ served.names = namesSet c := by
  obtain ⟨names, chain⟩ := served
  have hchain : ∀ leaf, lib.parsePem c.certificate = .ok leaf →
      (servedChain lib c = .ok chain ↔
        linksAfter lib leaf (c.chain.flatMap lib.splitCertificateChain) = some chain) := by
    intro leaf hleaf
    rw [linksAfter_eq_some, servedChain, decode, hleaf]
    cases (c.chain.flatMap lib.splitCertificateChain).mapM (decode lib) <;>
      simp [bind, Except.bind, pure, Except.pure]
  unfold loaded
  cases hdigest : lib.calculateFingerprint c.certificate with
  | error e =>
    have hno : ¬Parses lib c fp chain := fun h => by
      have hfp := h.fingerprint
      simp [fingerprint, hdigest] at hfp
    simp [hno]
  | ok digest =>
    cases hleaf : lib.parsePem c.certificate with
    | error e =>
      have hno : ¬Parses lib c fp chain := fun h => by
        have hserved := h.chain
        simp [servedChain, decode, hleaf, bind, Except.bind] at hserved
      simp [hno]
    | ok leaf =>
      have hfp : fingerprint lib c = .ok fp ↔ hex digest = fp := by
        simp [fingerprint, hdigest]
      simp only [Option.map_eq_some_iff, Prod.mk.injEq, Served.mk.injEq]
      constructor
      · rintro ⟨links, hlinks, hhex, rfl, rfl⟩
        exact ⟨⟨hfp.2 hhex, (hchain leaf hleaf).2 hlinks⟩, rfl⟩
      · rintro ⟨hparses, rfl⟩
        exact ⟨chain, (hchain leaf hleaf).1 hparses.chain, hfp.1 hparses.fingerprint, rfl, rfl⟩

theorem loaded_payload {k : KeyedCert} (hk : k.Valid lib) :
    loaded lib (payloadCertificate k.cert.listener.toWire (certificateAndKey k.cert)) =
      some (k.fingerprint, k.served) := by
  rw [payloadCertificate_certificateAndKey]
  exact loaded_eq_some.2 ⟨⟨hk.parses.fingerprint, hk.parses.chain⟩, rfl⟩

theorem certWrites_add {k : KeyedCert} (hk : k.Valid lib) :
    certWrites lib (addCertificateRequest k.cert) = [k.load] := by
  unfold certWrites addCertificateRequest
  simp only [RequestType.into, loaded_payload hk]
  rw [hk.listener]
  rfl

theorem certWrites_update {k : KeyedCert} (hk : k.Valid lib) :
    certWrites lib (replaceCertificateRequest k.cert k.fingerprint) = [k.load] := by
  unfold certWrites replaceCertificateRequest
  simp only [RequestType.into, loaded_payload hk, if_true]
  rw [hk.listener]
  rfl

theorem certWrites_rotate {k old : KeyedCert} (hk : k.Valid lib)
    (hlistener : old.listener = k.listener) (hne : old.fingerprint ≠ k.fingerprint) :
    certWrites lib (replaceCertificateRequest k.cert old.fingerprint) = [old.unload, k.load] := by
  unfold certWrites replaceCertificateRequest
  simp only [RequestType.into, loaded_payload hk, if_neg hne]
  rw [hk.listener]
  simp only [KeyedCert.unload, KeyedCert.load, KeyedCert.certKey, hlistener]

theorem certWrites_remove (old : KeyedCert) :
    certWrites lib (removeRequest old) = [old.unload] := rfl

/-! ## Rotations -/

theorem map_fst_pairRotations (added removed : List KeyedCert) :
    (pairRotations added removed).1.map Prod.fst = added := by
  induction added generalizing removed with
  | nil => rfl
  | cons new added ih =>
    rw [pairRotations]
    cases removed.find? (rotates new) with
    | none => simp [ih]
    | some old => simp [ih]

theorem fst_mem_of_mem_pairRotations {added removed : List KeyedCert}
    {pair : KeyedCert × Option KeyedCert} (h : pair ∈ (pairRotations added removed).1) :
    pair.1 ∈ added := by
  rw [← map_fst_pairRotations added removed]
  exact List.mem_map_of_mem h

/-- The removed certificates are those rotated and those left. -/
theorem pairRotations_perm (added removed : List KeyedCert) :
    ((pairRotations added removed).1.filterMap Prod.snd ++ (pairRotations added removed).2).Perm
      removed := by
  induction added generalizing removed with
  | nil => simp [pairRotations]
  | cons new added ih =>
    rw [pairRotations]
    cases hfind : removed.find? (rotates new) with
    | none => simpa using ih removed
    | some old =>
      obtain ⟨hold, before, after, hsplit, hbefore⟩ := List.find?_eq_some_iff_append.1 hfind
      have herase : removed.eraseP (rotates new) = before ++ after := by
        rw [hsplit, List.eraseP_append_right _ (fun b hb => by simpa using hbefore b hb),
          List.eraseP_cons_of_pos hold]
      simp only [List.filterMap_cons, List.cons_append]
      rw [herase, hsplit]
      refine ((ih (before ++ after)).cons old).trans ?_
      exact List.perm_middle.symm

/-- A rotation pairs certificates of one listener and one name set. -/
theorem rotates_of_mem_pairRotations {added removed : List KeyedCert} {new old : KeyedCert}
    (h : (new, some old) ∈ (pairRotations added removed).1) :
    new ∈ added ∧ old ∈ removed ∧ rotates new old = true := by
  induction added generalizing removed with
  | nil => simp [pairRotations] at h
  | cons new' added ih =>
    rw [pairRotations] at h
    cases hfind : removed.find? (rotates new') with
    | none =>
      simp only [hfind, List.mem_cons, Prod.mk.injEq, reduceCtorEq, and_false, false_or] at h
      obtain ⟨hnew, hold, hrot⟩ := ih h
      exact ⟨by simp [hnew], hold, hrot⟩
    | some old' =>
      simp only [hfind, List.mem_cons, Prod.mk.injEq, Option.some.injEq] at h
      rcases h with ⟨rfl, rfl⟩ | h
      · exact ⟨by simp, List.mem_of_find?_eq_some hfind, List.find?_some hfind⟩
      · obtain ⟨hnew, hold, hrot⟩ := ih h
        exact ⟨by simp [hnew], List.mem_of_mem_eraseP hold, hrot⟩

/-! ## The writes of the diff -/

/-- The writes that turn one list of groups into another. -/
def planWrites (prev des : List KeyedCert) : List (Write CertKey Served) :=
  (updates prev des).map (fun u => u.2.load) ++ (addedCerts prev des).map KeyedCert.load ++
    (removedCerts prev des).map KeyedCert.unload

theorem partner_eq_some {ks : List KeyedCert} {k p : KeyedCert} (h : partner ks k = some p) :
    p ∈ ks ∧ p.key = k.key := by
  refine ⟨List.mem_of_find?_eq_some h, ?_⟩
  simpa using List.find?_some h

theorem partner_eq_none {ks : List KeyedCert} {k : KeyedCert} :
    partner ks k = none ↔ ∀ p ∈ ks, p.key ≠ k.key := by
  simp [partner]

theorem mem_updates {prev des : List KeyedCert} {u : KeyedCert × KeyedCert} :
    u ∈ updates prev des ↔
      u.2 ∈ des ∧ partner prev u.2 = some u.1 ∧ changed u.1 u.2 = true := by
  unfold updates
  simp only [List.mem_filterMap, Option.bind_eq_some_iff, Option.ite_none_right_eq_some,
    Option.some.injEq]
  constructor
  · rintro ⟨d, hd, p, hp, hchanged, rfl⟩
    exact ⟨hd, hp, hchanged⟩
  · rintro ⟨hd, hp, hchanged⟩
    exact ⟨u.2, hd, u.1, hp, hchanged, rfl⟩

theorem mem_addedCerts {prev des : List KeyedCert} {d : KeyedCert} :
    d ∈ addedCerts prev des ↔ d ∈ des ∧ ∀ p ∈ prev, p.key ≠ d.key := by
  simp [addedCerts, partner_eq_none]

theorem mem_removedCerts {prev des : List KeyedCert} {p : KeyedCert} :
    p ∈ removedCerts prev des ↔ p ∈ prev ∧ ∀ d ∈ des, d.key ≠ p.key := by
  simp [removedCerts, partner_eq_none]

theorem rotates_iff {new old : KeyedCert} : rotates new old = true ↔
    old.listener = new.listener ∧ namesSet old.cert = namesSet new.cert := by
  simp [rotates]

theorem map_request_zip (trades : List Trade) {order : List ℕ}
    (h : order.length = trades.length) :
    (trades.zip order).map (fun t => t.1.request) = trades.map Trade.request := by
  have hmap : (trades.zip order).map (fun t => t.1.request) =
      ((trades.zip order).map Prod.fst).map Trade.request := by
    rw [List.map_map]
    rfl
  rw [hmap, List.map_fst_zip (by omega)]

/-- **The requests of the diff, in no order**: one for each update, each added
certificate and each removed certificate no rotation took. -/
theorem certDiff_perm (lib : Library) (prev des : List KeyedCert) :
    ((certDiff lib prev des).map Prod.snd).Perm
      ((updates prev des).map updateRequest ++
        (pairRotations (addedCerts prev des) (removedCerts prev des)).1.map addRequest ++
        (pairRotations (addedCerts prev des) (removedCerts prev des)).2.map removeRequest) := by
  have hupdates : (((updates prev des).filter fun u => !isTrade u).map updateRequest ++
      ((updates prev des).filter fun u => isTrade u).map updateRequest).Perm
        ((updates prev des).map updateRequest) := by
    rw [← List.map_append]
    refine List.Perm.map _ ?_
    simpa using List.filter_append_perm (fun u => !isTrade u) (updates prev des)
  have htrades : ((tradesOf prev des).zip (transferOrder lib (tradesOf prev des))).map
      (fun t => t.1.request) =
        ((updates prev des).filter fun u => isTrade u).map updateRequest := by
    rw [map_request_zip _ (by simp), tradesOf, List.map_map]
    rfl
  unfold certDiff
  simp only [List.map_append, List.map_map, Function.comp_def]
  rw [htrades]
  exact (hupdates.append_right _).append_right _

/-- The groups of a list parse. -/
def AllValid (lib : Library) (ks : List KeyedCert) : Prop := ∀ k ∈ ks, k.Valid lib

/-- A rotation changes the fingerprint: the one it removes is not desired. -/
theorem fingerprint_ne_of_rotates {prev des : List KeyedCert} {new old : KeyedCert}
    (hnew : new ∈ des) (hold : old ∈ removedCerts prev des) (hrot : rotates new old = true) :
    old.fingerprint ≠ new.fingerprint := by
  intro heq
  have hkey : new.key = old.key := by simp [KeyedCert.key, (rotates_iff.1 hrot).1, heq]
  exact (mem_removedCerts.1 hold).2 new hnew hkey

theorem certWrites_addRequest {prev des : List KeyedCert} (hdes : AllValid lib des)
    {pair : KeyedCert × Option KeyedCert}
    (h : pair ∈ (pairRotations (addedCerts prev des) (removedCerts prev des)).1) :
    certWrites lib (addRequest pair) = (pair.2.toList.map KeyedCert.unload) ++ [pair.1.load] := by
  obtain ⟨new, old⟩ := pair
  have hnew : new ∈ addedCerts prev des := fst_mem_of_mem_pairRotations h
  have hvalid := hdes new (mem_addedCerts.1 hnew).1
  cases old with
  | none => exact certWrites_add hvalid
  | some old =>
    obtain ⟨-, hold, hrot⟩ := rotates_of_mem_pairRotations h
    exact certWrites_rotate hvalid (rotates_iff.1 hrot).1
      (fingerprint_ne_of_rotates (mem_addedCerts.1 hnew).1 hold hrot)

theorem flatMap_pairs_perm {α β : Type} (f : α → β) (g : α → β)
    (pairs : List (α × Option α)) :
    (pairs.flatMap fun p => (p.2.toList.map g) ++ [f p.1]).Perm
      ((pairs.map Prod.fst).map f ++ (pairs.filterMap Prod.snd).map g) := by
  induction pairs with
  | nil => simp
  | cons p pairs ih =>
    obtain ⟨a, b⟩ := p
    cases b with
    | none => simpa using ih.cons (f a)
    | some b =>
      simp only [List.flatMap_cons, Option.toList_some, List.map_cons, List.map_nil,
        List.cons_append, List.nil_append, List.filterMap_cons]
      refine (List.Perm.swap _ _ _).trans ((ih.cons (g b)).cons (f a) |>.trans ?_)
      exact (List.perm_middle.symm).cons (f a)

/-- **The keys the requests of the diff write, and what with.** -/
theorem certWrites_certDiff {prev des : List KeyedCert} (hdes : AllValid lib des) :
    (((certDiff lib prev des).map Prod.snd).flatMap (certWrites lib)).Perm
      (planWrites prev des) := by
  refine ((certDiff_perm lib prev des).flatMap_right _).trans ?_
  set pairs := (pairRotations (addedCerts prev des) (removedCerts prev des)).1 with hpairs
  set left := (pairRotations (addedCerts prev des) (removedCerts prev des)).2 with hleft
  have hupdates : ((updates prev des).map updateRequest).flatMap (certWrites lib) =
      (updates prev des).map fun u => u.2.load := by
    rw [List.flatMap_map, ← List.flatMap_singleton' (List.map _ _), List.flatMap_map]
    refine List.flatMap_congr fun u hu => ?_
    exact certWrites_update (hdes u.2 (mem_updates.1 hu).1)
  have hadds : (pairs.map addRequest).flatMap (certWrites lib) =
      pairs.flatMap fun p => (p.2.toList.map KeyedCert.unload) ++ [p.1.load] := by
    rw [List.flatMap_map]
    exact List.flatMap_congr fun p hp => certWrites_addRequest hdes hp
  have hremoves : (left.map removeRequest).flatMap (certWrites lib) =
      left.map KeyedCert.unload := by
    rw [List.flatMap_map, ← List.flatMap_singleton' (List.map _ _), List.flatMap_map]
    exact List.flatMap_congr fun old _ => certWrites_remove old
  rw [List.flatMap_append, List.flatMap_append, hupdates, hadds, hremoves, planWrites,
    List.append_assoc, List.append_assoc]
  refine List.Perm.append_left _ ?_
  refine ((flatMap_pairs_perm KeyedCert.load KeyedCert.unload pairs).append_right _).trans ?_
  rw [hpairs, map_fst_pairRotations, List.append_assoc, ← List.map_append]
  exact List.Perm.append_left _ ((pairRotations_perm _ _).map _)

/-! ## Each key is written once -/

/-- The listeners of the groups carry nothing Sōzu's wire address drops. -/
def AllPlain (ks : List KeyedCert) : Prop := ∀ k ∈ ks, k.listener.IsPlain

theorem certKey_eq_iff {k k' : KeyedCert} (hk : k.listener.IsPlain) (hk' : k'.listener.IsPlain) :
    k.certKey = k'.certKey ↔ k.key = k'.key := by
  unfold KeyedCert.certKey KeyedCert.key
  rw [Prod.mk.injEq, Prod.mk.injEq, SocketAddress.toWire_eq_iff, hk, hk']

theorem nodup_certKey {ks : List KeyedCert} (hnd : (ks.map KeyedCert.key).Nodup)
    (hplain : AllPlain ks) : (ks.map KeyedCert.certKey).Nodup := by
  refine List.Nodup.map_on (fun k hk k' hk' h => ?_) (List.Nodup.of_map _ hnd)
  exact inj_of_nodup_map hnd hk hk' ((certKey_eq_iff (hplain k hk) (hplain k' hk')).1 h)

theorem map_snd_updates_sublist (prev des : List KeyedCert) :
    ((updates prev des).map Prod.snd).Sublist des := by
  induction des with
  | nil => exact .slnil
  | cons d des ih =>
    unfold updates at ih ⊢
    rw [List.filterMap_cons]
    cases hp : partner prev d with
    | none => simpa [hp] using ih.cons d
    | some p =>
      by_cases hc : changed p d = true
      · simpa [hp, hc] using ih
      · simpa [hp, hc] using ih.cons d

/-- **Each key is written at most once.** -/
theorem nodup_slot_planWrites {prev des : List KeyedCert} (hprev : (prev.map KeyedCert.key).Nodup)
    (hdes : (des.map KeyedCert.key).Nodup) (hplain : AllPlain (prev ++ des)) :
    ((planWrites prev des).map Write.slot).Nodup := by
  have hpprev : AllPlain prev := fun k hk => hplain k (List.mem_append_left _ hk)
  have hpdes : AllPlain des := fun k hk => hplain k (List.mem_append_right _ hk)
  have hkeys := nodup_certKey hdes hpdes
  have hslots : (planWrites prev des).map Write.slot =
      ((updates prev des).map Prod.snd).map KeyedCert.certKey ++
        (addedCerts prev des).map KeyedCert.certKey ++
          (removedCerts prev des).map KeyedCert.certKey := by
    simp [planWrites, Function.comp_def, KeyedCert.load, KeyedCert.unload]
  rw [hslots, List.nodup_append, List.nodup_append]
  refine ⟨⟨hkeys.sublist ((map_snd_updates_sublist prev des).map _),
    hkeys.sublist (List.filter_sublist.map _), ?_⟩,
    (nodup_certKey hprev hpprev).sublist (List.filter_sublist.map _), ?_⟩
  · -- an update has a partner, an added certificate has none
    intro x hx y hy hxy
    obtain ⟨d, hd, rfl⟩ := List.mem_map.1 hx
    obtain ⟨u, hu, rfl⟩ := List.mem_map.1 hd
    obtain ⟨d', hd', rfl⟩ := List.mem_map.1 hy
    obtain ⟨hu2, hpartner, -⟩ := mem_updates.1 hu
    obtain ⟨hd'mem, hnone⟩ := mem_addedCerts.1 hd'
    have hkey := (certKey_eq_iff (hpdes _ hu2) (hpdes _ hd'mem)).1 hxy
    obtain ⟨hp, hpkey⟩ := partner_eq_some hpartner
    exact hnone u.1 hp (hpkey.trans hkey)
  · -- what is removed is not desired
    intro x hx y hy hxy
    obtain ⟨p, hp, rfl⟩ := List.mem_map.1 hy
    obtain ⟨hpmem, hnone⟩ := mem_removedCerts.1 hp
    have hd : ∃ d ∈ des, d.certKey = x := by
      rcases List.mem_append.1 hx with hx | hx
      · obtain ⟨d, hd, rfl⟩ := List.mem_map.1 hx
        exact ⟨d, (map_snd_updates_sublist prev des).subset hd, rfl⟩
      · obtain ⟨d, hd, rfl⟩ := List.mem_map.1 hx
        exact ⟨d, (mem_addedCerts.1 hd).1, rfl⟩
    obtain ⟨d, hd, rfl⟩ := hd
    exact hnone d hd ((certKey_eq_iff (hpdes d hd) (hpprev p hpmem)).1 hxy)

/-! ## The store it leads to -/

theorem certStore_eq_some {ks : List KeyedCert} (hnd : (ks.map KeyedCert.key).Nodup)
    (hplain : AllPlain ks) {k : KeyedCert} (hk : k ∈ ks) :
    certStore ks k.certKey = some k.served := by
  have hfind : (ks.find? fun k' => k'.certKey = k.certKey) = some k :=
    (find?_eq_some_iff_of_nodup (nodup_certKey hnd hplain) fun a => by simp).2 ⟨hk, rfl⟩
  rw [certStore, hfind, Option.map_some]

theorem certStore_eq_none {ks : List KeyedCert} {key : CertKey} (h : ∀ k ∈ ks, k.certKey ≠ key) :
    certStore ks key = none := by
  have hfind : (ks.find? fun k => k.certKey = key) = none := by
    simpa using h
  rw [certStore, hfind, Option.map_none]

theorem served_eq_of_not_changed {p d : KeyedCert} (h : changed p d = false) :
    p.served = d.served := by
  unfold changed at h
  simp only [decide_eq_false_iff_not, not_or, not_not] at h
  unfold KeyedCert.served
  rw [h.1, h.2]

theorem changed_iff {p d : KeyedCert} : changed p d = true ↔ p.served ≠ d.served := by
  constructor
  · intro h heq
    unfold changed at h
    simp only [decide_eq_true_eq] at h
    simp only [KeyedCert.served, Served.mk.injEq] at heq
    rcases h with h | h
    · exact h heq.1
    · exact h heq.2
  · intro h
    by_contra hc
    exact h (served_eq_of_not_changed (by simpa using hc))

/-- **The writes of the diff turn the previous store into the desired one.** -/
theorem run_planWrites {prev des : List KeyedCert} (hprev : (prev.map KeyedCert.key).Nodup)
    (hdes : (des.map KeyedCert.key).Nodup) (hplain : AllPlain (prev ++ des))
    {ws : List (Write CertKey Served)} (hws : ws.Perm (planWrites prev des)) :
    run (certStore prev) ws = certStore des := by
  have hpprev : AllPlain prev := fun k hk => hplain k (List.mem_append_left _ hk)
  have hpdes : AllPlain des := fun k hk => hplain k (List.mem_append_right _ hk)
  have hnd : (ws.map Write.slot).Nodup :=
    (hws.map Write.slot).nodup_iff.2 (nodup_slot_planWrites hprev hdes hplain)
  have hwrite : ∀ w ∈ planWrites prev des, run (certStore prev) ws w.slot = w.value := fun w hw =>
    run_of_nodup hnd (hws.mem_iff.2 hw) _
  funext key
  by_cases hd : ∃ d ∈ des, d.certKey = key
  · obtain ⟨d, hd, rfl⟩ := hd
    rw [certStore_eq_some hdes hpdes hd]
    cases hp : partner prev d with
    | none =>
      have hadded : d ∈ addedCerts prev des := mem_addedCerts.2 ⟨hd, partner_eq_none.1 hp⟩
      exact hwrite d.load (by simp [planWrites, List.mem_map_of_mem hadded])
    | some p =>
      by_cases hc : changed p d = true
      · have hu : (p, d) ∈ updates prev des := mem_updates.2 ⟨hd, hp, hc⟩
        refine hwrite d.load ?_
        exact List.mem_append_left _ (List.mem_append_left _
          (List.mem_map_of_mem (f := fun u : KeyedCert × KeyedCert => u.2.load) hu))
      · -- an unchanged certificate is written by nothing
        obtain ⟨hpmem, hkey⟩ := partner_eq_some hp
        have hcert := (certKey_eq_iff (hpprev p hpmem) (hpdes d hd)).2 hkey
        rw [run_of_forall_ne, ← hcert, certStore_eq_some hprev hpprev hpmem,
          served_eq_of_not_changed (by simpa using hc)]
        intro w hw hslot
        rw [hws.mem_iff] at hw
        simp only [planWrites, List.mem_append, List.mem_map] at hw
        rcases hw with (⟨u, hu, rfl⟩ | ⟨d', hd', rfl⟩) | ⟨p', hp', rfl⟩
        · obtain ⟨hu2, hpartner, hchanged⟩ := mem_updates.1 hu
          have hsame := inj_of_nodup_map (nodup_certKey hdes hpdes) hu2 hd hslot
          rw [hsame] at hpartner hchanged
          obtain rfl := Option.some.inj (hp.symm.trans hpartner)
          exact hc hchanged
        · obtain ⟨hd'mem, hnone⟩ := mem_addedCerts.1 hd'
          have hsame := inj_of_nodup_map (nodup_certKey hdes hpdes) hd'mem hd hslot
          rw [hsame] at hnone
          exact hnone p hpmem hkey
        · obtain ⟨hp'mem, hnone⟩ := mem_removedCerts.1 hp'
          exact hnone d hd ((certKey_eq_iff (hpdes d hd) (hpprev p' hp'mem)).1 hslot.symm)
  · have hnone : ∀ d ∈ des, d.certKey ≠ key := fun d hd' heq => hd ⟨d, hd', heq⟩
    rw [certStore_eq_none hnone]
    by_cases hp : ∃ p ∈ prev, p.certKey = key
    · obtain ⟨p, hp, rfl⟩ := hp
      have hremoved : p ∈ removedCerts prev des := by
        refine mem_removedCerts.2 ⟨hp, fun d hd' hkey => ?_⟩
        exact hnone d hd' ((certKey_eq_iff (hpdes d hd') (hpprev p hp)).2 hkey)
      exact hwrite p.unload (by simp [planWrites, List.mem_map_of_mem hremoved])
    · have hnone' : ∀ p ∈ prev, p.certKey ≠ key := fun p hp' heq => hp ⟨p, hp', heq⟩
      rw [run_of_forall_ne, certStore_eq_none hnone']
      intro w hw hslot
      rw [hws.mem_iff] at hw
      simp only [planWrites, List.mem_append, List.mem_map] at hw
      rcases hw with (⟨u, hu, rfl⟩ | ⟨d', hd', rfl⟩) | ⟨p', hp', rfl⟩
      · exact hnone u.2 (mem_updates.1 hu).1 hslot
      · exact hnone d' (mem_addedCerts.1 hd').1 hslot
      · exact hnone' p' (mem_removedCerts.1 hp').1 hslot

/-! ## Applying the requests -/

/-- Every add of the list is of a key the store does not hold. -/
def AddsFree (lib : Library) (S : CertStore) (rs : List Request) : Prop :=
  ∀ r ∈ rs, ∀ add, r.requestType = some (.addCertificate add) →
    ∀ w ∈ certWrites lib r, S w.slot = none

/-- A request's effect is its writes, when an add is of a key not held. -/
theorem apply_eq_run {S : CertStore} {r : Request} (h : AddsFree lib S [r]) :
    CertStore.apply lib S r = run S (certWrites lib r) := by
  unfold CertStore.apply
  have hfree := h r (by simp)
  unfold certWrites at hfree ⊢
  obtain ⟨t⟩ := r
  cases t with
  | none => rfl
  | some t =>
    cases t <;> try rfl
    case addCertificate add =>
      simp only at hfree ⊢
      cases hload : loaded lib (payloadCertificate add.address add.certificate) with
      | none => rfl
      | some x =>
        obtain ⟨fp, served⟩ := x
        have hnone : S (add.address, fp) = none := by
          simpa [hload] using hfree add rfl
        simp only [if_pos hnone]
        rfl
    case replaceCertificate replace =>
      simp only
      cases hload : loaded lib (payloadCertificate replace.address replace.newCertificate) with
      | none => rfl
      | some x =>
        obtain ⟨fp, served⟩ := x
        simp only
        by_cases hfp : replace.oldFingerprint = fp
        · rw [if_pos hfp, hfp, Function.update_idem]
          rfl
        · rw [if_neg hfp]
          rfl

/-- **Requests that write each key once have the effect of their writes.** -/
theorem foldl_apply {S : CertStore} {rs : List Request}
    (hnd : ((rs.flatMap (certWrites lib)).map Write.slot).Nodup) (hfree : AddsFree lib S rs) :
    rs.foldl (CertStore.apply lib) S = run S (rs.flatMap (certWrites lib)) := by
  induction rs generalizing S with
  | nil => rfl
  | cons r rs ih =>
    rw [List.flatMap_cons, List.map_append, List.nodup_append] at hnd
    rw [List.foldl_cons, List.flatMap_cons, run_append,
      apply_eq_run fun r' hr' => hfree r' (by simp_all)]
    refine ih hnd.2.1 fun r' hr' add hadd w hw => ?_
    rw [run_of_forall_ne]
    · exact hfree r' (by simp [hr']) add hadd w hw
    · intro w' hw' heq
      refine hnd.2.2 w'.slot (List.mem_map_of_mem hw') w.slot ?_ heq
      exact List.mem_map_of_mem (List.mem_flatMap.2 ⟨r', hr', hw⟩)

/-- The adds of the diff are of keys not held. -/
theorem addsFree_certDiff {prev des : List KeyedCert} (hdes : AllValid lib des)
    (hplain : AllPlain (prev ++ des)) {rs : List Request}
    (hrs : ∀ r ∈ rs, r ∈ (certDiff lib prev des).map Prod.snd) :
    AddsFree lib (certStore prev) rs := by
  intro r hr add hadd w hw
  have hmem := (certDiff_perm lib prev des).mem_iff.1 (hrs r hr)
  simp only [List.mem_append, List.mem_map] at hmem
  rcases hmem with (⟨u, hu, rfl⟩ | ⟨pair, hpair, rfl⟩) | ⟨old, hold, rfl⟩
  · cases hadd
  · rw [certWrites_addRequest hdes hpair] at hw
    have hnew : pair.1 ∈ addedCerts prev des := fst_mem_of_mem_pairRotations hpair
    obtain ⟨new, old⟩ := pair
    cases old with
    | some old => cases hadd
    | none =>
      simp only [Option.toList_none, List.map_nil, List.nil_append, List.mem_singleton] at hw
      subst hw
      obtain ⟨hnewmem, hnone⟩ := mem_addedCerts.1 hnew
      refine certStore_eq_none fun p hp heq => hnone p hp ?_
      exact (certKey_eq_iff (hplain p (List.mem_append_left _ hp))
        (hplain new (List.mem_append_right _ hnewmem))).1 heq
  · cases hadd

end Translator

end SozuGateway
