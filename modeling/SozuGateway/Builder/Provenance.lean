import SozuGateway.Builder.Build
import SozuGateway.Lib.Traverse
import SozuGateway.Lib.Filled

/-!
# Where frontends and certificates come from

Every frontend and every certificate a walk emits, traced back to the objects it was read
from.

* `FromIngress` — a frontend of an Ingress: its backend, and the certificate behind it.
* `Serves`, `Carries` — a programmed listener as its Gateway declared it, and its
  certificates.
* `ReadFrom`, `FromGateway` — a certificate, and the Secret it was read from.
-/

set_option autoImplicit false

namespace SozuGateway

namespace Builder

open Lib

/-! ## Reports -/

/-- The emission is neither a frontend nor a certificate. -/
def Emission.IsReport (e : Emission) : Prop := e.frontend? = none ∧ e.certificate? = none

theorem Emission.IsReport.not_frontend {sf : SourcedFrontend} :
    ¬(Emission.frontend sf).IsReport := fun h => Option.noConfusion rfl (heq_of_eq h.1)

theorem Emission.IsReport.not_certificate {cert : ClaimedCert} :
    ¬(Emission.certificate cert).IsReport := fun h => Option.noConfusion rfl (heq_of_eq h.2)

/-- Nothing but reports. -/
def Reports (emissions : List Emission) : Prop := ∀ e ∈ emissions, e.IsReport

theorem Reports.nil : Reports [] := fun _ h => absurd h List.not_mem_nil

theorem Reports.append {l l' : List Emission} (h : Reports l) (h' : Reports l') :
    Reports (l ++ l') := fun e he => (List.mem_append.1 he).elim (h e) (h' e)

theorem Reports.singleton {e : Emission} (h : e.IsReport) : Reports [e] := by
  intro e' he'
  obtain rfl := List.mem_singleton.1 he'
  exact h

/-- The emission is only about the status of its object. -/
def Emission.IsRemark : Emission → Prop
  | .problem _ | .problemOnce _ | .failRef _ | .override _ => True
  | _ => False

/-- Nothing but remarks. -/
def Remarks (emissions : List Emission) : Prop := ∀ e ∈ emissions, e.IsRemark

theorem Remarks.nil : Remarks [] := fun _ h => absurd h List.not_mem_nil

theorem Remarks.append {l l' : List Emission} (h : Remarks l) (h' : Remarks l') :
    Remarks (l ++ l') := fun e he => (List.mem_append.1 he).elim (h e) (h' e)

theorem Remarks.singleton {e : Emission} (h : e.IsRemark) : Remarks [e] := by
  intro e' he'
  obtain rfl := List.mem_singleton.1 he'
  exact h

theorem Remarks.reports {l : List Emission} (h : Remarks l) : Reports l := by
  intro e he
  have hremark := h e he
  cases e <;> first | exact ⟨rfl, rfl⟩ | exact hremark.elim

theorem remarks_problem (p : Problem) : Remarks [.problem p] := .singleton trivial

theorem remarks_failRef (p : Problem) (reason : String) : Remarks (failRef p reason) :=
  (remarks_problem p).append (.singleton (e := .failRef reason) trivial)

theorem remarks_warn (problem : Option Problem) : Remarks (warn problem) := by
  intro e he
  obtain ⟨p, -, rfl⟩ := List.mem_map.1 he
  exact trivial

/-- A list with one remark at most. -/
theorem remarks_ite {c : Prop} [Decidable c] {p : Problem} :
    Remarks (if c then [] else [Emission.problem p]) := by
  split
  · exact .nil
  · exact remarks_problem p

theorem reports_problem (p : Problem) : Reports [.problem p] := (remarks_problem p).reports

theorem reports_failRef (p : Problem) (reason : String) : Reports (failRef p reason) :=
  (remarks_failRef p reason).reports

/-- A step that succeeds before another. -/
theorem bind_eq_ok {ε α β : Type} {x : Except ε α} {f : α → Except ε β} {b : β}
    (h : x >>= f = .ok b) : ∃ a, x = .ok a ∧ f a = .ok b := by
  cases x with
  | error e => cases h
  | ok a => exact ⟨a, rfl, h⟩

section Walks

variable [External] [CharTable]

/-- Resolving a reference only reports, and asks for a cluster. -/
theorem reports_addServiceRoute (index : Index) (ns service : String) (portRef : PortRef) :
    Reports (addServiceRoute index ns service portRef).emissions := by
  intro e he
  unfold addServiceRoute at he
  split at he
  · obtain rfl := List.mem_singleton.1 he
    exact ⟨rfl, rfl⟩
  · simp only [List.cons_append, List.append_assoc, List.mem_cons, List.mem_append,
      List.not_mem_nil, or_false] at he
    rcases he with rfl | he | he | rfl
    · exact ⟨rfl, rfl⟩
    · obtain ⟨_, -, rfl⟩ := List.mem_map.1 he
      exact ⟨rfl, rfl⟩
    · split at he
      · exact absurd he List.not_mem_nil
      · obtain rfl := List.mem_singleton.1 he
        exact ⟨rfl, rfl⟩
    · exact ⟨rfl, rfl⟩

omit [External] [CharTable] in
theorem reports_configure (protocol : HttpBackendProtocol) (clusterId : String) :
    Reports (protocol.configure clusterId) := by
  intro e he
  unfold HttpBackendProtocol.configure at he
  split at he
  · obtain rfl := List.mem_singleton.1 he
    exact ⟨rfl, rfl⟩
  · exact absurd he List.not_mem_nil

/-! ## Ingresses -/

section Ingress

variable {cfg : BuildConfig} {index : Index} {sf : SourcedFrontend} {cert : ClaimedCert}

omit [CharTable] in
/-- An extracted certificate is for the listener, and keeps the names it was given. -/
theorem extractCert_eq_ok {secret : Secret} {listener : SocketAddr} {names : List String}
    {cert : FingerprintedCert} (h : extractCert secret listener names = .ok cert) :
    cert.cert.listener = listener ∧ (names ≠ [] → cert.cert.names = names) := by
  unfold extractCert at h
  obtain ⟨data, -, h⟩ := bind_eq_ok h
  obtain ⟨crt, -, h⟩ := bind_eq_ok h
  obtain ⟨key, -, h⟩ := bind_eq_ok h
  obtain ⟨crt, -, h⟩ := bind_eq_ok h
  obtain ⟨key, -, h⟩ := bind_eq_ok h
  split at h
  · cases h
  · obtain ⟨der, -, h⟩ := bind_eq_ok h
    obtain ⟨inferred, -, h⟩ := bind_eq_ok h
    obtain ⟨kept, hkept, h⟩ := bind_eq_ok h
    obtain ⟨-, -, h⟩ := bind_eq_ok h
    obtain ⟨signing, -, h⟩ := bind_eq_ok h
    obtain ⟨-, -, h⟩ := bind_eq_ok h
    obtain rfl := Except.ok.inj h
    refine ⟨rfl, fun hnames => ?_⟩
    rw [namesOrInferred, if_neg hnames] at hkept
    exact (Except.ok.inj hkept).symm

/-- The certificate was read from the Secret it names, in a namespace. -/
def ReadFrom (index : Index) (namespace_ : String) (cert : ClaimedCert) : Prop :=
  ∃ secret listener names, index.secrets[objectKey namespace_ cert.secret]? = some secret ∧
    extractCert secret listener names = .ok cert.cert

/-- What a TLS entry emits: certificates of the Ingress's own namespace, which name the
hosts it makes ready. -/
structure TlsEntry.Traced (cfg : BuildConfig) (index : Index) (nn : String × String)
    (entry : TlsEntry) : Prop where
  ready : ∀ host ∈ entry.hosts, ∃ cert, .certificate cert ∈ entry.emissions ∧
    host ∈ cert.names ∧ cfg.bindFor .https = some cert.cert.cert.listener
  frontends : ∀ sf, .frontend sf ∉ entry.emissions
  certificates : ∀ cert, .certificate cert ∈ entry.emissions →
    cert.source = .ingress nn.1 nn.2 ∧ ReadFrom index nn.1 cert

omit [CharTable] in
theorem TlsEntry.traced_problem (cfg : BuildConfig) (index : Index) (nn : String × String)
    (p : Problem) : TlsEntry.Traced cfg index nn { emissions := [.problem p] } where
  ready := fun _ h => absurd h List.not_mem_nil
  frontends := by simp
  certificates := by simp

omit [CharTable] in
theorem ingressTls_traced {nn : String × String} {tls : IngressTls} {entry : TlsEntry}
    (h : ingressTls cfg index nn tls = some entry) : entry.Traced cfg index nn := by
  unfold ingressTls at h
  dsimp only at h
  split at h
  · exact Option.some.inj h ▸ TlsEntry.traced_problem ..
  split at h
  · exact Option.some.inj h ▸ TlsEntry.traced_problem ..
  rename_i hhosts
  split at h
  · exact Option.some.inj h ▸ TlsEntry.traced_problem ..
  rename_i secret hsecret
  obtain ⟨bind, hbind, h⟩ := Option.map_eq_some_iff.1 h
  split at h
  · rename_i cert hcert
    subst h
    obtain ⟨hlistener, hnames⟩ := extractCert_eq_ok hcert
    refine ⟨fun host hhost => ⟨_, List.mem_singleton_self _, ?_, ?_⟩, by simp, ?_⟩
    · show host ∈ cert.cert.names
      rw [hnames hhosts]
      exact hhost
    · rw [hbind]
      exact congrArg some hlistener.symm
    · intro claimed hclaimed
      obtain rfl := Emission.certificate.inj (List.mem_singleton.1 hclaimed)
      exact ⟨rfl, secret, bind, _, hsecret, hcert⟩
  · exact h ▸ TlsEntry.traced_problem ..

/-- The cluster of a Service port a reference resolved to. -/
def ResolvedTo (index : Index) (namespace_ service clusterId : String) : Prop :=
  ∃ portRef hasEndpoints,
    (addServiceRoute index namespace_ service portRef).result = .ok (clusterId, hasEndpoints)

/-- A frontend of an Ingress that emitted `emissions`: it is for a Service of the Ingress's
own namespace, and an HTTPS one has a certificate that covers its host. -/
structure FromIngress (cfg : BuildConfig) (index : Index) (nn : String × String)
    (emissions : List Emission) (sf : SourcedFrontend) : Prop where
  source : sf.source = .ingress nn.1 nn.2
  backend : ∃ service clusterId, ResolvedTo index nn.1 service clusterId ∧
    sf.frontend.clusterId = some clusterId
  certified : sf.frontend.tls = true → ∃ cert, .certificate cert ∈ emissions ∧
    cert.cert.cert.listener = sf.frontend.listener ∧ tlsCovers cert.names sf.frontend.hostname

omit [External] [CharTable] in
/-- The frontends of a path: on HTTPS only when the host has a certificate. -/
theorem frontend_of_ingressFrontends {source : FrontendSource} {host : String} {path : PathMatch}
    {clusterId : String} {hostHasTls redirect : Bool} {emissions : List Emission}
    (h : ingressFrontends cfg source host path clusterId hostHasTls redirect = some emissions)
    {e : Emission} (he : e ∈ emissions) :
    ∃ sf, e = .frontend sf ∧ sf.source = source ∧ sf.frontend.hostname = host ∧
      sf.frontend.clusterId = some clusterId ∧
        (sf.frontend.tls = true → hostHasTls = true ∧
          cfg.bindFor .https = some sf.frontend.listener) := by
  unfold ingressFrontends at h
  obtain ⟨http, -, h⟩ := Option.bind_eq_some_iff.1 h
  cases hostHasTls with
  | false =>
      obtain rfl : [_] = emissions := Option.some.inj h
      obtain rfl := List.mem_singleton.1 he
      exact ⟨_, rfl, rfl, rfl, rfl, fun htls => absurd htls Bool.false_ne_true⟩
  | true =>
      obtain ⟨https, hhttps, h⟩ := Option.bind_eq_some_iff.1 h
      obtain rfl : [_, _] = emissions := Option.some.inj h
      rcases List.mem_cons.1 he with rfl | he
      · exact ⟨_, rfl, rfl, rfl, rfl, fun htls => absurd htls Bool.false_ne_true⟩
      · obtain rfl := List.mem_singleton.1 he
        exact ⟨_, rfl, rfl, rfl, rfl, fun _ => ⟨rfl, hhttps⟩⟩

/-- What one path emits besides reports: frontends of its backend's cluster. -/
theorem frontend_of_ingressPath {nn : String × String} {host : String}
    {hostHasTls redirect : Bool} {path : HttpIngressPath} {emissions : List Emission}
    (h : ingressPath cfg index nn host hostHasTls redirect path = some emissions)
    {e : Emission} (he : e ∈ emissions) : e.IsReport ∨
      ∃ sf, e = .frontend sf ∧ sf.source = .ingress nn.1 nn.2 ∧ sf.frontend.hostname = host ∧
        (∃ service clusterId, ResolvedTo index nn.1 service clusterId ∧
          sf.frontend.clusterId = some clusterId) ∧
            (sf.frontend.tls = true → hostHasTls = true ∧
              cfg.bindFor .https = some sf.frontend.listener) := by
  have hproblem : ∀ p : Problem, emissions = [.problem p] → e.IsReport := by
    rintro p rfl
    obtain rfl := List.mem_singleton.1 he
    exact ⟨rfl, rfl⟩
  unfold ingressPath at h
  split at h
  · exact .inl (hproblem _ (Option.some.inj h).symm)
  split at h
  · exact .inl (hproblem _ (Option.some.inj h).symm)
  rename_i svc _
  split at h
  · exact .inl (hproblem _ (Option.some.inj h).symm)
  rename_i portRef _
  dsimp only at h
  have hresolved := reports_addServiceRoute index nn.1 svc.name portRef
  split at h
  · obtain rfl := Option.some.inj h
    simp only [List.mem_append, List.mem_singleton] at he
    rcases he with (he | he) | rfl
    · exact .inl ((remarks_warn _).reports e he)
    · exact .inl (hresolved e he)
    · exact .inl ⟨rfl, rfl⟩
  · rename_i clusterId hasEndpoints hresult
    obtain ⟨frontends, hfrontends, rfl⟩ := Option.map_eq_some_iff.1 h
    simp only [List.mem_append] at he
    rcases he with (((he | he) | he) | he) | he
    · exact .inl ((remarks_warn _).reports e he)
    · exact .inl (hresolved e he)
    · exact .inl (reports_configure _ _ e he)
    · exact .inl (remarks_ite.reports e he)
    · obtain ⟨sf, rfl, hsource, hhost, hcluster, htls⟩ :=
        frontend_of_ingressFrontends hfrontends he
      exact .inr ⟨sf, rfl, hsource, hhost,
        ⟨svc.name, clusterId, ⟨portRef, hasEndpoints, hresult⟩, hcluster⟩, htls⟩

omit [External] [CharTable] in
/-- A set of names covers a host by one of them, and so does any set that has this one. -/
theorem exists_of_tlsCovers {names : List String} {host : String} (h : tlsCovers names host) :
    ∃ name ∈ names, ∀ other : List String, name ∈ other → tlsCovers other host = true := by
  simp only [tlsCovers, Bool.or_eq_true, List.contains_iff_mem, List.any_eq_true] at h ⊢
  rcases h with hmem | ⟨pattern, hmem, hcovers⟩
  · exact ⟨host, hmem, fun _ hother => .inl hother⟩
  · exact ⟨pattern, hmem, fun _ hother => .inr ⟨pattern, hother, hcovers⟩⟩

/-- What one rule emits besides reports. -/
theorem frontend_of_ingressRule {nn : String × String} {tlsReadyHosts : List String}
    {redirect : Bool} {rule : IngressRule} {emissions : List Emission}
    (h : ingressRule cfg index nn tlsReadyHosts redirect rule = some emissions)
    {e : Emission} (he : e ∈ emissions) : e.IsReport ∨
      ∃ sf, e = .frontend sf ∧ sf.source = .ingress nn.1 nn.2 ∧
        (∃ service clusterId, ResolvedTo index nn.1 service clusterId ∧
          sf.frontend.clusterId = some clusterId) ∧
            (sf.frontend.tls = true → tlsCovers tlsReadyHosts sf.frontend.hostname = true ∧
              cfg.bindFor .https = some sf.frontend.listener) := by
  unfold ingressRule at h
  split at h
  · obtain rfl := Option.some.inj h
    exact absurd he List.not_mem_nil
  dsimp only at h
  split at h
  · obtain rfl := Option.some.inj h
    obtain rfl := List.mem_singleton.1 he
    exact .inl ⟨rfl, rfl⟩
  · obtain ⟨paths, hpaths, rfl⟩ := Option.map_eq_some_iff.1 h
    obtain ⟨emitted, hemitted, he⟩ := List.mem_flatten.1 he
    obtain ⟨path, -, hpath⟩ := exists_of_mem_mapM hpaths hemitted
    refine (frontend_of_ingressPath hpath he).imp id ?_
    rintro ⟨sf, rfl, hsource, hhost, hbackend, htls⟩
    refine ⟨sf, rfl, hsource, hbackend, fun hsecure => ?_⟩
    rw [hhost]
    exact htls hsecure

/-- **What an Ingress emits**: reports, certificates of its own namespace, and frontends of
its own Services. -/
theorem traced_of_ingressEmissions {ingress : Ingress} {emissions : List Emission}
    (h : ingressEmissions cfg index ingress = some emissions) :
    (∀ sf, .frontend sf ∈ emissions → FromIngress cfg index ingress.metadata.nn emissions sf) ∧
      ∀ cert, .certificate cert ∈ emissions →
        cert.source = .ingress ingress.metadata.nn.1 ingress.metadata.nn.2 ∧
          ReadFrom index ingress.metadata.nn.1 cert := by
  unfold ingressEmissions at h
  split at h
  · obtain rfl := Option.some.inj h
    exact ⟨fun _ h => absurd h List.not_mem_nil, fun _ h => absurd h List.not_mem_nil⟩
  rename_i spec _
  obtain ⟨entries, hentries, h⟩ := Option.bind_eq_some_iff.1 h
  obtain ⟨rules, hrules, h⟩ := Option.bind_eq_some_iff.1 h
  obtain rfl := Option.some.inj h
  have hentry : ∀ entry ∈ entries, entry.Traced cfg index ingress.metadata.nn := by
    intro entry hentry
    obtain ⟨tls, -, htls⟩ := exists_of_mem_mapM hentries hentry
    exact ingressTls_traced htls
  have hdefault : ∀ e ∈ (if spec.defaultBackend.isSome then
      [Emission.problem .defaultBackendUnsupported] else []), e.IsReport := by
    intro e he
    split at he
    · obtain rfl := List.mem_singleton.1 he
      exact ⟨rfl, rfl⟩
    · exact absurd he List.not_mem_nil
  have hrule : ∀ rule ∈ rules, ∀ e ∈ rule, e.IsReport ∨
      ∃ sf, e = .frontend sf ∧ sf.source = .ingress ingress.metadata.nn.1 ingress.metadata.nn.2 ∧
        (∃ service clusterId, ResolvedTo index ingress.metadata.nn.1 service clusterId ∧
          sf.frontend.clusterId = some clusterId) ∧
            (sf.frontend.tls = true →
              tlsCovers (entries.flatMap TlsEntry.hosts) sf.frontend.hostname = true ∧
                cfg.bindFor .https = some sf.frontend.listener) := by
    intro rule hrule e he
    obtain ⟨r, -, hr⟩ := exists_of_mem_mapM hrules hrule
    exact frontend_of_ingressRule hr he
  constructor
  · intro sf hsf
    simp only [List.mem_append, List.mem_flatMap, List.mem_flatten] at hsf
    rcases hsf with (hsf | ⟨entry, hmem, hsf⟩) | ⟨rule, hmem, hsf⟩
    · exact absurd (hdefault _ hsf) Emission.IsReport.not_frontend
    · exact absurd hsf ((hentry entry hmem).frontends sf)
    · rcases hrule rule hmem _ hsf with hreport | ⟨sf', heq, hsource, hbackend, htls⟩
      · exact absurd hreport Emission.IsReport.not_frontend
      · obtain rfl := Emission.frontend.inj heq
        refine ⟨hsource, hbackend, fun hsecure => ?_⟩
        obtain ⟨hcovers, hbind⟩ := htls hsecure
        obtain ⟨host, hhost, hcovered⟩ := exists_of_tlsCovers hcovers
        obtain ⟨entry, hmem, hhost⟩ := List.mem_flatMap.1 hhost
        obtain ⟨cert, hcert, hname, hlistener⟩ := (hentry entry hmem).ready host hhost
        refine ⟨cert, ?_, ?_, hcovered cert.names hname⟩
        · simp only [List.mem_append, List.mem_flatMap]
          exact .inl (.inr ⟨entry, hmem, hcert⟩)
        · exact Option.some.inj (hlistener.symm.trans hbind)
  · intro cert hcert
    simp only [List.mem_append, List.mem_flatMap, List.mem_flatten] at hcert
    rcases hcert with (hcert | ⟨entry, hmem, hcert⟩) | ⟨rule, hmem, hcert⟩
    · exact absurd (hdefault _ hcert) Emission.IsReport.not_certificate
    · exact (hentry entry hmem).certificates cert hcert
    · rcases hrule rule hmem _ hcert with hreport | ⟨sf, heq, -⟩
      · exact absurd hreport Emission.IsReport.not_certificate
      · cases heq

end Ingress

/-! ## Listeners -/

section Listeners

variable {cfg : BuildConfig} {inputs : Inputs} {index : Index}

omit [External] [CharTable] in
/-- Filling in the kinds leaves the rest of a listener alone, but for its references. -/
theorem listenerKinds_eq (info : ListenerInfo) (l : GatewayListeners)
    (protocol : ListenerProtocol) :
    listenerKinds info l protocol = { info with
      supportedKinds := (listenerSupportedKinds l protocol.routeKind).1
      resolvedRefs := (listenerKinds info l protocol).resolvedRefs
      resolvedRefsReason := (listenerKinds info l protocol).resolvedRefsReason } := by
  unfold listenerKinds
  dsimp only
  split <;> rfl

omit [CharTable] in
/-- A certificateRef that loaded emits its certificate: for the listener's address, with
its hostname as the only name when it has one, from a Secret the Gateway may read. -/
theorem loadCertificateRef_loaded {gw : String × String} {l : GatewayListeners}
    {bind : SocketAddr} {cref : GatewayListenersTlsCertificateRefs}
    (h : (loadCertificateRef inputs index gw l bind cref).loaded = true) :
    ∃ cert, .certificate cert ∈ (loadCertificateRef inputs index gw l bind cref).emissions ∧
      cert.cert.cert.listener = bind ∧ ∀ host, l.hostname = some host → cert.names = [host] := by
  unfold loadCertificateRef at h ⊢
  split at h
  · cases h
  dsimp only at h ⊢
  split at h
  · cases h
  rename_i hkind hgrant
  split at h
  · cases h
  rename_i secret hsecret
  split at h
  · rename_i cert hcert
    rw [if_neg hkind, if_neg hgrant]
    obtain ⟨hlistener, hnames⟩ := extractCert_eq_ok hcert
    refine ⟨_, List.mem_singleton_self _, hlistener, fun host hhost => ?_⟩
    show cert.cert.names = [host]
    rw [hhost] at hnames
    exact hnames (List.cons_ne_nil _ _)
  · cases h

omit [CharTable] in
/-- A listener that loaded a certificate emits it. -/
theorem loadListenerCerts_loaded {gw : String × String} {l : GatewayListeners} {bind : SocketAddr}
    (h : (loadListenerCerts inputs index gw l bind).loaded = true) :
    ∃ cert, .certificate cert ∈ (loadListenerCerts inputs index gw l bind).emissions ∧
      cert.cert.cert.listener = bind ∧ ∀ host, l.hostname = some host → cert.names = [host] := by
  unfold loadListenerCerts at h ⊢
  split at h
  · cases h
  rename_i tls _
  dsimp only at h ⊢
  split at h
  · cases h
  rename_i hmode
  obtain ⟨outcome, houtcome, hloaded⟩ := List.any_eq_true.1 h
  obtain ⟨cref, hcref, rfl⟩ := List.mem_map.1 houtcome
  obtain ⟨cert, hcert, hrest⟩ := loadCertificateRef_loaded hloaded
  rw [if_neg hmode]
  exact ⟨cert, List.mem_flatMap.2 ⟨_, houtcome, hcert⟩, hrest⟩

/-- A programmed listener as it was declared. -/
structure Serves (cfg : BuildConfig) (gw : String × String) (l : GatewayListeners)
    (protocol : ListenerProtocol) (entry : ExposedPort) (built : BuiltListener) : Prop where
  parsed : ListenerProtocol.parse l.protocol = some protocol
  exposed : (toPort l.port).bind (cfg.exposed protocol.exposed) = some entry
  owned : protocol.l4.isSome → ∀ owner, entry.owner = some owner → owner = gw.1
  allowFrom : built.info.allowFrom = AllowedFrom.of l
  kinds : built.info.supportedKinds = (listenerSupportedKinds l protocol.routeKind).1
  served : built.info.protocol = some protocol
  hostname : built.info.hostname = l.hostname
  bind : built.info.bind = some (BuildConfig.bindAddr entry.bind)

/-- **A programmed listener serves the protocol and the port it declares**, on a socket its
Gateway may use; an HTTPS one has a certificate. -/
theorem serves_of_programmed {gw : String × String} {l : GatewayListeners}
    (h : (buildListener cfg inputs index gw l).info.programmed = true) :
    ∃ protocol entry, Serves cfg gw l protocol entry (buildListener cfg inputs index gw l) ∧
      (protocol = .https → ∃ cert,
        .certificate cert ∈ (buildListener cfg inputs index gw l).emissions ∧
          cert.cert.cert.listener = BuildConfig.bindAddr entry.bind ∧
            ∀ host, l.hostname = some host → cert.names = [host]) := by
  have hstart : ∀ info : ListenerInfo, info = (if (selectorUnevaluable l).isSome then
      { ListenerInfo.declared l with programmedReason := "Invalid" }
        else ListenerInfo.declared l) →
      info.programmed = false ∧ info.allowFrom = AllowedFrom.of l ∧ info.hostname = l.hostname ∧
        info.protocol = ListenerProtocol.parse l.protocol := by
    rintro info rfl
    split <;> exact ⟨rfl, rfl, rfl, rfl⟩
  unfold buildListener at h ⊢
  dsimp only at h ⊢
  generalize hinfo : (if (selectorUnevaluable l).isSome then
      { ListenerInfo.declared l with programmedReason := "Invalid" }
        else ListenerInfo.declared l) = info at h ⊢
  obtain ⟨hidle, hallow, hhost, hprotocol⟩ := hstart info hinfo.symm
  cases hp : ListenerProtocol.parse l.protocol with
  | none =>
      rw [hp] at h
      exact absurd h Bool.false_ne_true
  | some protocol =>
      rw [hp] at h hprotocol
      dsimp only at h ⊢
      cases hentry : (toPort l.port).bind (cfg.exposed protocol.exposed) with
      | none =>
          rw [hentry, listenerKinds_eq] at h
          exact absurd h Bool.false_ne_true
      | some entry =>
          rw [hentry] at h
          dsimp only at h ⊢
          cases howner : (if protocol.l4.isSome then entry.owner.filter (· ≠ gw.1) else none) with
          | some owner =>
              rw [howner] at h
              dsimp only at h
              rw [listenerKinds_eq] at h
              exact absurd h Bool.false_ne_true
          | none =>
              rw [howner] at h
              dsimp only at h ⊢
              have howned : protocol.l4.isSome → ∀ owner, entry.owner = some owner →
                  owner = gw.1 := by
                intro hl4 owner howns
                rw [if_pos hl4, howns] at howner
                simpa [Option.filter] using howner
              cases hrefusal : listenerHostnameRefusal protocol l with
              | some refusal =>
                  rw [hrefusal] at h
                  dsimp only at h
                  rw [listenerKinds_eq] at h
                  exact absurd h Bool.false_ne_true
              | none =>
                  rw [hrefusal] at h
                  dsimp only at h ⊢
                  refine ⟨protocol, entry, ?_⟩
                  split at h
                  · rw [listenerKinds_eq] at h
                    exact absurd (hidle.symm.trans h) Bool.false_ne_true
                  rename_i hevaluable
                  rw [if_neg hevaluable]
                  split at h
                  · rename_i hhttps
                    split at h
                    · rename_i hloaded
                      rw [if_pos hhttps, if_pos hloaded]
                      rw [listenerKinds_eq]
                      obtain ⟨cert, hcert, hrest⟩ := loadListenerCerts_loaded hloaded
                      exact ⟨⟨hp, hentry, howned, hallow, rfl, hprotocol, hhost, rfl⟩,
                        fun _ => ⟨cert, List.mem_append_right _ hcert, hrest⟩⟩
                    · rw [listenerKinds_eq] at h
                      exact absurd (hidle.symm.trans h) Bool.false_ne_true
                  · rename_i hhttps
                    rw [if_neg hhttps]
                    rw [listenerKinds_eq]
                    exact ⟨⟨hp, hentry, howned, hallow, rfl, hprotocol, hhost, rfl⟩,
                      fun h => absurd h hhttps⟩

/-! ## Gateways -/

/-- A Gateway of a namespace may read a Secret of another: it is its own, or a
ReferenceGrant opens the Secret to Gateways of that namespace. -/
def MayRead (inputs : Inputs) (gatewayNs secretNs secret : String) : Prop :=
  secretNs = gatewayNs ∨
    referenceGranted inputs secretNs "" "Secret" secret gatewayNs gwGroup "Gateway" = true

/-- A certificate of a Gateway, and the Secret it was read from. -/
def FromGateway (inputs : Inputs) (index : Index) (gw : String × String) (cert : ClaimedCert) :
    Prop :=
  (∃ listener, cert.source = .gateway gw.1 gw.2 listener) ∧
    ∃ secretNs, MayRead inputs gw.1 secretNs cert.secret ∧ ReadFrom index secretNs cert

/-- The emission is a report, or a certificate its Gateway may read. -/
def TracedToGateway (inputs : Inputs) (index : Index) (gw : String × String)
    (e : Emission) : Prop :=
  e.IsReport ∨ ∃ cert, e = .certificate cert ∧ FromGateway inputs index gw cert

omit [CharTable] in
theorem traced_of_loadCertificateRef {gw : String × String} {l : GatewayListeners}
    {bind : SocketAddr} {cref : GatewayListenersTlsCertificateRefs} {e : Emission}
    (he : e ∈ (loadCertificateRef inputs index gw l bind cref).emissions) :
    TracedToGateway inputs index gw e := by
  have hproblem : ∀ p : Problem, e ∈ [Emission.problem p] → TracedToGateway inputs index gw e := by
    intro p hp
    obtain rfl := List.mem_singleton.1 hp
    exact .inl ⟨rfl, rfl⟩
  unfold loadCertificateRef at he
  split at he
  · exact hproblem _ he
  dsimp only at he
  split at he
  · exact hproblem _ he
  rename_i hgrant
  split at he
  · exact hproblem _ he
  rename_i secret hsecret
  split at he
  · rename_i cert hcert
    obtain rfl := List.mem_singleton.1 he
    refine .inr ⟨_, rfl, ⟨_, rfl⟩, cref.namespace_.getD gw.1, ?_, secret, bind, _, hsecret, hcert⟩
    by_cases hns : cref.namespace_.getD gw.1 = gw.1
    · exact .inl hns
    · exact .inr (by simpa [hns] using hgrant)
  · exact hproblem _ he

omit [CharTable] in
theorem traced_of_loadListenerCerts {gw : String × String} {l : GatewayListeners}
    {bind : SocketAddr} {e : Emission}
    (he : e ∈ (loadListenerCerts inputs index gw l bind).emissions) :
    TracedToGateway inputs index gw e := by
  have hproblem : ∀ p : Problem, e ∈ [Emission.problem p] → TracedToGateway inputs index gw e := by
    intro p hp
    obtain rfl := List.mem_singleton.1 hp
    exact .inl ⟨rfl, rfl⟩
  unfold loadListenerCerts at he
  split at he
  · exact hproblem _ he
  dsimp only at he
  split at he
  · exact hproblem _ he
  · obtain ⟨outcome, houtcome, he⟩ := List.mem_flatMap.1 he
    obtain ⟨cref, -, rfl⟩ := List.mem_map.1 houtcome
    exact traced_of_loadCertificateRef he

theorem traced_of_buildListener {gw : String × String} {l : GatewayListeners} {e : Emission}
    (he : e ∈ (buildListener cfg inputs index gw l).emissions) :
    TracedToGateway inputs index gw e := by
  have hreported : ∀ e ∈ (selectorUnevaluable l).toList.map fun reason =>
      Emission.problem (.namespaceSelectorInvalid l.name reason), e.IsReport := by
    intro e he
    obtain ⟨reason, -, rfl⟩ := List.mem_map.1 he
    exact ⟨rfl, rfl⟩
  have hrefused : ∀ p : Problem, e ∈ ((selectorUnevaluable l).toList.map fun reason =>
      Emission.problem (.namespaceSelectorInvalid l.name reason)) ++ [.problem p] →
      TracedToGateway inputs index gw e := by
    intro p hp
    rcases List.mem_append.1 hp with hp | hp
    · exact .inl (hreported e hp)
    · obtain rfl := List.mem_singleton.1 hp
      exact .inl ⟨rfl, rfl⟩
  unfold buildListener at he
  dsimp only at he
  cases hp : ListenerProtocol.parse l.protocol with
  | none =>
      rw [hp] at he
      exact hrefused _ he
  | some protocol =>
      rw [hp] at he
      dsimp only at he
      cases hentry : (toPort l.port).bind (cfg.exposed protocol.exposed) with
      | none =>
          rw [hentry] at he
          exact hrefused _ he
      | some entry =>
          rw [hentry] at he
          dsimp only at he
          cases howner : (if protocol.l4.isSome then entry.owner.filter (· ≠ gw.1) else none) with
          | some owner =>
              rw [howner] at he
              exact hrefused _ he
          | none =>
              rw [howner] at he
              dsimp only at he
              cases hrefusal : listenerHostnameRefusal protocol l with
              | some refusal =>
                  rw [hrefusal] at he
                  exact hrefused _ he
              | none =>
                  rw [hrefusal] at he
                  dsimp only at he
                  split at he
                  · exact .inl (hreported e he)
                  split at he
                  · rcases List.mem_append.1 he with he | he
                    · exact .inl (hreported e he)
                    · exact traced_of_loadListenerCerts he
                  · exact .inl (hreported e he)

/-- **What a Gateway emits**: reports, and certificates it may read. -/
theorem traced_of_buildOneGateway {gw : Gateway} {e : Emission}
    (he : e ∈ (buildOneGateway cfg inputs index gw).emissions) :
    TracedToGateway inputs index gw.metadata.nn e := by
  have hunsupported : ∀ (present : Bool) (field : String),
      e ∈ (if present then [Emission.problem (.gatewaySpecUnsupported field)] else []) →
        TracedToGateway inputs index gw.metadata.nn e := by
    intro present field he
    split at he
    · obtain rfl := List.mem_singleton.1 he
      exact .inl ⟨rfl, rfl⟩
    · exact absurd he List.not_mem_nil
  have hemitted : e ∈ (if gw.spec.hasTls then
        [Emission.problem (.gatewaySpecUnsupported "spec.tls")] else []) ++
      (if gw.spec.hasAllowedListeners then
        [Emission.problem (.gatewaySpecUnsupported "spec.allowedListeners")] else []) ++
      ((gw.spec.listeners.map (buildListener cfg inputs index gw.metadata.nn)).flatMap
        BuiltListener.emissions) → TracedToGateway inputs index gw.metadata.nn e := by
    intro he
    rcases List.mem_append.1 he with he | he
    · rcases List.mem_append.1 he with he | he
      · exact hunsupported _ _ he
      · exact hunsupported _ _ he
    · obtain ⟨built, hbuilt, he⟩ := List.mem_flatMap.1 he
      obtain ⟨l, -, rfl⟩ := List.mem_map.1 hbuilt
      exact traced_of_buildListener he
  unfold buildOneGateway at he
  dsimp only at he
  split at he
  · rcases List.mem_append.1 he with he | he
    · exact hemitted (List.mem_of_mem_filter he)
    · obtain rfl := List.mem_singleton.1 he
      exact .inl ⟨rfl, rfl⟩
  · exact hemitted he

/-- A programmed listener of one of our Gateways that is not rejected. -/
structure Carries (cfg : BuildConfig) (inputs : Inputs) (index : Index) (gw : Gateway)
    (l : GatewayListeners) (protocol : ListenerProtocol) (entry : ExposedPort)
    (info : ListenerInfo) : Prop where
  gateway : gw ∈ ourGateways cfg inputs
  unrejected : gw.spec.parametersRef = none
  declared : l ∈ gw.spec.listeners
  built : (buildListener cfg inputs index gw.metadata.nn l).info = info
  programmed : info.programmed = true
  serves : Serves cfg gw.metadata.nn l protocol entry
    (buildListener cfg inputs index gw.metadata.nn l)

/-- A programmed listener of a built Gateway is one it declared, and the Gateway was not
rejected. -/
theorem declared_of_programmed {gw : Gateway} {info : ListenerInfo}
    (h : info ∈ (buildOneGateway cfg inputs index gw).listeners)
    (hprogrammed : info.programmed = true) :
    gw.spec.parametersRef = none ∧ ∃ l ∈ gw.spec.listeners,
      (buildListener cfg inputs index gw.metadata.nn l).info = info := by
  unfold buildOneGateway at h
  dsimp only at h
  cases hparameters : gw.spec.parametersRef with
  | some parameters =>
      rw [hparameters] at h
      obtain ⟨declared, -, rfl⟩ := List.mem_map.1 h
      exact absurd hprogrammed Bool.false_ne_true
  | none =>
      rw [hparameters] at h
      obtain ⟨built, hbuilt, rfl⟩ := List.mem_map.1 h
      obtain ⟨l, hl, rfl⟩ := List.mem_map.1 hbuilt
      exact ⟨rfl, l, hl, rfl⟩

/-- **A programmed listener of the map is one of our Gateways.** -/
theorem carries_of_mem {key : ObjectKey} {infos : List ListenerInfo} {info : ListenerInfo}
    (h : (gatewayListeners (builtGateways cfg inputs index))[key]? = some infos)
    (hinfo : info ∈ infos) (hprogrammed : info.programmed = true) :
    ∃ gw l protocol entry, toLex gw.metadata.nn = key ∧
      Carries cfg inputs index gw l protocol entry info := by
  have hfill : (fill (fun x : Gateway × BuiltGateway => (toLex x.1.metadata.nn : ObjectKey))
      (fun x => x.2.listeners) ∅ (builtGateways cfg inputs index))[key]? = some infos := h
  rcases exists_of_fill hfill with hempty | ⟨⟨gw, b⟩, hmem, hkey, rfl⟩
  · exact Option.noConfusion rfl (heq_of_eq (hempty.symm.trans (BTreeMap.getElem?_empty key)))
  · obtain ⟨gw', hgw, heq⟩ := List.mem_map.1 hmem
    obtain ⟨rfl, rfl⟩ := Prod.mk.inj heq
    obtain ⟨hunrejected, l, hl, rfl⟩ := declared_of_programmed hinfo hprogrammed
    obtain ⟨protocol, entry, hserves, -⟩ := serves_of_programmed hprogrammed
    exact ⟨gw', l, protocol, entry, hkey, hgw, hunrejected, hl, rfl, hprogrammed, hserves⟩

variable {gw : Gateway} {l : GatewayListeners} {protocol : ListenerProtocol} {entry : ExposedPort}
    {info : ListenerInfo}

/-- What a listener of a Gateway that is not rejected emits, the walk emits. -/
theorem Carries.emits (h : Carries cfg inputs index gw l protocol entry info) {e : Emission}
    (he : e ∈ (buildListener cfg inputs index gw.metadata.nn l).emissions) :
    e ∈ (gatewayWalk cfg inputs index).emissions := by
  have hbuilt : (gw, buildOneGateway cfg inputs index gw) ∈ builtGateways cfg inputs index :=
    List.mem_map_of_mem h.gateway
  refine List.mem_append_left _ (List.mem_append_left _ (List.mem_flatMap.2 ⟨_, hbuilt, ?_⟩))
  simp only [buildOneGateway, h.unrejected]
  exact List.mem_append_right _
    (List.mem_flatMap.2 ⟨_, List.mem_map_of_mem h.declared, he⟩)

/-- **A programmed HTTPS listener has a certificate at its address**, for its hostname when
it declares one. -/
theorem Carries.certified (h : Carries cfg inputs index gw l protocol entry info)
    (hhttps : protocol = .https) :
    ∃ cert, .certificate cert ∈ (gatewayWalk cfg inputs index).emissions ∧
      cert.cert.cert.listener = BuildConfig.bindAddr entry.bind ∧
        ∀ host, l.hostname = some host → cert.names = [host] := by
  have hprogrammed : (buildListener cfg inputs index gw.metadata.nn l).info.programmed = true :=
    h.built ▸ h.programmed
  obtain ⟨protocol', entry', hserves, hcertified⟩ := serves_of_programmed hprogrammed
  obtain rfl : protocol = protocol' := Option.some.inj (h.serves.parsed.symm.trans hserves.parsed)
  obtain rfl : entry = entry' := Option.some.inj (h.serves.exposed.symm.trans hserves.exposed)
  obtain ⟨cert, hcert, hrest⟩ := hcertified hhttps
  exact ⟨cert, h.emits hcert, hrest⟩

end Listeners

end Walks

end Builder

end SozuGateway
