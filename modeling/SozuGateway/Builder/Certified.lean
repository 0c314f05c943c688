import SozuGateway.Builder.Copies
import SozuGateway.Builder.RouteProvenance

/-!
# No HTTPS frontend without a certificate

A frontend on HTTPS, from an Ingress or from a listener that declares a hostname, has a
certificate that names its host, at its own listener.

* `Covers` — the hosts of a wildcard; it covers them whatever the case (`Covers.lowercase`).
* `served_of_claimed` — a name some certificate was loaded for is served at its listener,
  by whichever object owns it.
* `Origin`, `exists_origin` — the object behind a frontend of the build.
* `https_frontend_certified` — the certificate of an HTTPS frontend.
-/

set_option autoImplicit false

namespace SozuGateway

namespace Builder

open Lib

/-! ## Names in any case -/

theorem toAsciiLowercase_append (a b : String) :
    toAsciiLowercase (a ++ b) = toAsciiLowercase a ++ toAsciiLowercase b := by
  apply String.toList_inj.1
  simp [toAsciiLowercase]

/-- No letter becomes a dot, and a dot stays one. -/
theorem toLower_eq_dot {c : Char} : c.toLower = '.' ↔ c = '.' := by
  constructor
  · intro h
    have halpha : c.isAlpha = false := by
      rw [← Char.isAlpha_toLower_eq_isAlpha, h]
      rfl
    have hupper : ¬c.isUpper = true := by
      intro hc
      rw [Char.isAlpha, hc] at halpha
      exact absurd halpha (by simp)
    rwa [Char.toLower_eq_of_not_isUpper hupper] at h
  · rintro rfl
    rfl

/-- A label of a name. -/
def IsLabel (label : String) : Prop := label ≠ "" ∧ '.' ∉ label.toList

/-- The wildcard covers the host: one label more than its suffix. -/
def Covers (wildcard host : String) : Prop :=
  ∃ suffix label, wildcard = "*." ++ suffix ∧ host = label ++ "." ++ suffix ∧ IsLabel label

theorem wildcardCovers_iff {wildcard host : String} :
    wildcardCovers wildcard host = true ↔ Covers wildcard host := by
  unfold wildcardCovers Covers IsLabel
  constructor
  · intro h
    split at h
    · cases h
    rename_i suffix hsuffix
    split at h
    · cases h
    rename_i label hlabel
    obtain ⟨start, hstart, hdot⟩ := Option.bind_eq_some_iff.1 hlabel
    rw [stripEnd_eq_some] at hstart hdot
    refine ⟨suffix, label, stripStart_eq_some.1 hsuffix, ?_, by simpa using h⟩
    rw [hstart, hdot]
  · rintro ⟨suffix, label, rfl, rfl, hlabel, hdot⟩
    rw [stripStart_eq_some.2 rfl]
    have hstart : stripEnd (label ++ "." ++ suffix) suffix = some (label ++ ".") :=
      stripEnd_eq_some.2 rfl
    have hend : stripEnd (label ++ ".") "." = some label := stripEnd_eq_some.2 rfl
    simp [hstart, hend, hlabel, hdot]

/-- **A wildcard covers a host whatever the case of either.** -/
theorem Covers.lowercase {wildcard host : String} (h : Covers wildcard host) :
    Covers (toAsciiLowercase wildcard) (toAsciiLowercase host) := by
  obtain ⟨suffix, label, rfl, rfl, hlabel, hdot⟩ := h
  refine ⟨toAsciiLowercase suffix, toAsciiLowercase label, ?_, ?_, ?_, ?_⟩
  · rw [toAsciiLowercase_append]
    rfl
  · rw [toAsciiLowercase_append, toAsciiLowercase_append]
    rfl
  · intro hempty
    apply hlabel
    have hchars := congrArg String.toList hempty
    rw [toAsciiLowercase, String.toList_ofList] at hchars
    exact String.toList_inj.1 (List.map_eq_nil_iff.1 hchars)
  · rw [toAsciiLowercase, String.toList_ofList]
    intro hmem
    obtain ⟨c, hc, hlower⟩ := List.mem_map.1 hmem
    exact hdot (toLower_eq_dot.1 hlower ▸ hc)

/-- A certificate's name is the hostname, or a wildcard that covers it by exactly one
label, in any case. -/
def NameCovers (name hostname : String) : Prop :=
  toAsciiLowercase name = toAsciiLowercase hostname ∨
    Covers (toAsciiLowercase name) (toAsciiLowercase hostname)

/-- A name that covers a host does so in any case. -/
theorem nameCovers_of_covers {name other hostname : String}
    (h : name = hostname ∨ Covers name hostname)
    (hother : toAsciiLowercase other = toAsciiLowercase name) : NameCovers other hostname := by
  unfold NameCovers
  rw [hother]
  refine h.imp (fun heq => ?_) Covers.lowercase
  rw [heq]

theorem exists_covers_of_tlsCovers {names : List String} {host : String}
    (h : tlsCovers names host = true) :
    ∃ name ∈ names, name = host ∨ Covers name host := by
  simp only [tlsCovers, Bool.or_eq_true, List.contains_iff_mem, List.any_eq_true] at h
  rcases h with hmem | ⟨name, hname, hcovers⟩
  · exact ⟨host, hmem, .inl rfl⟩
  · exact ⟨name, hname, .inr (wildcardCovers_iff.1 hcovers)⟩

/-! ## What is served -/

/-- **A name some certificate was loaded for is served at its listener**, by whichever
object owns it. -/
theorem served_of_claimed {claims : BTreeMap OwnerIdent OwnerClaim} {certs : List ClaimedCert}
    {c : ClaimedCert} (hc : c ∈ certs) {name : String} (hname : name ∈ c.names) :
    ∃ cert ∈ mergeCertificates (arbitrateCertificateNames certs claims).1,
      cert.listener = c.cert.cert.listener ∧
        ∃ other ∈ cert.names, toAsciiLowercase other = toAsciiLowercase name := by
  have hkey : c.nameKey name ∈ c.keys := List.mem_map_of_mem hname
  obtain ⟨owner, -, howner⟩ := @exists_owner claims certs (c.nameKey name) c hc hkey
  obtain ⟨fp, hfp⟩ := howner.loadedBy_nonempty
  rw [← servedBy_eq_loadedBy howner] at hfp
  obtain ⟨cert, hmem, other, hother, hlower⟩ := hfp
  have hlistener := (exists_claimed_of_mem hmem hother).1
  exact ⟨cert, List.mem_map_of_mem hmem, hlistener, other, hother, hlower⟩

section Build

variable [External] [CharTable] {cfg : BuildConfig} {inputs : Inputs}

/-- A certificate a walk emitted serves each of its names in the IR. -/
theorem served_of_emitted {emissions : List Emission} {c : ClaimedCert}
    (hc : .certificate c ∈ emissions) {hostname : String} {name : String} (hname : name ∈ c.names)
    (hcovers : name = hostname ∨ Covers name hostname) :
    ∃ cert ∈ (arbitrate cfg inputs emissions).irCertificates,
      cert.listener = c.cert.cert.listener ∧ ∃ name ∈ cert.names, NameCovers name hostname := by
  have hclaimed : c ∈ emissions.filterMap Emission.certificate? :=
    List.mem_filterMap.2 ⟨_, hc, rfl⟩
  obtain ⟨cert, hcert, hlistener, other, hother, hlower⟩ := served_of_claimed hclaimed hname
  exact ⟨cert, mem_sortBy.2 hcert, hlistener, other, hother, nameCovers_of_covers hcovers hlower⟩

/-! ## Origins -/

/-- One of our Ingresses emitted the frontend. -/
def FromOwnIngress (cfg : BuildConfig) (inputs : Inputs) (sf : SourcedFrontend) : Prop :=
  ∃ ingress ∈ inputs.ingresses, isOurs ingress cfg = true ∧ ∃ emissions,
    ingressEmissions cfg (Index.build inputs cfg.healthCheck) ingress = some emissions ∧
      .frontend sf ∈ emissions

/-- An Ingress or an HTTPRoute emitted the frontend. -/
def Origin (cfg : BuildConfig) (inputs : Inputs) (sf : SourcedFrontend) : Prop :=
  FromOwnIngress cfg inputs sf ∨ ∃ route pref gw l protocol entry,
    FromHttpRoute cfg inputs (Index.build inputs cfg.healthCheck) route pref gw l protocol entry sf

/-- An Ingress emitted the frontend, or an HTTPRoute through a listener that declares a
hostname. -/
def NamedOrigin (cfg : BuildConfig) (inputs : Inputs) (sf : SourcedFrontend) : Prop :=
  FromOwnIngress cfg inputs sf ∨ ∃ route pref gw l protocol entry,
    FromHttpRoute cfg inputs (Index.build inputs cfg.healthCheck) route pref gw l protocol entry
      sf ∧ l.hostname ≠ none

omit [External] [CharTable] in
/-- A frontend is the one a walk emitted, or the copy of that one above a header match of
the same hostname on the same listener. -/
def ServedAs (sf : SourcedFrontend) (f : Frontend) : Prop :=
  f = sf.frontend ∨ sf.frontend.headerMatches = [] ∧
    ∃ p, groupOf sf.frontend = groupOf p ∧ f = liftedCopy sf.frontend p

omit [External] [CharTable] in
/-- A copy keeps the host, the listener and the backend of the route it copies. -/
theorem ServedAs.eqs {sf : SourcedFrontend} {f : Frontend} (h : ServedAs sf f) :
    f.tls = sf.frontend.tls ∧ f.listener = sf.frontend.listener ∧
      f.hostname = sf.frontend.hostname ∧ f.clusterId = sf.frontend.clusterId := by
  rcases h with rfl | ⟨-, p, -, rfl⟩ <;> exact ⟨rfl, rfl, rfl, rfl⟩

variable {walk : IngressWalk} {out : BuildOutput} {f : Frontend} {sf : SourcedFrontend}

/-- What the walk over the Ingresses emits, one of our Ingresses does. -/
theorem exists_ingress_of_mem {index : Index} (h : ingressWalk cfg inputs index = some walk)
    {e : Emission} (he : e ∈ walk.emissions) :
    ∃ ingress ∈ inputs.ingresses, isOurs ingress cfg = true ∧ ∃ emissions,
      ingressEmissions cfg index ingress = some emissions ∧ e ∈ emissions ∧
        ∀ e' ∈ emissions, e' ∈ walk.emissions := by
  obtain ⟨emitted, hemitted, rfl⟩ := Option.map_eq_some_iff.1 h
  obtain ⟨emissions, hemissions, he⟩ := List.mem_flatten.1 he
  obtain ⟨ingress, hours, hingress⟩ := exists_of_mem_mapM hemitted hemissions
  obtain ⟨hlisted, howned⟩ := List.mem_filter.1 hours
  exact ⟨ingress, hlisted, howned, emissions, hingress, he,
    fun e' he' => List.mem_flatten.2 ⟨emissions, hemissions, he'⟩⟩

/-- What one of our Ingresses emits, the walk does. -/
theorem mem_ingressWalk {index : Index} (h : ingressWalk cfg inputs index = some walk)
    {ingress : Ingress} (hlisted : ingress ∈ inputs.ingresses) (hours : isOurs ingress cfg = true)
    {emissions : List Emission} (hemissions : ingressEmissions cfg index ingress = some emissions)
    {e : Emission} (he : e ∈ emissions) : e ∈ walk.emissions := by
  obtain ⟨emitted, hemitted, rfl⟩ := Option.map_eq_some_iff.1 h
  obtain ⟨emissions', hmem, hemissions'⟩ :=
    exists_mem_mapM hemitted (List.mem_filter.2 ⟨hlisted, hours⟩)
  obtain rfl := Option.some.inj (hemissions.symm.trans hemissions')
  exact List.mem_flatten.2 ⟨emissions, hmem, he⟩

/-- **Every frontend of a build is one an Ingress or an HTTPRoute emitted, or a copy of
it.** -/
theorem exists_origin (h : build cfg inputs = some out) (hf : f ∈ out.ir.frontends) :
    ∃ sf, Origin cfg inputs sf ∧ ServedAs sf f := by
  obtain ⟨walk, hwalk, rfl⟩ := Option.map_eq_some_iff.1 h
  obtain ⟨sf, hsf, hserved⟩ := mem_irFrontends hf
  refine ⟨sf, ?_, hserved⟩
  rcases List.mem_append.1 hsf with hsf | hsf
  · obtain ⟨ingress, hlisted, hours, emissions, hemissions, hmem, -⟩ :=
      exists_ingress_of_mem hwalk hsf
    exact .inl ⟨ingress, hlisted, hours, emissions, hemissions, hmem⟩
  · rcases traced_of_gatewayWalk hsf with hreport | ⟨cert, hcert, -⟩ | ⟨sf', heq, hfrom⟩
    · exact absurd hreport Emission.IsReport.not_frontend
    · cases hcert
    · obtain rfl := Emission.frontend.inj heq
      exact .inr hfrom

/-! ## HTTPS frontends -/

omit [External] [CharTable] in
/-- The name of a listener covers every hostname a route serves on it. -/
theorem covers_of_effectiveHostnames {routeHostnames : Option (List String)}
    {host hostname : String} (h : hostname ∈ effectiveHostnames routeHostnames (some host)) :
    host = hostname ∨ Covers host hostname := by
  cases routeHostnames with
  | none => exact .inl (List.mem_singleton.1 h).symm
  | some routes =>
      obtain ⟨route, -, hintersection⟩ := List.mem_filterMap.1 h
      unfold hostIntersection at hintersection
      split at hintersection
      · rename_i hcovers
        obtain rfl := Option.some.inj hintersection
        exact hcovers.imp Eq.symm wildcardCovers_iff.1
      split at hintersection
      · exact .inl (Option.some.inj hintersection)
      · cases hintersection

/-- The certificate behind an HTTPS frontend an Ingress or a named listener emitted. -/
theorem NamedOrigin.exists_certificate (h : NamedOrigin cfg inputs sf)
    (hwalk : ingressWalk cfg inputs (Index.build inputs cfg.healthCheck) = some walk)
    (htls : sf.frontend.tls = true) :
    ∃ cert, .certificate cert ∈ walk.emissions ++
        (gatewayWalk cfg inputs (Index.build inputs cfg.healthCheck)).emissions ∧
      cert.cert.cert.listener = sf.frontend.listener ∧ ∃ name ∈ cert.names,
        name = sf.frontend.hostname ∨ Covers name sf.frontend.hostname := by
  rcases h with ⟨ingress, hlisted, hours, emissions, hemissions, hmem⟩ |
    ⟨route, pref, gw, l, protocol, entry, hfrom, hnamed⟩
  · have hingress := (traced_of_ingressEmissions hemissions).1 sf hmem
    obtain ⟨cert, hcert, hlistener, hcovers⟩ := hingress.certified htls
    exact ⟨cert, List.mem_append_left _ (mem_ingressWalk hwalk hlisted hours hemissions hcert),
      hlistener, exists_covers_of_tlsCovers hcovers⟩
  · obtain ⟨info, hattached⟩ := hfrom.attached
    obtain ⟨cert, hcert, hlistener, hnames⟩ := hattached.carries.certified (hfrom.tls.1 htls)
    obtain ⟨host, hhost⟩ := Option.ne_none_iff_exists'.1 hnamed
    refine ⟨cert, List.mem_append_right _ hcert, hlistener.trans hfrom.bind.symm, host, ?_, ?_⟩
    · rw [hnames host hhost]
      exact List.mem_singleton_self host
    · exact covers_of_effectiveHostnames (hhost ▸ hfrom.hostname)

/-- **No HTTPS frontend without a certificate.** Every HTTPS frontend of a build is one an
Ingress or an HTTPRoute emitted, or a copy of it; if that was an Ingress, or a listener
that declares a hostname, a certificate at its own listener covers its host. -/
theorem https_frontend_certified (h : build cfg inputs = some out) (hf : f ∈ out.ir.frontends)
    (htls : f.tls = true) :
    (∃ sf, Origin cfg inputs sf ∧ ServedAs sf f) ∧
      ∀ sf, ServedAs sf f → NamedOrigin cfg inputs sf →
        ∃ cert ∈ out.ir.certificates, cert.listener = f.listener ∧
          ∃ name ∈ cert.names, NameCovers name f.hostname := by
  refine ⟨exists_origin h hf, fun sf hserved hnamed => ?_⟩
  obtain ⟨walk, hwalk, rfl⟩ := Option.map_eq_some_iff.1 h
  obtain ⟨hsecure, hlistener, hhostname, -⟩ := hserved.eqs
  obtain ⟨cert, hcert, hbind, name, hname, hcovers⟩ :=
    hnamed.exists_certificate hwalk (hsecure.symm.trans htls)
  rw [hlistener, hhostname, ← hbind]
  exact served_of_emitted hcert hname hcovers

end Build

/-- An Ingress to the Service `default/web`, on HTTPS too. -/
def secureInputs : Inputs where
  ingresses :=
    [{ metadata := { name := some "site" }
       spec := some {
        ingressClassName := some "sozu"
        tls := some [{ hosts := some ["example.test"], secretName := some "site-tls" }]
        rules := some [{
          host := some "example.test"
          http := some [{
            path := some "/"
            pathType := "Prefix"
            backend := { service := some {
              name := "web"
              port := some { number := some 80, name := none } } } }] }] } }]
  services := [{ metadata := { name := some "web" }, ports := some [{ port := 80 }] }]
  secrets := [{
    metadata := { name := some "site-tls" }
    data := some (((∅ : BTreeMap String ByteArray).insert "tls.crt" "leaf".toUTF8).insert "tls.key"
      "key".toUTF8) }]

attribute [local instance] External.plain Sozu.asciiTable in
/-- The HTTPS frontend of an Ingress has a certificate for its host. -/
theorem https_frontend_certified_secureInputs :
    ∃ out, build {} secureInputs = some out ∧ ∃ f ∈ out.ir.frontends, f.tls = true ∧
      ∃ cert ∈ out.ir.certificates, cert.listener = f.listener ∧
        ∃ name ∈ cert.names, NameCovers name f.hostname := by
  have hout : ((build {} secureInputs).any fun out => out.ir.frontends.any Frontend.tls) =
      true := by
    decide +kernel
  obtain ⟨out, hbuild, hany⟩ := (Option.any_eq_true _ _).1 hout
  obtain ⟨f, hf, htls⟩ := List.any_eq_true.1 hany
  obtain ⟨⟨sf, horigin, hserved⟩, hcertified⟩ := https_frontend_certified hbuild hf htls
  refine ⟨out, hbuild, f, hf, htls, hcertified sf hserved ?_⟩
  rcases horigin with hingress | ⟨route, _, _, _, _, _, hfrom⟩
  · exact .inl hingress
  · exact absurd hfrom.listed List.not_mem_nil

end Builder

end SozuGateway
