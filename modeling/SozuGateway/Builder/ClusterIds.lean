import SozuGateway.Builder.Services
import SozuGateway.Lib.Code

/-!
# Cluster ids

The id of a Service port's cluster, read back.

* `servicePort_eq_ok` — what a reference that resolves found.
* `Dotless` — the Services have no dot in their namespace or name.
* `clusterIdOf_inj` — then an id tells the Service, and the rest of it.
* `portSuffix_inj` — the rest tells the port.
-/

set_option autoImplicit false

namespace SozuGateway

namespace Builder

open Lib

/-- No Service has a dot in its namespace or its name. -/
def Dotless (inputs : Inputs) : Prop :=
  ∀ service ∈ inputs.services,
    '.' ∉ service.metadata.nn.1.toList ∧ '.' ∉ service.metadata.nn.2.toList

/-- A port a reference names is one of the Service's. -/
theorem PortRef.mem_of_find {ports : List ServicePort} {portRef : PortRef} {port : ServicePort}
    (h : portRef.find ports = some port) : port ∈ ports := by
  cases portRef with
  | number n => exact List.mem_of_find?_eq_some h
  | httpNumber n =>
      rcases Option.or_eq_some_iff.1 h with htcp | ⟨-, hfirst⟩
      · exact List.mem_of_find?_eq_some htcp
      · exact List.mem_of_find?_eq_some hfirst
  | name n => exact List.mem_of_find?_eq_some h

/-- A reference that resolves finds its Service, and the port in it. -/
theorem servicePort_eq_ok {index : Index} {ns service clusterId : String} {portRef : PortRef}
    {port : ServicePort} (h : servicePort index ns service portRef = .ok (port, clusterId)) :
    ∃ svc, index.services[objectKey ns service]? = some svc ∧
      portRef.find (svc.ports.getD []) = some port ∧
        clusterId = clusterIdOf (svc.ports.getD []) ns service port := by
  unfold servicePort at h
  split at h
  · cases h
  rename_i svc hsvc
  dsimp only at h
  split at h
  · cases h
  rename_i found hfound
  obtain ⟨rfl, rfl⟩ := Prod.mk.inj (Except.ok.inj h)
  exact ⟨svc, hsvc, hfound, rfl⟩

/-- What a cluster id has after the Service: the port, and the protocol of a later port
carrying the same number. -/
def portSuffix (ports : List ServicePort) (port : ServicePort) : String :=
  intText port.port ++
    if (firstWith ports port.port).map portProtocol = some (portProtocol port) then ""
    else "." ++ toAsciiLowercase (portProtocol port)

theorem clusterIdOf_eq (ports : List ServicePort) (namespace_ service : String)
    (port : ServicePort) :
    clusterIdOf ports namespace_ service port =
      namespace_ ++ "." ++ (service ++ "." ++ portSuffix ports port) := by
  unfold clusterIdOf portSuffix
  split
  · simp [String.append_assoc]
  · simp [String.append_assoc]

/-- Two words without a dot are cut at the first one. -/
theorem append_dot_inj {a b r s : String} (ha : '.' ∉ a.toList) (hb : '.' ∉ b.toList)
    (h : a ++ "." ++ r = b ++ "." ++ s) : a = b ∧ r = s := by
  have hchars : a.toList ++ ('.' :: r.toList) = b.toList ++ ('.' :: s.toList) := by
    simpa using congrArg String.toList h
  obtain ⟨hab, hrs⟩ := append_mark_inj ha hb hchars
  exact ⟨String.toList_inj.1 hab, String.toList_inj.1 hrs⟩

/-- **A cluster id tells the Service**, when names have no dot. -/
theorem clusterIdOf_inj {ports ports' : List ServicePort} {ns ns' service service' : String}
    {port port' : ServicePort} (hns : '.' ∉ ns.toList) (hns' : '.' ∉ ns'.toList)
    (hservice : '.' ∉ service.toList) (hservice' : '.' ∉ service'.toList)
    (h : clusterIdOf ports ns service port = clusterIdOf ports' ns' service' port') :
    ns = ns' ∧ service = service' ∧ portSuffix ports port = portSuffix ports' port' := by
  rw [clusterIdOf_eq, clusterIdOf_eq] at h
  obtain ⟨hnamespace, hrest⟩ := append_dot_inj hns hns' h
  obtain ⟨hname, hsuffix⟩ := append_dot_inj hservice hservice' hrest
  exact ⟨hnamespace, hname, hsuffix⟩

/-! ## Ports -/

/-- The digits of a number, after its sign. -/
theorem toList_intText (n : Int32) : (intText n).toList =
    (if n.toInt < 0 then ['-'] else []) ++ Nat.toDigits 10 n.toInt.natAbs := by
  unfold intText natText
  split
  · simp
  · simp

theorem isDigit_of_mem_decimal {n : ℕ} {c : Char} (h : c ∈ Nat.toDigits 10 n) :
    c.isDigit = true :=
  Nat.isDigit_of_mem_toDigits (by decide) (by decide) h

theorem not_mem_intText (n : Int32) : '.' ∉ (intText n).toList := by
  rw [toList_intText]
  intro h
  rcases List.mem_append.1 h with hsign | hdigit
  · split at hsign
    · exact absurd (List.mem_singleton.1 hsign) (by decide)
    · exact absurd hsign List.not_mem_nil
  · exact absurd (isDigit_of_mem_decimal hdigit) (by decide)

/-- **A number is told by its text.** -/
theorem intText_injective : Function.Injective intText := by
  intro m n h
  have hchars := congrArg String.toList h
  rw [toList_intText, toList_intText] at hchars
  have hunsigned : ∀ (k : ℕ) (rest : List Char), '-' :: rest ≠ Nat.toDigits 10 k := by
    intro k rest heq
    exact absurd (isDigit_of_mem_decimal (heq ▸ List.mem_cons_self)) (by decide)
  apply Int32.toInt_inj.1
  split at hchars
  · split at hchars
    · have habs := toDigits_ten_injective (List.append_cancel_left hchars)
      omega
    · exact absurd hchars (hunsigned _ _)
  · split at hchars
    · exact absurd hchars.symm (hunsigned _ _)
    · have habs := toDigits_ten_injective hchars
      omega

/-- The protocols of a Service port. -/
def portProtocols : List String := ["TCP", "UDP", "SCTP"]

theorem portProtocols_lowercase : ∀ a ∈ portProtocols, ∀ b ∈ portProtocols,
    toAsciiLowercase a = toAsciiLowercase b → a = b := by
  decide

/-- A port after the first carrying its number is marked with its protocol. -/
theorem toList_portSuffix (ports : List ServicePort) (port : ServicePort) :
    (portSuffix ports port).toList = (intText port.port).toList ++
      if (firstWith ports port.port).map portProtocol = some (portProtocol port) then []
      else '.' :: (toAsciiLowercase (portProtocol port)).toList := by
  unfold portSuffix
  split
  · simp
  · simp

/-- **The rest of an id tells the port**, where a Service lists a number once for each of the
protocols. -/
theorem portSuffix_inj {ports : List ServicePort}
    (hunique : (ports.map fun p => (p.port, portProtocol p)).Nodup)
    (hprotocols : ∀ p ∈ ports, portProtocol p ∈ portProtocols) {p q : ServicePort}
    (hp : p ∈ ports) (hq : q ∈ ports) (h : portSuffix ports p = portSuffix ports q) : p = q := by
  have hsame : p.port = q.port → portProtocol p = portProtocol q → p = q := by
    intro hport hprotocol
    exact List.inj_on_of_nodup_map hunique hp hq (Prod.ext hport hprotocol)
  have hchars := congrArg String.toList h
  rw [toList_portSuffix, toList_portSuffix] at hchars
  split at hchars
  · rename_i hfirst
    split at hchars
    · -- two first ports of one number
      rename_i hfirst'
      have hport : p.port = q.port := by
        refine intText_injective (String.toList_inj.1 ?_)
        simpa using hchars
      rw [hport] at hfirst
      exact hsame hport (Option.some.inj (hfirst.symm.trans hfirst'))
    · rw [List.append_nil] at hchars
      exact absurd (hchars ▸ List.mem_append_right _ List.mem_cons_self) (not_mem_intText p.port)
  · split at hchars
    · rw [List.append_nil] at hchars
      exact absurd (hchars ▸ List.mem_append_right _ List.mem_cons_self) (not_mem_intText q.port)
    · obtain ⟨hport, hprotocol⟩ :=
        append_mark_inj (not_mem_intText p.port) (not_mem_intText q.port) hchars
      refine hsame (intText_injective (String.toList_inj.1 hport)) ?_
      exact portProtocols_lowercase _ (hprotocols p hp) _ (hprotocols q hq)
        (String.toList_inj.1 hprotocol)

end Builder

end SozuGateway
