import SozuGateway.Builder.Certified
import SozuGateway.Builder.ClusterIds

/-!
# The hosts a route serves on a listener

What hostnames stand for, as sets of concrete hosts.

* `IsConcrete`, `IsPattern` — names and `*.`-wildcards over non-empty labels.
* `hostsOf` — the hosts of a pattern; `routeHosts`, `listenerHosts` — those a route and a
  listener ask for; `servedHosts` — those Sōzu serves under some hostnames.
* `hostIntersection_hosts` — the more specific of two patterns stands for the hosts of
  both.
* `effective_hostnames_iff` — the hostnames a route serves on a listener stand for the
  hosts of both exactly when the route's list is not there but empty.
-/

set_option autoImplicit false

namespace SozuGateway

namespace Builder

open Lib

/-! ## Names -/

/-- Labels joined by dots. -/
inductive IsHostname : String → Prop where
  | label {label : String} (hlabel : IsLabel label) : IsHostname label
  | dot {label rest : String} (hlabel : IsLabel label) (hrest : IsHostname rest) :
      IsHostname (label ++ "." ++ rest)

/-- A name that is neither the catch-all nor a wildcard. -/
structure IsConcrete (host : String) : Prop where
  hostname : IsHostname host
  ne_any : host ≠ "*"
  ne_wildcard : ∀ suffix, host ≠ "*." ++ suffix

/-- A concrete name, or a `*.`-wildcard over one. -/
def IsPattern (pattern : String) : Prop :=
  IsConcrete pattern ∨ ∃ suffix, IsHostname suffix ∧ pattern = "*." ++ suffix

theorem not_covers_of_concrete {host x : String} (h : IsConcrete host) : ¬Covers host x := by
  rintro ⟨suffix, -, hwild, -⟩
  exact h.ne_wildcard suffix hwild

/-- A name under a wildcard's suffix is concrete unless its first label is the star. -/
theorem isConcrete_append {label suffix : String} (hlabel : IsLabel label) (hstar : label ≠ "*")
    (hsuffix : IsHostname suffix) : IsConcrete (label ++ "." ++ suffix) := by
  refine ⟨.dot hlabel hsuffix, ?_, ?_⟩
  · intro heq
    have hdot : '.' ∈ (label ++ "." ++ suffix).toList := by simp
    rw [heq] at hdot
    exact absurd hdot (by decide)
  · intro rest heq
    exact hstar (append_dot_inj hlabel.2 (by decide) heq).1

/-! ## What names stand for -/

/-- The hosts a pattern stands for: itself, or the ones it covers. -/
def hostsOf (pattern : String) : Set String :=
  {x | IsConcrete x ∧ (x = pattern ∨ Covers pattern x)}

/-- The hosts a route asks for: every host where it lists none. -/
def routeHosts : Option (List String) → Set String
  | none | some [] => {x | IsConcrete x}
  | some hostnames => {x | ∃ h ∈ hostnames, x ∈ hostsOf h}

/-- The hosts a listener admits: every host where it names none. -/
def listenerHosts : Option String → Set String
  | none => {x | IsConcrete x}
  | some hostname => hostsOf hostname

/-- The hosts some hostnames serve; `*` serves every one. -/
def servedHosts (hostnames : List String) : Set String :=
  {x | IsConcrete x ∧ ∃ h ∈ hostnames, h = "*" ∨ x = h ∨ Covers h x}

theorem hostsOf_of_concrete {host : String} (h : IsConcrete host) : hostsOf host = {host} := by
  ext x
  constructor
  · rintro ⟨-, rfl | hcovers⟩
    · rfl
    · exact absurd hcovers (not_covers_of_concrete h)
  · rintro rfl
    exact ⟨h, .inl rfl⟩

/-- Some host is meant by every pattern. -/
theorem hostsOf_nonempty {pattern : String} (h : IsPattern pattern) :
    ∃ x, x ∈ hostsOf pattern := by
  rcases h with hconcrete | ⟨suffix, hsuffix, rfl⟩
  · exact ⟨pattern, hconcrete, .inl rfl⟩
  · have hlabel : IsLabel "a" := ⟨by decide, by decide⟩
    exact ⟨_, isConcrete_append hlabel (by decide) hsuffix, .inr ⟨suffix, "a", rfl, rfl, hlabel⟩⟩

theorem ne_any_of_pattern {pattern : String} (h : IsPattern pattern) : pattern ≠ "*" := by
  rcases h with hconcrete | ⟨suffix, -, rfl⟩
  · exact hconcrete.ne_any
  · intro heq
    have hdot : '.' ∈ ("*." ++ suffix).toList := by simp
    rw [heq] at hdot
    exact absurd hdot (by decide)

/-- Hostnames none of which is the catch-all serve the hosts of each. -/
theorem mem_servedHosts {hostnames : List String} (h : ∀ p ∈ hostnames, IsPattern p) {x : String} :
    x ∈ servedHosts hostnames ↔ ∃ p ∈ hostnames, x ∈ hostsOf p := by
  constructor
  · rintro ⟨hx, p, hp, rfl | hmatch⟩
    · exact absurd rfl (ne_any_of_pattern (h _ hp))
    · exact ⟨p, hp, hx, hmatch⟩
  · rintro ⟨p, hp, hx, hmatch⟩
    exact ⟨hx, p, hp, .inr hmatch⟩

theorem servedHosts_any : servedHosts ["*"] = {x | IsConcrete x} := by
  ext x
  simp [servedHosts]

/-! ## Intersections -/

/-- A wildcard that covers another covers no more than itself. -/
theorem eq_of_covers_wildcard {wildcard suffix : String} (h : Covers wildcard ("*." ++ suffix)) :
    wildcard = "*." ++ suffix := by
  obtain ⟨suffix', label, rfl, heq, hlabel⟩ := h
  have heq : "*" ++ "." ++ suffix = label ++ "." ++ suffix' := by
    rw [← heq]
    rfl
  rw [(append_dot_inj (by decide) hlabel.2 heq).2]

/-- Where a pattern is covered, its hosts are the covering one's too. -/
theorem hostsOf_subset_of_covers {wildcard pattern : String} (hpattern : IsPattern pattern)
    (h : Covers wildcard pattern) : hostsOf pattern ⊆ hostsOf wildcard := by
  rcases hpattern with hconcrete | ⟨suffix, -, rfl⟩
  · rw [hostsOf_of_concrete hconcrete]
    rintro x rfl
    exact ⟨hconcrete, .inr h⟩
  · rw [eq_of_covers_wildcard h]

/-- Two patterns with a host in common are equal, or one covers the other. -/
theorem eq_or_covers_of_mem {p q x : String} (hp : x ∈ hostsOf p) (hq : x ∈ hostsOf q) :
    p = q ∨ Covers q p ∨ Covers p q := by
  rcases hp.2 with rfl | ⟨suffix, label, rfl, rfl, hlabel⟩
  · rcases hq.2 with rfl | hcovers
    · exact .inl rfl
    · exact .inr (.inl hcovers)
  · rcases hq.2 with rfl | ⟨suffix', label', rfl, heq, hlabel'⟩
    · exact .inr (.inr ⟨suffix, label, rfl, rfl, hlabel⟩)
    · rw [(append_dot_inj hlabel.2 hlabel'.2 heq).2]
      exact .inl rfl

/-- **The intersection of two patterns** is one that stands for the hosts of both, or
nothing where they have none in common. -/
theorem hostIntersection_hosts {route listener : String} (hroute : IsPattern route)
    (hlistener : IsPattern listener) :
    (∃ h, hostIntersection route listener = some h ∧ IsPattern h ∧
      hostsOf h = hostsOf route ∩ hostsOf listener) ∨
    (hostIntersection route listener = none ∧ hostsOf route ∩ hostsOf listener = ∅) := by
  unfold hostIntersection
  by_cases hnarrow : route = listener ∨ wildcardCovers listener route = true
  · rw [if_pos hnarrow]
    refine .inl ⟨route, rfl, hroute, (Set.inter_eq_left.2 ?_).symm⟩
    rcases hnarrow with rfl | hcovers
    · exact subset_rfl
    · exact hostsOf_subset_of_covers hroute (wildcardCovers_iff.1 hcovers)
  · rw [if_neg hnarrow]
    by_cases hwide : wildcardCovers route listener = true
    · rw [if_pos hwide]
      refine .inl ⟨listener, rfl, hlistener, (Set.inter_eq_right.2 ?_).symm⟩
      exact hostsOf_subset_of_covers hlistener (wildcardCovers_iff.1 hwide)
    · rw [if_neg hwide]
      refine .inr ⟨rfl, ?_⟩
      rw [Set.eq_empty_iff_forall_notMem]
      rintro x ⟨hxroute, hxlistener⟩
      rcases eq_or_covers_of_mem hxroute hxlistener with heq | hcovers | hcovers
      · exact hnarrow (.inl heq)
      · exact hnarrow (.inr (wildcardCovers_iff.2 hcovers))
      · exact hwide (wildcardCovers_iff.2 hcovers)

/-- What a route's hostnames serve on a listener with a hostname. -/
theorem servedHosts_filterMap {routes : List String} {listener : String}
    (hroutes : ∀ r ∈ routes, IsPattern r) (hlistener : IsPattern listener) :
    servedHosts (routes.filterMap fun r => hostIntersection r listener) =
      {x | ∃ r ∈ routes, x ∈ hostsOf r} ∩ hostsOf listener := by
  have hpatterns : ∀ h ∈ routes.filterMap (fun r => hostIntersection r listener), IsPattern h := by
    intro h hmem
    obtain ⟨r, hr, heq⟩ := List.mem_filterMap.1 hmem
    rcases hostIntersection_hosts (hroutes r hr) hlistener with ⟨h', heq', hpattern, -⟩ | ⟨hnone, -⟩
    · rw [heq] at heq'
      exact Option.some.inj heq' ▸ hpattern
    · rw [heq] at hnone
      cases hnone
  ext x
  rw [mem_servedHosts hpatterns]
  constructor
  · rintro ⟨h, hmem, hx⟩
    obtain ⟨r, hr, heq⟩ := List.mem_filterMap.1 hmem
    rcases hostIntersection_hosts (hroutes r hr) hlistener with ⟨h', heq', -, hhosts⟩ | ⟨hnone, -⟩
    · rw [heq] at heq'
      obtain rfl := Option.some.inj heq'
      rw [hhosts] at hx
      exact ⟨⟨r, hr, hx.1⟩, hx.2⟩
    · rw [heq] at hnone
      cases hnone
  · rintro ⟨⟨r, hr, hxroute⟩, hxlistener⟩
    have hboth : x ∈ hostsOf r ∩ hostsOf listener := ⟨hxroute, hxlistener⟩
    rcases hostIntersection_hosts (hroutes r hr) hlistener with ⟨h, heq, -, hhosts⟩ | ⟨-, hempty⟩
    · exact ⟨h, List.mem_filterMap.2 ⟨r, hr, heq⟩, hhosts ▸ hboth⟩
    · rw [hempty] at hboth
      exact absurd hboth (Set.notMem_empty x)

/-! ## Effective hostnames -/

/-- Some host is admitted by every listener. -/
theorem listenerHosts_nonempty {listener : Option String} (h : ∀ l ∈ listener, IsPattern l) :
    ∃ x, x ∈ listenerHosts listener := by
  cases listener with
  | none =>
    have hlabel : IsLabel "a" := ⟨by decide, by decide⟩
    have hconcrete := isConcrete_append hlabel (by decide) (.label hlabel)
    exact ⟨_, hconcrete⟩
  | some l => exact hostsOf_nonempty (h l rfl)

/-- A list of hostnames that is there but empty serves no host. -/
theorem servedHosts_empty_list (listener : Option String) :
    servedHosts (effectiveHostnames (some []) listener) = ∅ := by
  cases listener <;> simp [effectiveHostnames, servedHosts]

/-- A route's hostnames and a listener's meet in the hosts of both, unless the route's list
is there but empty. -/
theorem servedHosts_effectiveHostnames {route : Option (List String)} {listener : Option String}
    (hroute : ∀ hostnames ∈ route, ∀ h ∈ hostnames, IsPattern h)
    (hlistener : ∀ l ∈ listener, IsPattern l) (hne : route ≠ some []) :
    servedHosts (effectiveHostnames route listener) =
      routeHosts route ∩ listenerHosts listener := by
  have hconcrete : ∀ p, hostsOf p ⊆ {x | IsConcrete x} := fun p x hx => hx.1
  cases route with
  | none =>
    cases listener with
    | none => simp [effectiveHostnames, routeHosts, listenerHosts, servedHosts_any]
    | some l =>
      have hpatterns : ∀ p ∈ [l], IsPattern p := by
        intro p hp
        rw [List.mem_singleton.1 hp]
        exact hlistener l rfl
      ext x
      rw [effectiveHostnames, mem_servedHosts hpatterns]
      constructor
      · rintro ⟨p, hp, hx⟩
        rw [List.mem_singleton.1 hp] at hx
        exact ⟨hx.1, hx⟩
      · rintro ⟨-, hx⟩
        exact ⟨l, List.mem_singleton_self l, hx⟩
  | some routes =>
    have hpatterns := hroute routes rfl
    have hhosts : routeHosts (some routes) = {x | ∃ r ∈ routes, x ∈ hostsOf r} := by
      cases routes with
      | nil => exact absurd rfl hne
      | cons r routes => rfl
    rw [hhosts]
    cases listener with
    | none =>
      ext x
      rw [effectiveHostnames, mem_servedHosts hpatterns]
      constructor
      · rintro ⟨r, hr, hx⟩
        exact ⟨⟨r, hr, hx⟩, hx.1⟩
      · rintro ⟨hx, -⟩
        exact hx
    | some l => exact servedHosts_filterMap hpatterns (hlistener l rfl)

/-- **The hostnames a route serves on a listener stand for the hosts of both exactly when
the route's list is not there but empty.** -/
theorem effective_hostnames_iff (route : Option (List String)) (listener : Option String)
    (hroute : ∀ hostnames ∈ route, ∀ h ∈ hostnames, IsPattern h)
    (hlistener : ∀ l ∈ listener, IsPattern l) :
    (∀ x, IsConcrete x → (x ∈ servedHosts (effectiveHostnames route listener) ↔
        x ∈ routeHosts route ∧ x ∈ listenerHosts listener)) ↔
      route ≠ some [] := by
  constructor
  · rintro h rfl
    obtain ⟨x, hx⟩ := listenerHosts_nonempty hlistener
    have hconcrete : IsConcrete x := by
      cases listener with
      | none => exact hx
      | some l => exact hx.1
    have hserved := (h x hconcrete).2 ⟨hconcrete, hx⟩
    rw [servedHosts_empty_list] at hserved
    exact hserved
  · intro hne x _
    rw [servedHosts_effectiveHostnames hroute hlistener hne]
    exact Iff.rfl

/-- A wildcard route on a listener of one name. -/
theorem effective_hostnames_iff_wildcard :
    (∀ x, IsConcrete x →
      (x ∈ servedHosts (effectiveHostnames (some ["*.example.com"]) (some "app.example.com")) ↔
        x ∈ routeHosts (some ["*.example.com"]) ∧ x ∈ listenerHosts (some "app.example.com"))) ↔
      some ["*.example.com"] ≠ some [] := by
  have hcom : IsHostname "com" := .label ⟨by decide, by decide⟩
  have hexample : IsHostname ("example" ++ "." ++ "com") := .dot ⟨by decide, by decide⟩ hcom
  have hroute : IsPattern "*.example.com" := .inr ⟨"example.com", hexample, rfl⟩
  have happ : IsConcrete ("app" ++ "." ++ "example.com") :=
    isConcrete_append ⟨by decide, by decide⟩ (by decide) hexample
  refine effective_hostnames_iff _ _ ?_ ?_
  · rintro hostnames ⟨rfl⟩ h hh
    rw [List.mem_singleton.1 hh]
    exact hroute
  · rintro l ⟨rfl⟩
    exact .inl happ

/-- **A route that lists no hostname, in an empty list, serves none of a listener's
hosts.** -/
theorem effective_hostnames_emptyList :
    ¬∀ x, IsConcrete x →
      (x ∈ servedHosts (effectiveHostnames (some []) (some "app.example.com")) ↔
        x ∈ routeHosts (some []) ∧ x ∈ listenerHosts (some "app.example.com")) := by
  have hcom : IsHostname "com" := .label ⟨by decide, by decide⟩
  have hexample : IsHostname ("example" ++ "." ++ "com") := .dot ⟨by decide, by decide⟩ hcom
  have happ : IsConcrete ("app" ++ "." ++ "example.com") :=
    isConcrete_append ⟨by decide, by decide⟩ (by decide) hexample
  intro h
  have hserved := (h "app.example.com" happ).2 ⟨happ, happ, .inl rfl⟩
  rw [servedHosts_empty_list] at hserved
  exact hserved

end Builder

end SozuGateway
