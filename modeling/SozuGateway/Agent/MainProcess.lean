import SozuGateway.Agent.Apply
import SozuGateway.Sozu.Reference

/-!
# A main process that dispatches

Sōzu's main process as the code documents it: it dispatches each request on its state,
words its refusals the way the agent reads them, and lists the frontends it holds.

* `Filed` — a state whose frontends are filed under their own keys, at most one on each
  layer-4 address.
* `FilesFrontends` — the dispatch of a frontend on such a state, and `Display`.
* `MainProcess` — the texts and the listings of a main process; `mainProcess` — the wire
  to one that dispatches on its state.
* `reference_filesFrontends`, `plainProcess_documented` — such a library and such a main
  process exist.
-/

set_option autoImplicit false

namespace SozuGateway

namespace Agent

open Lib Sozu

/-! ## The main process -/

/-- The request of a routing batch: everything but certificates and queries. -/
def isRouting : RequestType → Bool
  | .addTcpListener _ | .addUdpListener _ | .activateListener _ | .addCluster _ | .addBackend _
  | .removeFrontend _ _ | .removeTcpFrontend _ | .removeUdpFrontend _ | .addFrontend _ _
  | .addTcpFrontend _ | .addUdpFrontend _ | .removeBackend _ | .deactivateListener _
  | .removeListener _ | .removeCluster _ => true
  | _ => false

/-- The request adds or removes a frontend. -/
def isFrontend : RequestType → Bool
  | .addFrontend _ _ | .addTcpFrontend _ | .addUdpFrontend _ => true
  | t => isFrontendTeardown t

/-- The frontends of a state are filed under their own keys, at most one on each layer-4
address. -/
structure Filed (lib : Library) (s : ConfigState) : Prop where
  front_keyed : ∀ https (key : String) f, (s.fronts https)[key]? = some f → lib.display f = key
  tcp_filed : ∀ id, ∀ f ∈ s.tcpOf id, f.clusterId = id ∧ f.filed = f
  udp_keyed : ∀ id, ∀ f ∈ s.udpOf id, f.clusterId = id
  tcp_one : ∀ id id', ∀ f ∈ s.tcpOf id, ∀ g ∈ s.tcpOf id', f.address = g.address → f = g
  udp_one : ∀ id id', ∀ f ∈ s.udpOf id, ∀ g ∈ s.udpOf id', f.address = g.address → f = g

/-- What the code documents of the dispatch of a frontend and of its `Display`. -/
structure FilesFrontends (lib : Library) : Prop where
  /-- An accepted dispatch has the documented effect. -/
  fits : ∀ s t, Filed lib s → isFrontend t = true → Fits lib s t →
    ∃ s', lib.dispatch s t.into = .ok s' ∧ s'.Agrees (after lib s t)
  /-- The removal of what is not held is refused. -/
  refuses_removal : ∀ s t, Filed lib s → isFrontendTeardown t = true → ¬Fits lib s t →
    ∃ e, lib.dispatch s t.into = .error e
  /-- A payload Sōzu does not take, or a route key it holds, is refused. -/
  refuses_add : ∀ s v f, Refused lib s (.addFrontend v f) →
    ∃ e, lib.dispatch s (RequestType.addFrontend v f).into = .error e
  /-- A UDP frontend is refused only for a held address. -/
  refuses_udp : ∀ s f e, lib.dispatch s (RequestType.addUdpFrontend f).into = .error e →
    ∃ id, ∃ held ∈ s.udpOf id, held.address = f.address
  /-- `address;hostname;…`. -/
  display : ∀ f, ∃ address rest, ';' ∉ address ∧
    (lib.display f).toList = address ++ ';' :: (f.hostname.toList ++ ';' :: rest)

/-- How a main process answers. -/
structure MainProcess where
  /-- The text of an accepted request. -/
  accepted : RequestType → String
  /-- The text of a refusal. -/
  refused : RequestType → StateError → String
  /-- `ListFrontends`. -/
  list : ConfigState → Sozu.FrontendFilters → ListedFrontends

/-- The refusals are worded as the code matches them, and the listings are those of the
state. -/
structure MainProcess.Documented (m : MainProcess) : Prop where
  accepted : ∀ t, containsText (toAsciiLowercase (m.accepted t)) "nothing to remove" = false
  /-- The main process speaks for itself. -/
  single : ∀ t e, workerSegments (m.refused t e) = [m.refused t e]
  not_ok : ∀ t e, isOk (m.refused t e) = false
  gone : ∀ t e, t.isTeardown = true → e = .notFound ∨ e = .noChange →
    containsText (toAsciiLowercase (m.refused t e)) "did not find" = true ∨
      containsText (toAsciiLowercase (m.refused t e)) "did not bring any change" = true
  not_gone : ∀ t e, t.isTeardown = true → e ≠ .notFound → e ≠ .noChange →
    saysGone t (m.refused t e) = false
  already_exists : ∀ t, (∀ f, t ≠ .addUdpFrontend f) →
    containsText (toAsciiLowercase (m.refused t .alreadyExists)) "already exist" = true
  not_exists : ∀ t e, e ≠ .alreadyExists → (∀ f, t ≠ .addUdpFrontend f) →
    containsText (toAsciiLowercase (m.refused t e)) "already exist" = false
  udp : ∀ f e, containsText (toAsciiLowercase (m.refused (.addUdpFrontend f) e)) "already exist" ∨
    containsText (toAsciiLowercase (m.refused (.addUdpFrontend f) e))
      "is already claimed by another frontend"
  /-- The domain filter is a substring of the hostname. -/
  mem_fronts : ∀ s https domain f,
    f ∈ (m.list s ⟨!https, https, false, some domain, none⟩).fronts https ↔
      (∃ key : String, (s.fronts https)[key]? = some f) ∧ containsText f.hostname domain = true
  mem_tcp : ∀ s f, f ∈ (m.list s ⟨false, false, true, none, none⟩).tcpFrontends ↔
    ∃ id, f ∈ s.tcpOf id
  mem_udp : ∀ s f, f ∈ (m.list s ⟨false, false, true, none, none⟩).udpFrontends ↔
    ∃ id, f ∈ s.udpOf id

/-- The wire to a main process that dispatches what it is sent. -/
def mainProcess (lib : Library) (m : MainProcess) : Wire ConfigState where
  send request s :=
    match request.requestType with
    | none => (.error (.failure "empty request"), s)
    | some (.listFrontends filters) => (.ok ⟨.ok, "", some (.frontendList (m.list s filters))⟩, s)
    | some t =>
        match lib.dispatch s request with
        | .ok s' => (.ok ⟨.ok, m.accepted t, none⟩, s')
        | .error e => (.error (.failure (m.refused t e)), s)
  abandoned s := (false, s)

/-! ## They exist -/

theorem digitChar_ne_semicolon (n : ℕ) : n.digitChar ≠ ';' := by
  by_cases hn : n < 16
  · revert n
    decide
  · obtain ⟨k, rfl⟩ := Nat.exists_eq_add_of_le (not_lt.1 hn)
    rw [Nat.add_comm, show (k + 16).digitChar = '*' from rfl]
    decide

theorem not_mem_toDigits {b : ℕ} (hb : 1 < b) (n : ℕ) : ';' ∉ Nat.toDigits b n := by
  induction n using Nat.strong_induction_on with
  | _ n ih =>
    rw [Nat.toDigits_eq_if hb]
    split
    · rw [List.mem_singleton]
      exact (digitChar_ne_semicolon n).symm
    · rename_i hn
      have hlt : n / b < n := Nat.div_lt_self (by omega) hb
      rw [List.mem_append, List.mem_singleton, not_or]
      exact ⟨ih _ hlt, (digitChar_ne_semicolon _).symm⟩

theorem not_mem_intercalate {sep : List Char} {texts : List (List Char)} (hsep : ';' ∉ sep)
    (h : ∀ text ∈ texts, ';' ∉ text) : ';' ∉ sep.intercalate texts := by
  induction texts with
  | nil => exact List.not_mem_nil
  | cons text texts ih =>
    cases texts with
    | nil =>
      rw [List.intercalate_singleton]
      exact h text (by simp)
    | cons text' texts =>
      rw [List.intercalate_cons_cons, List.mem_append, List.mem_append, not_or, not_or]
      exact ⟨⟨h text (by simp), hsep⟩, ih fun t ht => h t (by simp [ht])⟩

theorem not_mem_fmtOctets (octets : List ℕ) : ';' ∉ SocketAddr.fmtOctets octets := by
  refine not_mem_intercalate (by decide) fun text htext => ?_
  obtain ⟨n, -, rfl⟩ := List.mem_map.1 htext
  exact not_mem_toDigits (by decide) n

theorem not_mem_fmtSubslice (segments : List ℕ) : ';' ∉ SocketAddr.fmtSubslice segments := by
  refine not_mem_intercalate (by decide) fun text htext => ?_
  obtain ⟨n, -, rfl⟩ := List.mem_map.1 htext
  exact not_mem_toDigits (by decide) n

theorem not_mem_fmtIpv6 (ip : Ipv6Addr) : ';' ∉ SocketAddr.fmtIpv6 ip := by
  unfold SocketAddr.fmtIpv6
  split
  · rw [List.mem_append, not_or]
    exact ⟨by decide, not_mem_fmtOctets _⟩
  · dsimp only
    split
    · rw [List.mem_append, List.mem_append, not_or, not_or]
      exact ⟨⟨not_mem_fmtSubslice _, by decide⟩, not_mem_fmtSubslice _⟩
    · exact not_mem_fmtSubslice _

/-- The `Display` of a wire address holds no `;`. -/
theorem not_mem_display (x : SocketAddress) : ';' ∉ x.toAddr.display := by
  obtain ⟨ip, port⟩ := x
  cases ip with
  | v4 ip =>
    show ';' ∉ SocketAddr.fmtOctets _ ++ ':' :: Nat.toDigits 10 _
    rw [List.mem_append, List.mem_cons, not_or, not_or]
    exact ⟨not_mem_fmtOctets _, by decide, not_mem_toDigits (by decide) _⟩
  | v6 ip =>
    show ';' ∉ '[' :: SocketAddr.fmtIpv6 ip ++ [] ++ "]:".toList ++ Nat.toDigits 10 _
    rw [List.append_nil, List.mem_append, List.mem_append, List.mem_cons, not_or, not_or, not_or]
    exact ⟨⟨⟨by decide, not_mem_fmtIpv6 ip⟩, by decide⟩, not_mem_toDigits (by decide) _⟩

/-- **The reference library files frontends as documented.** -/
theorem reference_filesFrontends [CharTable] : FilesFrontends reference where
  fits s t _ _ hfits := by
    refine ⟨after reference s t, ?_, .refl _⟩
    have hnone : refusal reference s t = none := refusal_eq_none_of_fits hfits
    show dispatched reference s t.into = .ok (after reference s t)
    simp [dispatched, RequestType.into, hnone]
  refuses_removal s t _ ht hnot := by
    have hsome : ∃ e, refusal reference s t = some e := by
      cases t with
      | removeFrontend v f =>
        cases hheld : (s.fronts v.https)[reference.display f]? with
        | none => exact ⟨.notFound, by simp [refusal, hheld]⟩
        | some held =>
          have hid : held.clusterId ≠ f.clusterId := fun hid => hnot ⟨held, hheld, hid⟩
          exact ⟨.notFound, by simp [refusal, hheld, hid]⟩
      | removeTcpFrontend f => exact ⟨.noChange, if_neg fun h => hnot (List.any_eq_true.1 h)⟩
      | removeUdpFrontend f =>
        refine ⟨.noChange, if_neg fun h => hnot ?_⟩
        obtain ⟨held, hheld, haddress⟩ := List.any_eq_true.1 h
        exact ⟨held, hheld, of_decide_eq_true haddress⟩
      | _ => cases ht
    obtain ⟨e, he⟩ := hsome
    refine ⟨e, ?_⟩
    show dispatched reference s t.into = .error e
    simp [dispatched, RequestType.into, he]
  refuses_add s v f hrefused := reference_documented.dispatch_refused s _ hrefused
  refuses_udp s f e he := by
    have hany : (membersOf s.udpFronts).any (·.address = f.address) = true := by
      by_contra hnone
      have hrefusal : refusal reference s (.addUdpFrontend f) = none := if_neg hnone
      have hdispatch : dispatched reference s (RequestType.addUdpFrontend f).into = .error e := he
      simp [dispatched, RequestType.into, hrefusal] at hdispatch
    obtain ⟨held, hheld, haddress⟩ := List.any_eq_true.1 hany
    obtain ⟨id, hid⟩ := mem_membersOf.1 hheld
    exact ⟨id, held, hid, of_decide_eq_true haddress⟩
  display f := by
    have hdisplay := displayed.eq_1 f
    have hlist := congrArg String.toList hdisplay
    rw [String.toList_ofList, List.append_assoc, List.cons_append] at hlist
    exact ⟨_, _, not_mem_display f.address, hlist⟩

/-- The refusals of a main process, under its prefix. -/
def udpClaimedText : String :=
  "Could not apply request on the main process state: UDP frontend address is already " ++
    "claimed by another frontend"

def notFoundText : String :=
  "Could not apply request on the main process state: Did not find the object"

def noChangeText : String :=
  "Could not apply request on the main process state: The request did not bring any change"

def alreadyExistsText : String :=
  "Could not apply request on the main process state: The object already exists"

def invalidText : String :=
  "Could not apply request on the main process state: The payload is invalid"

/-- How a refusal is worded, for a request that does not add a UDP frontend. -/
def refusalText : StateError → String
  | .notFound => notFoundText
  | .noChange => noChangeText
  | .alreadyExists => alreadyExistsText
  | .other _ => invalidText

/-- A main process that words its refusals so. -/
def plainProcess : MainProcess where
  accepted _ := "OK"
  refused t e :=
    match t with
    | .addUdpFrontend _ => udpClaimedText
    | _ => refusalText e
  list s filters :=
    let listed := fun (flag : Bool) (m : BTreeMap String RequestHttpFrontend) =>
      (valuesOf m).filter fun f => flag && filters.domain.all (containsText f.hostname)
    { httpFrontends := listed filters.http s.httpFronts
      httpsFrontends := listed filters.https s.httpsFronts
      tcpFrontends := if filters.tcp then membersOf s.tcpFronts else []
      udpFrontends := if filters.tcp then membersOf s.udpFronts else [] }

theorem refused_mem (t : RequestType) (e : StateError) : plainProcess.refused t e ∈
    [udpClaimedText, notFoundText, noChangeText, alreadyExistsText, invalidText] := by
  cases t <;> cases e <;> simp [plainProcess, refusalText]

theorem refused_eq {t : RequestType} (ht : ∀ f, t ≠ .addUdpFrontend f) (e : StateError) :
    plainProcess.refused t e = refusalText e := by
  cases t <;> first | rfl | exact absurd rfl (ht _)

theorem refused_eq_of_teardown {t : RequestType} (ht : t.isTeardown = true) (e : StateError) :
    plainProcess.refused t e = refusalText e := by
  refine refused_eq (fun f hf => ?_) e
  rw [hf] at ht
  cases ht

/-- **The plain main process answers as documented.** -/
theorem plainProcess_documented : plainProcess.Documented where
  accepted t := by
    show containsText (toAsciiLowercase "OK") _ = false
    decide +kernel
  single t e := by
    have hall : ∀ text ∈ [udpClaimedText, notFoundText, noChangeText, alreadyExistsText,
        invalidText], workerSegments text = [text] := by decide +kernel
    exact hall _ (refused_mem t e)
  not_ok t e := by
    have hall : ∀ text ∈ [udpClaimedText, notFoundText, noChangeText, alreadyExistsText,
        invalidText], isOk text = false := by decide +kernel
    exact hall _ (refused_mem t e)
  gone t e ht he := by
    rw [refused_eq_of_teardown ht]
    rcases he with rfl | rfl
    · exact .inl (by decide +kernel)
    · exact .inr (by decide +kernel)
  not_gone t e ht h₁ h₂ := by
    rw [refused_eq_of_teardown ht]
    refine saysGone_eq_false ?_
    cases e with
    | notFound => exact absurd rfl h₁
    | noChange => exact absurd rfl h₂
    | alreadyExists =>
      show ∀ needle ∈ _, containsText (toAsciiLowercase alreadyExistsText) needle = false
      decide +kernel
    | other message =>
      show ∀ needle ∈ _, containsText (toAsciiLowercase invalidText) needle = false
      decide +kernel
  already_exists t ht := by
    rw [refused_eq ht]
    decide +kernel
  not_exists t e he ht := by
    rw [refused_eq ht]
    cases e with
    | alreadyExists => exact absurd rfl he
    | notFound =>
      show containsText (toAsciiLowercase notFoundText) "already exist" = false
      decide +kernel
    | noChange =>
      show containsText (toAsciiLowercase noChangeText) "already exist" = false
      decide +kernel
    | other message =>
      show containsText (toAsciiLowercase invalidText) "already exist" = false
      decide +kernel
  udp f e := by
    refine .inr ?_
    show containsText (toAsciiLowercase udpClaimedText)
      "is already claimed by another frontend" = true
    decide +kernel
  mem_fronts s https domain f := by
    cases https <;>
      simp [plainProcess, ListedFrontends.fronts, ConfigState.fronts, mem_valuesOf]
  mem_tcp s f := by simp [plainProcess, mem_membersOf, ConfigState.tcpOf]
  mem_udp s f := by simp [plainProcess, mem_membersOf, ConfigState.udpOf]

end Agent

end SozuGateway
