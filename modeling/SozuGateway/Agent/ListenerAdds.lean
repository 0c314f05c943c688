import SozuGateway.Agent.Aggregate
import SozuGateway.Agent.MainProcess
import SozuGateway.Translator.Routing

/-!
# Duplicate listener adds

The agent tolerates the refused add of a listener when the text of the refusal says somewhere
that the object already exists.

* `Handling` — what Sōzu did with a listener add it answered with a failure: its main process
  refused it, or some worker did.
* `Genuine` — the listener is there: the main process held it, or holds it and no worker failed.
* `Clear` — the answers that the agent reads right; `acknowledged_iff` — no others.
* `listener_adds_settled` — in a batch whose listener adds are answered so, the replayable head
  holds genuine ones alone.
-/

set_option autoImplicit false

namespace SozuGateway

namespace Agent

open Lib Sozu

/-! ## What the workers say -/

section Texts

/-- Where a mark is not in a text, the text is in one side of the mark or in the other. -/
theorem infix_append_mark {α : Type*} {needle a b : List α} {c : α} (hc : c ∉ needle) :
    needle <:+: a ++ c :: b ↔ needle <:+: a ∨ needle <:+: b := by
  constructor
  · rintro ⟨before, after, h⟩
    rw [List.append_assoc] at h
    rcases List.append_eq_append_iff.1 h with ⟨w, hw, hrest⟩ | ⟨w, hw, hrest⟩
    · rcases List.append_eq_append_iff.1 hrest with ⟨z, hz, hafter⟩ | ⟨z, hz, hafter⟩
      · exact .inl ⟨before, z, by rw [hw, hz, List.append_assoc]⟩
      · cases z with
        | nil => exact .inl ⟨before, [], by rw [hw, hz]; simp⟩
        | cons d z =>
          obtain rfl : c = d := (List.cons.inj hafter).1
          exact absurd (hz ▸ List.mem_append_right w List.mem_cons_self) hc
    · cases w with
      | nil =>
        cases needle with
        | nil => exact .inl (List.nil_infix)
        | cons d needle =>
          obtain rfl : c = d := (List.cons.inj hrest).1
          exact absurd List.mem_cons_self hc
      | cons d w => exact .inr ⟨w, after, by rw [(List.cons.inj hrest).2]; simp⟩
  · rintro (h | h)
    · exact List.infix_append_of_infix_left h
    · exact List.infix_append_of_infix_right (List.infix_cons h)

/-- A worker's message says that the listener already exists. -/
def saysExists (message : String) : Bool := containsText (toAsciiLowercase message) "already exist"

/-- The text of it, on characters. -/
def existsText : List Char := "already exist".toList

theorem saysExists_iff {message : String} :
    saysExists message = true ↔ existsText <:+: message.toList.map Char.toLower := by
  have htext : (toAsciiLowercase message).toList = message.toList.map Char.toLower :=
    String.toList_ofList
  rw [saysExists, containsText, decide_eq_true_iff, htext]
  rfl

/-- A blank before a text does not start it. -/
theorem existsText_infix_blank {text : List Char} :
    existsText <:+: ' ' :: text ↔ existsText <:+: text := by
  rw [List.infix_cons_iff]
  refine ⟨fun h => h.resolve_left fun ⟨rest, heq⟩ => ?_, .inr⟩
  exact absurd (List.cons.inj heq).1 (by decide)

/-- A spelled answer holds the text where its message does. -/
theorem infix_answer {digits message : List Char} (hdigits : ∀ c ∈ digits, c.isDigit = true) :
    existsText <:+: (digits ++ ": ".toList ++ message).map Char.toLower ↔
      existsText <:+: message.map Char.toLower := by
  have hsplit : (digits ++ ": ".toList ++ message).map Char.toLower =
      digits.map Char.toLower ++ ':' :: (' ' :: message.map Char.toLower) := by
    simp
  have hnone : ¬existsText <:+: digits.map Char.toLower := by
    intro h
    have ha : 'a' ∈ existsText := by decide
    obtain ⟨c, hc, hlower⟩ := List.mem_map.1 (h.subset ha)
    rw [toLower_of_isDigit (hdigits c hc)] at hlower
    exact absurd (hlower ▸ hdigits c hc) (by decide)
  rw [hsplit, infix_append_mark (by decide), existsText_infix_blank]
  exact or_iff_right hnone

/-- **The aggregate says that the listener exists when a worker does.** -/
theorem saysExists_aggregate (answers : List WorkerAnswer) :
    saysExists (aggregate answers) = true ↔ ∃ a ∈ answers, saysExists a.message = true := by
  have hdigits : ∀ (a : WorkerAnswer), ∀ c ∈ Nat.toDigits 10 a.id, c.isDigit = true := fun a c hc =>
    Nat.isDigit_of_mem_toDigits (by decide) (by decide) hc
  rw [saysExists_iff, toList_aggregate]
  induction answers with
  | nil =>
    simp only [List.map_nil, joined, List.not_mem_nil, false_and, exists_false, iff_false]
    decide
  | cons a answers ih =>
    cases answers with
    | nil =>
      rw [List.map_singleton, joined, infix_answer (hdigits a), ← saysExists_iff]
      simp only [List.mem_singleton, exists_eq_left]
    | cons b answers =>
      have hjoined : (joined ((a :: b :: answers).map fun a =>
          (Nat.toDigits 10 a.id, a.message.toList))).map Char.toLower =
            (Nat.toDigits 10 a.id ++ ": ".toList ++ a.message.toList).map Char.toLower ++
              ',' :: (' ' :: (joined ((b :: answers).map fun a =>
                (Nat.toDigits 10 a.id, a.message.toList))).map Char.toLower) := by
        simp [joined]
      rw [hjoined, infix_append_mark (by decide), infix_answer (hdigits a),
        existsText_infix_blank, List.exists_mem_cons_iff, saysExists_iff]
      exact or_congr_right ih

end Texts

/-! ## A refused listener add -/

/-- The listener a request adds. -/
def addedListener : RequestType → Option (ListenerType × SocketAddress)
  | .addTcpListener l => some (.tcp, l.address)
  | .addUdpListener l => some (.udp, l.address)
  | _ => none

/-- A state holds the listener a request adds. -/
def HoldsAdded (s : ConfigState) (t : RequestType) : Prop :=
  ∃ proxy address, addedListener t = some (proxy, address) ∧ s.hasListener proxy address

/-- What Sōzu did with a request it answered with a failure: its main process refused it, or
dispatched it to the workers, and may have reverted it since. -/
inductive Handling where
  | main (e : StateError)
  | workers (answers : List WorkerAnswer) (reverted : Bool)

namespace Handling

/-- The text of the failure. -/
def text (m : MainProcess) (t : RequestType) : Handling → String
  | main e => m.refused t e
  | workers answers _ => aggregate answers

/-- What the main process's state becomes.  It reverts only what no worker acknowledged. -/
def Occurs (lib : Library) (t : RequestType) (s s' : ConfigState) : Handling → Prop
  | main e => lib.dispatch s t.into = .error e ∧ s' = s
  | workers answers reverted => ∃ dispatched, lib.dispatch s t.into = .ok dispatched ∧
      (reverted = true → ∀ a ∈ answers, isOk (trimText a.message) = false) ∧
      s' = if reverted then s else dispatched

/-- The listener is there: the main process refused the add because it holds it, or no worker
failed and the main process holds it. -/
def Genuine (t : RequestType) (s' : ConfigState) : Handling → Prop
  | main e => e = .alreadyExists ∧ HoldsAdded s' t
  | workers answers _ =>
      (∀ a ∈ answers, isOk (trimText a.message) = true ∨ saysExists a.message = true) ∧
        HoldsAdded s' t

/-- No worker says that the listener exists; or each says so or took it, and the main process
reverts nothing. -/
def Clear : Handling → Prop
  | main _ => True
  | workers answers reverted =>
      (∀ a ∈ answers, saysExists a.message = false) ∨
        (∀ a ∈ answers, isOk (trimText a.message) = true ∨ saysExists a.message = true) ∧
          reverted = false

end Handling

variable {lib : Library} {m : MainProcess} {t : RequestType} {s s' : ConfigState}

/-- The main process takes the add of a listener it does not hold, and then holds it. -/
theorem holdsAdded_of_dispatch (hlib : lib.Documented) (hs : WellFormed lib s)
    (ht : (addedListener t).isSome) (hdispatch : lib.dispatch s t.into = .ok s') :
    ¬HoldsAdded s t ∧ HoldsAdded s' t := by
  have hrefused : ¬Refused lib s t := fun h => by
    obtain ⟨e, he⟩ := hlib.dispatch_refused s t h
    rw [hdispatch] at he
    cases he
  cases t with
  | addTcpListener l =>
    have hnone : s.tcpListeners[l.address]? = none := not_not.1 hrefused
    obtain ⟨s'', hs'', hagrees⟩ := hlib.dispatch_fits s (.addTcpListener l) hs hnone
    rw [hdispatch, Except.ok.injEq] at hs''
    subst hs''
    refine ⟨?_, .tcp, l.address, rfl, ?_⟩
    · rintro ⟨proxy, address, heq, hheld⟩
      cases heq
      exact hheld hnone
    · show s'.tcpListeners[l.address]? ≠ none
      rw [hagrees.tcpListeners]
      simp [after]
  | addUdpListener l =>
    have hnone : s.udpListeners[l.address]? = none := not_not.1 hrefused
    obtain ⟨s'', hs'', hagrees⟩ := hlib.dispatch_fits s (.addUdpListener l) hs hnone
    rw [hdispatch, Except.ok.injEq] at hs''
    subst hs''
    refine ⟨?_, .udp, l.address, rfl, ?_⟩
    · rintro ⟨proxy, address, heq, hheld⟩
      cases heq
      exact hheld hnone
    · show s'.udpListeners[l.address]? ≠ none
      rw [hagrees.udpListeners]
      simp [after]
  | _ => cases ht

/-- It refuses only one that it holds. -/
theorem holdsAdded_of_refused (hlib : lib.Documented) (hs : WellFormed lib s)
    (ht : (addedListener t).isSome) {e : StateError}
    (hdispatch : lib.dispatch s t.into = .error e) : HoldsAdded s t := by
  have hfits : ¬Fits lib s t := fun h => by
    obtain ⟨s', hs', -⟩ := hlib.dispatch_fits s t hs h
    rw [hdispatch] at hs'
    cases hs'
  cases t with
  | addTcpListener l => exact ⟨.tcp, l.address, rfl, hfits⟩
  | addUdpListener l => exact ⟨.udp, l.address, rfl, hfits⟩
  | _ => cases ht

/-! ## One request -/

variable {σ : Type} {wire : Wire σ}

/-- **A refused listener add is acknowledged where the text says that the object exists.** -/
theorem applyRequest_listenerAdd (ht : (addedListener t).isSome) {a b : σ} {message : String}
    (hsend : wire.send t.into a = (.error (.failure message), b)) (progress : ℕ × ℕ) :
    applyRequest lib wire t.into progress a =
      if saysExists message then (.ok .established, b) else (.error (.failure message), b) := by
  have htype : t.into.requestType = some t := rfl
  have hsays : containsText (toAsciiLowercase message) "already exist" = saysExists message := rfl
  have hsettle : settleFailure lib wire t message progress b =
      if saysExists message then (.ok .established, b) else (.error (.failure message), b) := by
    cases t with
    | addTcpListener l =>
      simp [settleFailure, isAlreadyGone, RequestType.isTeardown, isDuplicateAdd, settleDuplicate,
        removalFor, isReplaceIntoEmptyListener, hsays]
    | addUdpListener l =>
      simp [settleFailure, isAlreadyGone, RequestType.isTeardown, isDuplicateAdd, settleDuplicate,
        removalFor, isReplaceIntoEmptyListener, hsays]
    | _ => cases ht
  simp only [applyRequest, hsend, htype, hsettle]

/-- The agent counts the request as acknowledged. -/
def Acknowledges (lib : Library) (wire : Wire σ) (t : RequestType) (progress : ℕ × ℕ) (a : σ) :
    Prop :=
  ∃ effect, (applyRequest lib wire t.into progress a).1 = .ok effect

/-- **An acknowledged listener add is genuine exactly where the answers are clear.** -/
theorem acknowledged_iff (hlib : lib.Documented) (hm : m.Documented) (hs : WellFormed lib s)
    (ht : (addedListener t).isSome) {h : Handling} (hoccurs : h.Occurs lib t s s') {a b : σ}
    (hsend : wire.send t.into a = (.error (.failure (h.text m t)), b)) (progress : ℕ × ℕ) :
    (Acknowledges lib wire t progress a → h.Genuine t s') ↔ h.Clear := by
  have hacknowledged : Acknowledges lib wire t progress a ↔ saysExists (h.text m t) = true := by
    rw [Acknowledges, applyRequest_listenerAdd ht hsend]
    cases saysExists (h.text m t) <;> simp
  have hudp : ∀ f, t ≠ .addUdpFrontend f := by
    rintro f rfl
    cases ht
  rw [hacknowledged]
  cases h with
  | main e =>
    obtain ⟨hdispatch, rfl⟩ := hoccurs
    refine iff_of_true (fun hsays => ⟨?_, holdsAdded_of_refused hlib hs ht hdispatch⟩) trivial
    by_contra he
    rw [saysExists, Handling.text, hm.not_exists t e he hudp] at hsays
    cases hsays
  | workers answers reverted =>
    obtain ⟨dispatched, hdispatch, -, rfl⟩ := hoccurs
    obtain ⟨hbefore, hafter⟩ := holdsAdded_of_dispatch hlib hs ht hdispatch
    have hholds : HoldsAdded (if reverted then s else dispatched) t ↔ reverted = false := by
      cases reverted <;> simp [hbefore, hafter]
    rw [Handling.text, saysExists_aggregate, Handling.Genuine, Handling.Clear, hholds]
    constructor
    · intro h
      by_cases hexists : ∃ a ∈ answers, saysExists a.message = true
      · exact .inr (h hexists)
      · refine .inl fun a ha => ?_
        rw [← Bool.not_eq_true]
        exact fun hsays => hexists ⟨a, ha, hsays⟩
    · rintro (hnone | hall) ⟨a, ha, hsays⟩
      · rw [hnone a ha] at hsays
        cases hsays
      · exact hall

/-! ## A batch -/

/-- The requests of a batch that are sent, each with what the agent knew when it was. -/
def sentIn (lib : Library) (wire : Wire σ) (total : ℕ) :
    ℕ → List Request → σ → List (Request × σ)
  | _, [], _ => []
  | applied, request :: requests, a =>
      match wire.abandoned a with
      | (true, _) => []
      | (false, a) =>
          (request, a) ::
            match applyRequest lib wire request (applied, total) a with
            | (.error _, _) => []
            | (.ok _, b) => sentIn lib wire total (applied + 1) requests b

/-- **Every request counted as acknowledged was sent, and settled.** -/
theorem sent_of_acknowledged {total applied : ℕ} {requests : List Request} {p : Progress} {a : σ}
    (hp : p.acknowledged = applied) {k : ℕ}
    (hk : applied + k < (applyTracked lib wire total applied requests p a).2.1.acknowledged) :
    ∃ request b effect, requests[k]? = some request ∧
      (sentIn lib wire total applied requests a)[k]? = some (request, b) ∧
      (applyRequest lib wire request (applied + k, total) b).1 = .ok effect := by
  induction requests generalizing applied p a k with
  | nil =>
    rw [applyTracked, hp] at hk
    omega
  | cons request requests ih =>
    rw [applyTracked] at hk
    rw [sentIn]
    cases habandoned : wire.abandoned a with
    | mk given b =>
      rw [habandoned] at hk
      cases given with
      | true =>
        rw [hp] at hk
        omega
      | false =>
        dsimp only at hk ⊢
        cases happly : applyRequest lib wire request (applied, total) b with
        | mk outcome c =>
          rw [happly] at hk
          cases outcome with
          | error e =>
            rw [hp] at hk
            omega
          | ok effect =>
            dsimp only at hk ⊢
            cases k with
            | zero => exact ⟨request, b, effect, rfl, rfl, by rw [Nat.add_zero, happly]⟩
            | succ k =>
              have hsettled : (p.settle applied effect).acknowledged = applied + 1 := by
                cases effect <;> rfl
              obtain ⟨r, d, effect', hr, hd, hok⟩ := ih hsettled (a := c) (k := k) (by omega)
              refine ⟨r, d, effect', hr, hd, ?_⟩
              rwa [show applied + (k + 1) = applied + 1 + k by omega]

/-- What is known of a wire to a Sōzu: the state of its main process, and what it did with a
listener add it answered with a failure. -/
structure Answers (lib : Library) (m : MainProcess) (wire : Wire σ) (view : σ → ConfigState)
    (handled : RequestType → σ → Handling) : Prop where
  wellFormed : ∀ a, WellFormed lib (view a)
  failed : ∀ t a message b, (addedListener t).isSome →
    wire.send t.into a = (.error (.failure message), b) →
      message = (handled t a).text m t ∧ (handled t a).Occurs lib t (view a) (view b)

/-- **A tolerated duplicate listener add is genuine exactly where the answers are clear**, and
where those to a batch are, its replayable head holds no listener add that a worker failed or that
Sōzu dropped. -/
theorem listener_adds_settled (hlib : lib.Documented) (hm : m.Documented)
    {view : σ → ConfigState} {handled : RequestType → σ → Handling}
    (hwire : Answers lib m wire view handled) :
    (∀ t a message b progress, (addedListener t).isSome →
      wire.send t.into a = (.error (.failure message), b) →
        ((Acknowledges lib wire t progress a → (handled t a).Genuine t (view b)) ↔
          (handled t a).Clear)) ∧
    ∀ requests a e b, applyUnless lib wire requests a = (.error e, b) →
      (∀ t c, (t.into, c) ∈ sentIn lib wire requests.length 0 requests a →
        (addedListener t).isSome →
          (∃ message d, wire.send t.into c = (.error (.failure message), d)) →
            (handled t c).Clear) →
      ∀ k < e.replayable, ∃ request c,
        requests[k]? = some request ∧
        (sentIn lib wire requests.length 0 requests a)[k]? = some (request, c) ∧
        ∀ t, request = t.into → (addedListener t).isSome → ∀ message d,
          wire.send request c = (.error (.failure message), d) →
            (handled t c).Genuine t (view d) := by
  have hone : ∀ t a message b progress, (addedListener t).isSome →
      wire.send t.into a = (.error (.failure message), b) →
        ((Acknowledges lib wire t progress a → (handled t a).Genuine t (view b)) ↔
          (handled t a).Clear) := by
    intro t a message b progress ht hsend
    obtain ⟨rfl, hoccurs⟩ := hwire.failed t a message b ht hsend
    exact acknowledged_iff hlib hm (hwire.wellFormed a) ht hoccurs hsend progress
  refine ⟨hone, fun requests a e b happly hclear k hk => ?_⟩
  have hacknowledged : k <
      (applyTracked lib wire requests.length 0 requests {} a).2.1.acknowledged := by
    rw [applyUnless] at happly
    split at happly
    · cases happly
    · rename_i cause progress c hrun
      rw [hrun]
      cases happly
      cases hunproven : progress.unproven with
      | none => simpa [hunproven] using hk
      | some i =>
        simp only [hunproven, Option.map_some, Option.getD_some] at hk
        exact lt_of_lt_of_le hk (min_le_left _ _)
  obtain ⟨request, c, effect, hrequest, hsent, hok⟩ :=
    sent_of_acknowledged (p := {}) rfl (by rwa [Nat.zero_add])
  refine ⟨request, c, hrequest, hsent, ?_⟩
  rintro t rfl ht message d hsend
  exact (hone t c message d _ ht hsend).2
    (hclear t c (List.mem_of_getElem? hsent) ht ⟨message, d, hsend⟩) ⟨effect, hok⟩

/-! Two workers: one holds the listener already, and the other takes it or cannot bind it. -/

attribute [local instance] asciiTable

/-- A TCP listener. -/
def databaseConfig : TcpListenerConfig :=
  ⟨⟨.v4 ⟨0, 0, 0, 0⟩, 5432⟩, none, false, 60, 30, 3, false⟩

/-- The main process's state before and after its add. -/
def fleetView : Bool → ConfigState
  | false => {}
  | true => after reference {} (.addTcpListener databaseConfig)

/-- A Sōzu whose workers answer the add so. -/
def fleetWire (answers : List WorkerAnswer) : Wire Bool where
  send request added :=
    if request = (RequestType.addTcpListener databaseConfig).into ∧ added = false then
      (.error (.failure (aggregate answers)), true)
    else (.ok ⟨.ok, "", none⟩, added)
  abandoned added := (false, added)

/-- The main process takes the listener it does not hold. -/
theorem dispatch_databaseConfig :
    reference.dispatch {} (RequestType.addTcpListener databaseConfig).into =
      .ok (fleetView true) := by
  have hnone : refusal reference {} (.addTcpListener databaseConfig) = none := by decide +kernel
  show dispatched _ {} (RequestType.addTcpListener databaseConfig).into = _
  rw [dispatched]
  simp only [RequestType.into, fleetView]
  exact congrArg (fun r : Option StateError =>
    r.elim (Except.ok (after reference {} (.addTcpListener databaseConfig))) Except.error) hnone

/-- A failed send is the add, to a main process that did not hold it. -/
theorem fleetWire_send {answers : List WorkerAnswer} {request : Request} {added : Bool}
    {message : String} {b : Bool}
    (h : (fleetWire answers).send request added = (.error (.failure message), b)) :
    request = (RequestType.addTcpListener databaseConfig).into ∧ added = false ∧
      message = aggregate answers ∧ b = true := by
  dsimp only [fleetWire] at h
  split at h
  · rename_i hadd
    cases h
    exact ⟨hadd.1, hadd.2, rfl, rfl⟩
  · cases h

theorem fleet_answers (answers : List WorkerAnswer) :
    Answers reference plainProcess (fleetWire answers) fleetView
      (fun _ _ => .workers answers false) where
  wellFormed added := by
    cases added with
    | false => exact Translator.empty_wellFormed
    | true =>
      have hfits : Fits reference {} (.addTcpListener databaseConfig) := by
        simp [Fits]
      exact Translator.empty_wellFormed.after hfits trivial
  failed t added message b ht hsend := by
    obtain ⟨hadd, rfl, rfl, rfl⟩ := fleetWire_send hsend
    obtain rfl := RequestType.into_inj.1 hadd
    exact ⟨rfl, fleetView true, dispatch_databaseConfig, fun h => Bool.noConfusion h, rfl⟩

/-- The one holds it, the other took it. -/
def takenAnswers : List WorkerAnswer :=
  [⟨0, "Could not execute order on config state: TcpListener with id_bytes=12 already exists"⟩,
    ⟨1, "OK"⟩]

/-- The one holds it, the other failed. -/
def dividedAnswers : List WorkerAnswer :=
  [⟨0, "Could not execute order on config state: TcpListener with id_bytes=12 already exists"⟩,
    ⟨1, "could not bind the listener: address in use"⟩]

/-- **A listener that one worker holds and the other takes is acknowledged, and it is there.** -/
theorem listener_adds_settled_taken :
    Acknowledges reference (fleetWire takenAnswers) (.addTcpListener databaseConfig) (0, 1) false ∧
      (Handling.workers takenAnswers false).Genuine (.addTcpListener databaseConfig)
        (fleetView true) := by
  have hsays : saysExists (aggregate takenAnswers) = true := by decide +kernel
  have hacknowledges : Acknowledges reference (fleetWire takenAnswers)
      (.addTcpListener databaseConfig) (0, 1) false := by
    refine ⟨.established, ?_⟩
    have hsend : (fleetWire takenAnswers).send (RequestType.addTcpListener databaseConfig).into
        false = (.error (.failure (aggregate takenAnswers)), true) := rfl
    rw [applyRequest_listenerAdd rfl hsend, if_pos hsays]
  have hclear : (Handling.workers takenAnswers false).Clear :=
    .inr ⟨by decide +kernel, rfl⟩
  exact ⟨hacknowledges, ((listener_adds_settled reference_documented plainProcess_documented
    (fleet_answers takenAnswers)).1 _ _ _ _ (0, 1) rfl rfl).2 hclear hacknowledges⟩

/-- **The agent acknowledges a listener add that a worker failed.** -/
theorem listener_add_divided :
    Answers reference plainProcess (fleetWire dividedAnswers) fleetView
        (fun _ _ => .workers dividedAnswers false) ∧
      Acknowledges reference (fleetWire dividedAnswers) (.addTcpListener databaseConfig) (0, 1)
        false ∧
      ¬(Handling.workers dividedAnswers false).Genuine (.addTcpListener databaseConfig)
        (fleetView true) := by
  refine ⟨fleet_answers _, ?_, ?_⟩
  · have hsays : saysExists (aggregate dividedAnswers) = true := by decide +kernel
    refine ⟨.established, ?_⟩
    have hsend : (fleetWire dividedAnswers).send (RequestType.addTcpListener databaseConfig).into
        false = (.error (.failure (aggregate dividedAnswers)), true) := rfl
    rw [applyRequest_listenerAdd rfl hsend, if_pos hsays]
  · rintro ⟨hall, -⟩
    have hnone : ¬∀ a ∈ dividedAnswers, isOk (trimText a.message) = true ∨
        saysExists a.message = true := by
      decide +kernel
    exact hnone hall

end Agent

end SozuGateway
