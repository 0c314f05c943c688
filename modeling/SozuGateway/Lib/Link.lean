import Mathlib.Data.List.Basic
import Mathlib.Data.List.Nodup

/-!
# A client of a service that restarts

A client talks to whoever answers at an address.  The service restarts, and each restart puts a
new identity there; the client's connection stays with whom it was opened to until it is dropped.

* `Link` — who is at the address, and whom the client is connected to.
* `Run` — restarts, answers, drops and connections, in any order.
* `Seen` — an identity the client was once connected to, with what that excludes for what is
  ahead; `Seen.reaches` — once the client has left an identity it never reaches it again.
* `Seen.answered` — while the client still reaches an identity, every answer came from it.
* `Fresh` — no restart ahead brings back an identity that is or was in use.
-/

set_option autoImplicit false

namespace SozuGateway

namespace Lib

/-- Who answers at the address, and whom the client is connected to. -/
structure Link (S : Type*) where
  path : S
  channel : Option S

namespace Link

variable {S A : Type*}

/-- What a run shows. -/
inductive Event (S A : Type*) where
  | restart (identity : S)
  | answer (peer : S) (content : A)

/-- The identities the restarts of a run brought, in order. -/
def restarts (es : List (Event S A)) : List S :=
  es.filterMap fun
    | .restart identity => some identity
    | .answer _ _ => none

/-- The answers of a run, each with whom it came from. -/
def answers (es : List (Event S A)) : List (S × A) :=
  es.filterMap fun
    | .restart _ => none
    | .answer peer content => some (peer, content)

theorem restarts_append (es es' : List (Event S A)) :
    restarts (es ++ es') = restarts es ++ restarts es' := List.filterMap_append

theorem answers_append (es es' : List (Event S A)) :
    answers (es ++ es') = answers es ++ answers es' := List.filterMap_append

@[simp] theorem restarts_map_restart (identities : List S) :
    restarts (identities.map (Event.restart (A := A))) = identities := by
  induction identities with
  | nil => rfl
  | cons identity identities ih => exact congrArg (identity :: ·) ih

@[simp] theorem answers_map_restart (identities : List S) :
    answers (identities.map (Event.restart (A := A))) = [] := by
  induction identities with
  | nil => rfl
  | cons identity identities ih => exact ih

/-- Restarts, answers, drops and connections, in any order. -/
inductive Run : Link S → List (Event S A) → Link S → Prop
  | refl (l : Link S) : Run l [] l
  | restart {l l' : Link S} {s : S} {es : List (Event S A)} :
      Run { l with path := s } es l' → Run l (.restart s :: es) l'
  | answer {l l' : Link S} {s : S} {a : A} {es : List (Event S A)} :
      l.channel = some s → Run l es l' → Run l (.answer s a :: es) l'
  | drop {l l' : Link S} {es : List (Event S A)} :
      Run { l with channel := none } es l' → Run l es l'
  /-- The client connects to whoever is at the address. -/
  | connect {l l' : Link S} {es : List (Event S A)} :
      l.channel = none → Run { l with channel := some l.path } es l' → Run l es l'

theorem Run.trans {l₁ l₂ l₃ : Link S} {es es' : List (Event S A)} (h : Run l₁ es l₂)
    (h' : Run l₂ es' l₃) : Run l₁ (es ++ es') l₃ := by
  induction h with
  | refl l => exact h'
  | restart _ ih => exact .restart (ih h')
  | answer hs _ ih => exact .answer hs (ih h')
  | drop _ ih => exact .drop (ih h')
  | connect hnone _ ih => exact .connect hnone (ih h')

/-- Whom the client talks to next: its connection, or else whoever is at the address. -/
def Reaches (l : Link S) (s : S) : Prop := l.channel.getD l.path = s

/-- The client was once connected to `s`: no restart ahead brings it back, and a client connected
elsewhere has left it behind. -/
structure Seen (ahead : List S) (l : Link S) (s : S) : Prop where
  not_ahead : s ∉ ahead
  left : ∀ c, l.channel = some c → c ≠ s → l.path ≠ s

theorem seen_of_none {ahead : List S} {l : Link S} {s : S} (hnone : l.channel = none)
    (hs : s ∉ ahead) : Seen ahead l s :=
  ⟨hs, fun c hc _ => absurd (hnone.symm.trans hc) (by simp)⟩

theorem Seen.mono {ahead ahead' : List S} {l : Link S} {s : S} (h : Seen ahead l s)
    (hsub : ahead' ⊆ ahead) : Seen ahead' l s :=
  ⟨fun hs => h.not_ahead (hsub hs), h.left⟩

/-- **A run keeps what was seen.** -/
theorem Seen.run {l l' : Link S} {es : List (Event S A)} {ahead : List S} {s : S}
    (hrun : Run l es l') (h : Seen (restarts es ++ ahead) l s) : Seen ahead l' s := by
  induction hrun with
  | refl l => exact h
  | @restart l l' s' es _ ih =>
    have hne : s' ≠ s := fun heq => h.not_ahead (by simp [restarts, heq])
    exact ih ⟨fun hs => h.not_ahead (List.mem_cons_of_mem _ hs), fun _ _ _ => hne⟩
  | answer _ _ ih => exact ih h
  | drop _ ih => exact ih (seen_of_none rfl h.not_ahead)
  | connect _ _ ih =>
    refine ih ⟨h.not_ahead, fun c hc hne => ?_⟩
    obtain rfl := Option.some.inj hc
    exact hne

/-- **The client never comes back**: whom it reaches after a run it reached before. -/
theorem Seen.reaches {l l' : Link S} {es : List (Event S A)} {s : S} (hrun : Run l es l')
    (h : Seen (restarts es) l s) (hreach : l'.Reaches s) : l.Reaches s := by
  induction hrun with
  | refl l => exact hreach
  | @restart l l' s' es _ ih =>
    have hne : s' ≠ s := fun heq => h.not_ahead (by simp [restarts, heq])
    have hafter := ih ⟨fun hs => h.not_ahead (List.mem_cons_of_mem _ hs), fun _ _ _ => hne⟩ hreach
    unfold Reaches at hafter ⊢
    cases hchannel : l.channel with
    | none => exact absurd (by simpa [hchannel] using hafter) hne
    | some c => simpa [hchannel] using hafter
  | answer _ _ ih => exact ih h hreach
  | drop _ ih =>
    have hafter := ih (seen_of_none rfl h.not_ahead) hreach
    unfold Reaches at hafter ⊢
    rename_i l _ _ _
    cases hchannel : l.channel with
    | none => simpa [hchannel] using hafter
    | some c =>
      by_contra hne
      exact h.left c hchannel (by simpa [hchannel] using hne) (by simpa using hafter)
  | connect hnone _ ih =>
    have hafter := ih ⟨h.not_ahead, fun c hc hne => Option.some.inj hc ▸ hne⟩ hreach
    unfold Reaches at hafter ⊢
    rw [hnone]
    simpa using hafter

/-- **While the client still reaches an identity, every answer came from it.** -/
theorem Seen.answered {l l' : Link S} {es : List (Event S A)} {s : S} (hrun : Run l es l')
    (h : Seen (restarts es) l s) (hreach : l'.Reaches s) : ∀ x ∈ answers es, x.1 = s := by
  induction hrun with
  | refl l => exact fun x hx => absurd hx List.not_mem_nil
  | @restart l l' s' es _ ih =>
    have hne : s' ≠ s := fun heq => h.not_ahead (by simp [restarts, heq])
    exact ih ⟨fun hs => h.not_ahead (List.mem_cons_of_mem _ hs), fun _ _ _ => hne⟩ hreach
  | @answer l l' peer a es hpeer hrest ih =>
    intro x hx
    rcases List.mem_cons.1 hx with rfl | hx
    · have hbefore : l.Reaches s := Seen.reaches hrest h hreach
      simpa [Reaches, hpeer] using hbefore
    · exact ih h hreach x hx
  | drop _ ih => exact ih (seen_of_none rfl h.not_ahead) hreach
  | connect _ _ ih =>
    exact ih ⟨h.not_ahead, fun c hc hne => Option.some.inj hc ▸ hne⟩ hreach

/-- No restart ahead brings back an identity that is or was in use. -/
structure Fresh (ahead : List S) (l : Link S) : Prop where
  nodup : ahead.Nodup
  path : l.path ∉ ahead
  channel : ∀ c, l.channel = some c → c ∉ ahead

theorem Fresh.mono {ahead ahead' : List S} {l : Link S} (h : Fresh ahead l)
    (hsub : ahead'.Sublist ahead) : Fresh ahead' l :=
  ⟨h.nodup.sublist hsub, fun hp => h.path (hsub.subset hp),
    fun c hc hmem => h.channel c hc (hsub.subset hmem)⟩

theorem Fresh.run {l l' : Link S} {es : List (Event S A)} {ahead : List S} (hrun : Run l es l')
    (h : Fresh (restarts es ++ ahead) l) : Fresh ahead l' := by
  induction hrun with
  | refl l => exact h
  | restart _ ih =>
    have hnodup := List.nodup_cons.1 h.nodup
    exact ih ⟨hnodup.2, hnodup.1, fun c hc hmem => h.channel c hc (List.mem_cons_of_mem _ hmem)⟩
  | answer _ _ ih => exact ih h
  | drop _ ih => exact ih ⟨h.nodup, h.path, fun c hc => absurd hc (by simp)⟩
  | connect _ _ ih => exact ih ⟨h.nodup, h.path, fun _ hc => Option.some.inj hc ▸ h.path⟩

/-- Whom the client is connected to has been seen. -/
theorem Fresh.seen {ahead : List S} {l : Link S} {s : S} (h : Fresh ahead l)
    (hs : l.channel = some s) : Seen ahead l s :=
  ⟨h.channel s hs, fun _ hc hne => absurd (Option.some.inj (hc.symm.trans hs)) hne⟩

end Link

end Lib

end SozuGateway
