import Mathlib

/-!
# Programs over a shared service

A program that calls a service which others change too, and rules for what its calls do.

* `Prog` — a program, up to its next request; `Run` — a run of one, with the changes of others
  between its requests.  A request whose answer is lost may still reach the service.
* `Guarded` — every request that takes effect does what is asked, in every run that starts in and
  stays within some states; `Guarded.bind`, `Guarded.call` — its rules.
* `Routine` — a program with a memo that may fail; `Routine.Guarded.bind` — the rule for its steps.
* `Prog.exec` — a run without others, on a service that is a function.
-/

set_option autoImplicit false

namespace SozuGateway

namespace Lib

/-! ## Programs -/

/-- A program: done, or at a request with what follows each answer. -/
inductive Prog (Req : Type) (Resp : Req → Type) (α : Type) where
  | done (a : α)
  | call (r : Req) (next : Resp r → Prog Req Resp α)

namespace Prog

variable {Req : Type} {Resp : Req → Type} {α β γ : Type}

/-- One program after another. -/
def bind : Prog Req Resp α → (α → Prog Req Resp β) → Prog Req Resp β
  | done a, f => f a
  | call r next, f => call r fun a => bind (next a) f

end Prog

/-! ## Runs -/

/-- A service: how it serves a request, which answers say that none came, and what others do. -/
structure Service (State Req : Type) (Resp : Req → Type) where
  serves : State → (r : Req) → Resp r → State → Prop
  lost : (r : Req) → Resp r → Prop
  other : State → State → Prop

variable {State Req : Type} {Resp : Req → Type} {α β : Type}

/-- A change of the state: by the program, with the request, or by others. -/
structure Change (State Req : Type) where
  request : Option Req
  before : State
  after : State

/-- A run of a program from a state, with the requests that may still reach the service, up to
another state. -/
inductive Run (svc : Service State Req Resp) : State → List Req → Prog Req Resp α →
    List (Change State Req) → State → List Req → Prog Req Resp α → Prop
  | stop {s pending p} : Run svc s pending p [] s pending p
  | other {s s' t pending pending' p q log} : svc.other s s' →
      Run svc s' pending p log t pending' q →
        Run svc s pending p (⟨none, s, s'⟩ :: log) t pending' q
  | served {s s' t pending pending' q log r a} {next : Resp r → Prog Req Resp α} :
      svc.serves s r a s' → Run svc s' pending (next a) log t pending' q →
        Run svc s pending (.call r next) (⟨some r, s, s'⟩ :: log) t pending' q
  | lost {s t pending pending' q log r a} {next : Resp r → Prog Req Resp α} :
      svc.lost r a → Run svc s (r :: pending) (next a) log t pending' q →
        Run svc s pending (.call r next) log t pending' q
  | late {s s' t pending pending' p q log r a} : r ∈ pending → svc.serves s r a s' →
      Run svc s' pending p log t pending' q →
        Run svc s pending p (⟨some r, s, s'⟩ :: log) t pending' q

/-- All states of a run are among these. -/
def Throughout (within : State → Prop) (s : State) (log : List (Change State Req)) : Prop :=
  within s ∧ ∀ c ∈ log, within c.after

theorem Throughout.head {within : State → Prop} {s : State} {c : Change State Req}
    {log : List (Change State Req)} (h : Throughout within s (c :: log)) :
    within c.after ∧ Throughout within c.after log :=
  ⟨h.2 c List.mem_cons_self, h.2 c List.mem_cons_self, fun c' hc' =>
    h.2 c' (List.mem_cons_of_mem _ hc')⟩

/-- The parts of a run are within the states of the whole. -/
theorem Run.throughout_append {svc : Service State Req Resp} {within : State → Prop} {s t : State}
    {w v : List Req} {p q : Prog Req Resp α} {log log' : List (Change State Req)}
    (h : Run svc s w p log t v q) (hwithin : Throughout within s (log ++ log')) :
    Throughout within s log ∧ Throughout within t log' := by
  induction h with
  | stop => exact ⟨⟨hwithin.1, by simp⟩, hwithin⟩
  | lost _ _ ih => exact ih hwithin
  | other _ _ ih | served _ _ ih | late _ _ _ ih =>
    obtain ⟨hhead, htail⟩ := ih hwithin.head.2
    refine ⟨⟨hwithin.1, fun c hc => ?_⟩, htail⟩
    rcases List.mem_cons.1 hc with rfl | hc
    · exact hwithin.head.1
    · exact hhead.2 c hc

/-- A run of two programs is one of the first, or one of both. -/
theorem Run.bind_cases {svc : Service State Req Resp} {s t : State} {w v : List Req}
    {p : Prog Req Resp α} {f : α → Prog Req Resp β} {log : List (Change State Req)}
    {q : Prog Req Resp β} (h : Run svc s w (p.bind f) log t v q) :
    (∃ p', Run svc s w p log t v p' ∧ q = p'.bind f) ∨
      ∃ a log₁ log₂ u x, Run svc s w p log₁ u x (.done a) ∧ Run svc u x (f a) log₂ t v q ∧
        log = log₁ ++ log₂ := by
  generalize hpf : p.bind f = pf at h
  induction h generalizing p with
  | stop => exact .inl ⟨p, .stop, hpf.symm⟩
  | other hother hrun ih =>
    rcases ih hpf with ⟨p', hp', rfl⟩ | ⟨a, log₁, log₂, u, x, h₁, h₂, rfl⟩
    · exact .inl ⟨p', .other hother hp', rfl⟩
    · exact .inr ⟨a, _ :: log₁, log₂, u, x, .other hother h₁, h₂, rfl⟩
  | late hmem hserves hrun ih =>
    rcases ih hpf with ⟨p', hp', rfl⟩ | ⟨a, log₁, log₂, u, x, h₁, h₂, rfl⟩
    · exact .inl ⟨p', .late hmem hserves hp', rfl⟩
    · exact .inr ⟨a, _ :: log₁, log₂, u, x, .late hmem hserves h₁, h₂, rfl⟩
  | served hserves hrun ih =>
    cases p with
    | done a =>
      have hfa : f a = .call _ _ := hpf
      exact .inr ⟨a, [], _, _, _, .stop, by rw [hfa]; exact .served hserves hrun, rfl⟩
    | call r next =>
      cases hpf
      rcases ih rfl with ⟨p', hp', rfl⟩ | ⟨a, log₁, log₂, u, x, h₁, h₂, rfl⟩
      · exact .inl ⟨p', .served hserves hp', rfl⟩
      · exact .inr ⟨a, _ :: log₁, log₂, u, x, .served hserves h₁, h₂, rfl⟩
  | lost hlost hrun ih =>
    cases p with
    | done a =>
      have hfa : f a = .call _ _ := hpf
      exact .inr ⟨a, [], _, _, _, .stop, by rw [hfa]; exact .lost hlost hrun, rfl⟩
    | call r next =>
      cases hpf
      rcases ih rfl with ⟨p', hp', rfl⟩ | ⟨a, log₁, log₂, u, x, h₁, h₂, rfl⟩
      · exact .inl ⟨p', .lost hlost hp', rfl⟩
      · exact .inr ⟨a, log₁, log₂, u, x, .lost hlost h₁, h₂, rfl⟩

/-! ## What is kept -/

section Rules

variable (svc : Service State Req Resp) (within : State → Prop)
  (asked : Req → State → State → Prop)

/-- The state moves, by others or by a request. -/
def Service.Moves (s s' : State) : Prop := svc.other s s' ∨ ∃ r a, svc.serves s r a s'

/-- No move makes it false. -/
def Stable (A : State → Prop) : Prop := ∀ s s', svc.Moves s s' → A s → A s'

/-- What no move makes false holds after a run as before it. -/
theorem Run.keeps {F : State → Prop} (hF : Stable svc F) {s t : State} {w v : List Req}
    {p q : Prog Req Resp α} {log : List (Change State Req)} (h : Run svc s w p log t v q)
    (hs : F s) : F t := by
  induction h with
  | stop => exact hs
  | lost _ _ ih => exact ih hs
  | other hother _ ih => exact ih (hF _ _ (.inl hother) hs)
  | served hserves _ ih => exact ih (hF _ _ (.inr ⟨_, _, hserves⟩) hs)
  | late _ hserves _ ih => exact ih (hF _ _ (.inr ⟨_, _, hserves⟩) hs)

/-- The request does what is asked whenever it takes effect from now on. -/
def Covered (r : Req) (s : State) : Prop :=
  ∃ A, Stable svc A ∧ A s ∧
    ∀ t a t', within t → within t' → A t → svc.serves t r a t' → asked r t t'

theorem stable_covered (r : Req) : Stable svc (Covered svc within asked r) := by
  rintro s s' hmoves ⟨A, hA, hs, hasked⟩
  exact ⟨A, hA, hA s s' hmoves hs, hasked⟩

/-- From the states of `A` the requests of a program do what is asked, and what it returns is as
`Q` says, in every run that stays within some states. -/
def Guarded (A : State → Prop) (p : Prog Req Resp α) (Q : α → State → Prop) : Prop :=
  ∀ s w log t v q, Run svc s w p log t v q → Throughout within s log → A s →
    (∀ r ∈ w, Covered svc within asked r s) →
      (∀ c ∈ log, ∀ r, c.request = some r → asked r c.before c.after) ∧
        (∀ r ∈ v, Covered svc within asked r t) ∧ ∀ a, q = .done a → Q a t

variable {svc within asked} {A B : State → Prop} {Q R : α → State → Prop}

theorem Guarded.weaken {p : Prog Req Resp α} (h : Guarded svc within asked A p Q)
    (hA : ∀ s, B s → A s) (hQ : ∀ a s, Q a s → R a s) : Guarded svc within asked B p R := by
  intro s w log t v q hrun hwithin hs hw
  obtain ⟨hasked, hv, hdone⟩ := h s w log t v q hrun hwithin (hA s hs) hw
  exact ⟨hasked, hv, fun a ha => hQ a t (hdone a ha)⟩

/-- What is known of the first state may be used. -/
theorem Guarded.intro {p : Prog Req Resp α}
    (h : ∀ s, A s → ∃ B : State → Prop, B s ∧ Guarded svc within asked B p Q) :
    Guarded svc within asked A p Q := by
  intro s w log t v q hrun hwithin hs hw
  obtain ⟨B, hB, hp⟩ := h s hs
  exact hp s w log t v q hrun hwithin hB hw

/-- **What no move makes false is kept beside.** -/
theorem Guarded.frame {p : Prog Req Resp α} {F : State → Prop} (hF : Stable svc F)
    (h : Guarded svc within asked A p Q) :
    Guarded svc within asked (fun s => A s ∧ F s) p fun a s => Q a s ∧ F s := by
  intro s w log t v q hrun hwithin hs hw
  obtain ⟨hasked, hv, hdone⟩ := h s w log t v q hrun hwithin hs.1 hw
  exact ⟨hasked, hv, fun a ha => ⟨hdone a ha, hrun.keeps svc hF hs.2⟩⟩

/-- A step of others, or of a late request, before the rest of a run. -/
theorem Guarded.step {s s' : State} {w v : List Req} {request : Option Req}
    {log : List (Change State Req)} {t : State} {q : Prog Req Resp α}
    (hmoves : svc.Moves s s')
    (hstep : ∀ r, request = some r → asked r s s')
    (hw : ∀ r ∈ w, Covered svc within asked r s)
    (hrest : (∀ r ∈ w, Covered svc within asked r s') →
      (∀ c ∈ log, ∀ r, c.request = some r → asked r c.before c.after) ∧
        (∀ r ∈ v, Covered svc within asked r t) ∧ ∀ a, q = .done a → Q a t) :
    (∀ c ∈ (⟨request, s, s'⟩ : Change State Req) :: log, ∀ r, c.request = some r →
        asked r c.before c.after) ∧
      (∀ r ∈ v, Covered svc within asked r t) ∧ ∀ a, q = .done a → Q a t := by
  obtain ⟨hasked, hv, hdone⟩ := hrest fun r hr => stable_covered svc within asked r s s' hmoves
    (hw r hr)
  refine ⟨fun c hc => ?_, hv, hdone⟩
  rcases List.mem_cons.1 hc with rfl | hc
  · exact hstep
  · exact hasked c hc

/-- A program that is done. -/
theorem Guarded.done {a : α} (hA : Stable svc A) (h : ∀ s, A s → Q a s) :
    Guarded svc within asked A (.done a) Q := by
  intro s w log t v q hrun
  generalize hp : Prog.done a = p at hrun
  induction hrun with
  | stop =>
    intro _ hs hw
    subst hp
    exact ⟨by simp, hw, fun b hb => by cases hb; exact h _ hs⟩
  | other hother _ ih =>
    intro hwithin hs hw
    exact Guarded.step (.inl hother) (by simp) hw fun hw' =>
      ih hp hwithin.head.2 (hA _ _ (.inl hother) hs) hw'
  | late hmem hserves _ ih =>
    intro hwithin hs hw
    have hmoves : svc.Moves _ _ := .inr ⟨_, _, hserves⟩
    refine Guarded.step hmoves (fun r hr => ?_) hw fun hw' =>
      ih hp hwithin.head.2 (hA _ _ hmoves hs) hw'
    obtain rfl := Option.some.inj hr
    obtain ⟨B, -, hB, hasked⟩ := hw _ hmem
    exact hasked _ _ _ hwithin.1 hwithin.head.1 hB hserves
  | served => cases hp
  | lost => cases hp

/-- A request, and what follows. -/
theorem Guarded.call {r : Req} {next : Resp r → Prog Req Resp α} {S : Resp r → State → Prop}
    (hA : Stable svc A)
    (hserves : ∀ s a s', within s → within s' → A s → svc.serves s r a s' →
      asked r s s' ∧ S a s')
    (hlost : ∀ s a, A s → svc.lost r a → S a s)
    (hnext : ∀ a, Guarded svc within asked (S a) (next a) Q) :
    Guarded svc within asked A (.call r next) Q := by
  intro s w log t v q hrun
  generalize hp : Prog.call r next = p at hrun
  induction hrun with
  | stop =>
    intro _ hs hw
    subst hp
    exact ⟨by simp, hw, fun b hb => by cases hb⟩
  | other hother _ ih =>
    intro hwithin hs hw
    exact Guarded.step (.inl hother) (by simp) hw fun hw' =>
      ih hp hwithin.head.2 (hA _ _ (.inl hother) hs) hw'
  | late hmem hlate _ ih =>
    intro hwithin hs hw
    have hmoves : svc.Moves _ _ := .inr ⟨_, _, hlate⟩
    refine Guarded.step hmoves (fun r hr => ?_) hw fun hw' =>
      ih hp hwithin.head.2 (hA _ _ hmoves hs) hw'
    obtain rfl := Option.some.inj hr
    obtain ⟨B, -, hB, hasked⟩ := hw _ hmem
    exact hasked _ _ _ hwithin.1 hwithin.head.1 hB hlate
  | served hserved hrun _ =>
    intro hwithin hs hw
    cases hp
    obtain ⟨hasked, hS⟩ := hserves _ _ _ hwithin.1 hwithin.head.1 hs hserved
    refine Guarded.step (.inr ⟨_, _, hserved⟩) (fun r hr => ?_) hw fun hw' =>
      hnext _ _ _ _ _ _ _ hrun hwithin.head.2 hS hw'
    cases hr
    exact hasked
  | lost hl hrun _ =>
    intro hwithin hs hw
    cases hp
    refine hnext _ _ _ _ _ _ _ hrun hwithin (hlost _ _ hs hl) fun r' hr' => ?_
    rcases List.mem_cons.1 hr' with rfl | hr'
    · -- it may still reach the service, in a state of `A`
      exact ⟨A, hA, hs, fun t a t' ht ht' hAt hlate => (hserves t a t' ht ht' hAt hlate).1⟩
    · exact hw r' hr'

/-- **One program after another.** -/
theorem Guarded.bind {p : Prog Req Resp α} {f : α → Prog Req Resp β} {Q : β → State → Prop}
    (hp : Guarded svc within asked A p R) (hf : ∀ a, Guarded svc within asked (R a) (f a) Q) :
    Guarded svc within asked A (p.bind f) Q := by
  intro s w log t v q hrun hwithin hs hw
  rcases hrun.bind_cases with ⟨p', hp', rfl⟩ | ⟨a, log₁, log₂, u, x, h₁, h₂, rfl⟩
  · obtain ⟨hasked, hv, hdone⟩ := hp s w log t v p' hp' hwithin hs hw
    refine ⟨hasked, hv, fun b hb => ?_⟩
    cases p' with
    | done a =>
      have happend : Throughout within s (log ++ []) := by rwa [List.append_nil]
      have hstop := (hrun.throughout_append happend).2
      exact (hf a t v [] t v _ .stop hstop (hdone a rfl) hv).2.2 b hb
    | call r next => cases hb
  · obtain ⟨hwithin₁, hwithin₂⟩ := h₁.throughout_append hwithin
    obtain ⟨hasked₁, hx, hdone⟩ := hp s w log₁ u x _ h₁ hwithin₁ hs hw
    obtain ⟨hasked₂, hv, hdone₂⟩ := hf a u x log₂ t v q h₂ hwithin₂ (hdone a rfl) hx
    refine ⟨fun c hc => ?_, hv, hdone₂⟩
    exact (List.mem_append.1 hc).elim (hasked₁ c) (hasked₂ c)

end Rules

/-! ## Programs that may fail -/

/-- A program that keeps a memo and may fail. -/
def Routine (Req : Type) (Resp : Req → Type) (Memo Error α : Type) : Type :=
  Memo → Prog Req Resp (Except Error α × Memo)

namespace Routine

variable {Memo Error : Type}

/-- The next step takes what this one returns, unless it fails. -/
def bind (x : Routine Req Resp Memo Error α) (f : α → Routine Req Resp Memo Error β) :
    Routine Req Resp Memo Error β := fun memo =>
  (x memo).bind fun r => match r with
    | (.ok a, memo) => f a memo
    | (.error e, memo) => .done (.error e, memo)

instance : Monad (Routine Req Resp Memo Error) where
  pure a := fun memo => .done (.ok a, memo)
  bind := bind

/-- Fail. -/
def fail (e : Error) : Routine Req Resp Memo Error α := fun memo => .done (.error e, memo)

/-- What a step returns, or how it failed. -/
def attempt (x : Routine Req Resp Memo Error α) : Routine Req Resp Memo Error (Except Error α) :=
  fun memo => (x memo).bind fun r => .done (.ok r.1, r.2)

/-- The memo. -/
def get : Routine Req Resp Memo Error Memo := fun memo => .done (.ok memo, memo)

/-- A change of the memo. -/
def modify (f : Memo → Memo) : Routine Req Resp Memo Error Unit :=
  fun memo => .done (.ok (), f memo)

/-- A request. -/
def ask (r : Req) : Routine Req Resp Memo Error (Resp r) := fun memo =>
  .call r fun a => .done (.ok a, memo)

/-- A result that may be an error. -/
def ofExcept (r : Except Error α) : Routine Req Resp Memo Error α := fun memo => .done (r, memo)

section Rules

variable (svc : Service State Req Resp) (within : State → Prop)
  (asked : Req → State → State → Prop)

/-- From the states of `A` its requests do what is asked, and what it returns, unless it fails, is
as `Q` says. -/
def Guarded (A : State → Prop) (x : Routine Req Resp Memo Error α) (Q : α → State → Prop) : Prop :=
  ∀ memo, Lib.Guarded svc within asked A (x memo) fun r s => ∀ a, r.1 = .ok a → Q a s

variable {svc within asked} {A B : State → Prop} {Q R : α → State → Prop}

theorem Guarded.weaken {x : Routine Req Resp Memo Error α} (h : Guarded svc within asked A x Q)
    (hA : ∀ s, B s → A s) (hQ : ∀ a s, Q a s → R a s) : Guarded svc within asked B x R :=
  fun memo => (h memo).weaken hA fun _ s hr a ha => hQ a s (hr a ha)

theorem Guarded.intro {x : Routine Req Resp Memo Error α}
    (h : ∀ s, A s → ∃ B : State → Prop, B s ∧ Guarded svc within asked B x Q) :
    Guarded svc within asked A x Q := fun memo =>
  .intro fun s hs => (h s hs).imp fun _ hB => ⟨hB.1, hB.2 memo⟩

theorem Guarded.frame {x : Routine Req Resp Memo Error α} {F : State → Prop}
    (hF : Stable svc F) (h : Guarded svc within asked A x Q) :
    Guarded svc within asked (fun s => A s ∧ F s) x fun a s => Q a s ∧ F s := fun memo =>
  ((h memo).frame hF).weaken (fun _ hs => hs) fun _ _ hr a ha => ⟨hr.1 a ha, hr.2⟩

theorem Guarded.pure {a : α} (hA : Stable svc A) (h : ∀ s, A s → Q a s) :
    Guarded svc within asked A (Pure.pure a : Routine Req Resp Memo Error α) Q := fun memo =>
  .done hA fun s hs b hb => by cases hb; exact h s hs

theorem Guarded.fail {e : Error} (hA : Stable svc A) :
    Guarded svc within asked A (Routine.fail e : Routine Req Resp Memo Error α) Q := fun _ =>
  .done hA fun s hs b hb => by cases hb

theorem Guarded.ofExcept {r : Except Error α} (hA : Stable svc A)
    (h : ∀ s, A s → ∀ a, r = .ok a → Q a s) :
    Guarded svc within asked A (Routine.ofExcept r : Routine Req Resp Memo Error α) Q := fun _ =>
  .done hA fun s hs a ha => h s hs a ha

theorem Guarded.get {Q : Memo → State → Prop} (hA : Stable svc A) (h : ∀ memo s, A s → Q memo s) :
    Guarded svc within asked A (Routine.get : Routine Req Resp Memo Error Memo) Q := fun memo =>
  .done hA fun s hs b hb => by cases hb; exact h memo s hs

theorem Guarded.modify {f : Memo → Memo} {Q : Unit → State → Prop} (hA : Stable svc A)
    (h : ∀ s, A s → Q () s) :
    Guarded svc within asked A (Routine.modify f : Routine Req Resp Memo Error Unit) Q :=
  fun memo =>
  .done hA fun s hs b hb => by cases hb; exact h s hs

/-- **One step after another.** -/
theorem Guarded.bind {x : Routine Req Resp Memo Error α} {f : α → Routine Req Resp Memo Error β}
    {Q : β → State → Prop} (hx : Guarded svc within asked A x R)
    (hf : ∀ a, Guarded svc within asked (R a) (f a) Q) :
    Guarded svc within asked A (x >>= f) Q := by
  intro memo
  refine Lib.Guarded.bind (hx memo) fun r => ?_
  obtain ⟨r, memo'⟩ := r
  cases r with
  | ok a => exact (hf a memo').weaken (fun s hs => hs a rfl) fun _ _ hQ => hQ
  | error e =>
    have hstable : Stable svc fun _ : State => True := fun _ _ _ _ => trivial
    have hdone := @Lib.Guarded.done _ _ _ _ svc within asked _
      (fun r s => ∀ b, r.1 = .ok b → Q b s) ((.error e, memo') : Except Error β × Memo) hstable
      fun s _ b hb => by cases hb
    exact hdone.weaken (fun _ _ => trivial) fun _ _ hQ => hQ

/-- A step after a result that may be an error. -/
theorem Guarded.bind_ofExcept {r : Except Error α} {f : α → Routine Req Resp Memo Error β}
    {Q : β → State → Prop} (hA : Stable svc A)
    (hf : ∀ a, r = .ok a → Guarded svc within asked A (f a) Q) :
    Guarded svc within asked A (Routine.ofExcept r >>= f) Q := by
  have hr : Guarded svc within asked A
      (Routine.ofExcept r : Routine Req Resp Memo Error α) fun a s => r = .ok a ∧ A s :=
    .ofExcept hA fun s hs a ha => ⟨ha, hs⟩
  exact hr.bind fun a => .intro fun s hs => ⟨A, hs.2, hf a hs.1⟩

/-- A step whose failure is handled. -/
theorem Guarded.attempt {x : Routine Req Resp Memo Error α} (hx : Guarded svc within asked A x Q)
    (hQ : ∀ a, Stable svc (Q a)) :
    Guarded svc within asked A x.attempt fun r s => ∀ a, r = .ok a → Q a s := by
  intro memo
  refine Lib.Guarded.bind (hx memo) fun r => .done ?_ fun s hs r' hr' => ?_
  · exact fun s s' hmoves hs a ha => hQ a s s' hmoves (hs a ha)
  · obtain rfl := Except.ok.inj hr'
    exact hs

/-- A request. -/
theorem Guarded.ask {r : Req} {Q : Resp r → State → Prop} (hA : Stable svc A)
    (hQ : ∀ a, Stable svc (Q a))
    (hserves : ∀ s a s', within s → within s' → A s → svc.serves s r a s' →
      asked r s s' ∧ Q a s')
    (hlost : ∀ s a, A s → svc.lost r a → Q a s) :
    Guarded svc within asked A (Routine.ask r : Routine Req Resp Memo Error (Resp r)) Q :=
  fun memo =>
  .call hA hserves hlost fun a => .done (hQ a) fun s hs b hb => by cases hb; exact hs

end Rules

end Routine

/-! ## A service that is a function -/

section Exec

variable (handler : State → (r : Req) → Resp r × State)

/-- The changes a program makes on such a service, the last state and what is returned. -/
def Prog.exec : Prog Req Resp α → State → List (Change State Req) × State × α
  | .done a, s => ([], s, a)
  | .call r next, s =>
      let answer := handler s r
      let rest := Prog.exec (next answer.1) answer.2
      (⟨some r, s, answer.2⟩ :: rest.1, rest.2)

variable {handler} {kept : State → Prop}

/-- What the service keeps holds throughout. -/
theorem exec_throughout (h : ∀ s r, kept s → kept (handler s r).2) (p : Prog Req Resp α)
    {s : State} (hs : kept s) : Throughout kept s (p.exec handler s).1 := by
  induction p generalizing s with
  | done a => exact ⟨hs, by simp [Prog.exec]⟩
  | call r next ih =>
    have hrest := ih (handler s r).1 (h s r hs)
    refine ⟨hs, fun c hc => ?_⟩
    rcases List.mem_cons.1 hc with rfl | hc
    · exact h s r hs
    · exact hrest.2 c hc

/-- It is a run. -/
theorem run_exec {svc : Service State Req Resp} (hkept : ∀ s r, kept s → kept (handler s r).2)
    (h : ∀ s r, kept s → svc.serves s r (handler s r).1 (handler s r).2) (p : Prog Req Resp α)
    {s : State} (hs : kept s) :
    Run svc s [] p (p.exec handler s).1 (p.exec handler s).2.1 []
      (.done (p.exec handler s).2.2) := by
  induction p generalizing s with
  | done a => exact .stop
  | call r next ih => exact .served (h s r hs) (ih _ (hkept s r hs))

end Exec

end Lib

end SozuGateway
