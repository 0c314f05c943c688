import SozuGateway.Lib.Interleaving

/-!
# What a program has been told

Rules for programs whose requests depend on the answers they got, whatever the service is.

* `Exchange` — a request and its answer; `Prog.Heeds` — each request is as asked after what was said
  before it, the latest first.
* `Prog.Heeds.bind`, `Routine.Heeds.bind` — one program after another.
* `Prog.Said` — the requests a program can come to; `Prog.Heeds.asked_of_said` — they are as
  asked; `Prog.talk` — those it comes to with a service that is a function.
-/

set_option autoImplicit false

namespace SozuGateway

namespace Lib

variable {Req : Type} {Resp : Req → Type} {α β : Type}

/-- A request and its answer. -/
abbrev Exchange (Req : Type) (Resp : Req → Type) : Type := Σ r : Req, Resp r

namespace Prog

/-- After a conversation, each request is as asked, and what is returned is as `Q` says. -/
def Heeds (asked : List (Exchange Req Resp) → Req → Prop)
    (Q : α → List (Exchange Req Resp) → Prop) : List (Exchange Req Resp) → Prog Req Resp α → Prop
  | said, done a => Q a said
  | said, call r next => asked said r ∧ ∀ a, Heeds asked Q (⟨r, a⟩ :: said) (next a)

variable {asked : List (Exchange Req Resp) → Req → Prop}
  {Q R : α → List (Exchange Req Resp) → Prop} {said : List (Exchange Req Resp)}

theorem Heeds.weaken {p : Prog Req Resp α} (h : p.Heeds asked Q said)
    (hQ : ∀ a said, Q a said → R a said) : p.Heeds asked R said := by
  induction p generalizing said with
  | done a => exact hQ a said h
  | call r next ih => exact ⟨h.1, fun a => ih a (h.2 a)⟩

/-- **One program after another.** -/
theorem Heeds.bind {p : Prog Req Resp α} {f : α → Prog Req Resp β}
    {S : β → List (Exchange Req Resp) → Prop} (hp : p.Heeds asked R said)
    (hf : ∀ a said, R a said → (f a).Heeds asked S said) : (p.bind f).Heeds asked S said := by
  induction p generalizing said with
  | done a => exact hf a said hp
  | call r next ih => exact ⟨hp.1, fun a => ih a (hp.2 a)⟩

/-- The program can come to this request after this conversation. -/
inductive Said : Prog Req Resp α → List (Exchange Req Resp) → List (Exchange Req Resp) → Req → Prop
  | now {said r next} : Said (call r next) said said r
  | next {said said' r r' a} {next : Resp r → Prog Req Resp α} :
      Said (next a) (⟨r, a⟩ :: said) said' r' → Said (call r next) said said' r'

/-- **Every request it can come to is as asked.** -/
theorem Heeds.asked_of_said {p : Prog Req Resp α} (h : p.Heeds asked Q said)
    {said' : List (Exchange Req Resp)} {r : Req} (hsaid : p.Said said said' r) : asked said' r := by
  induction hsaid with
  | now => exact h.1
  | next _ ih => exact ih (h.2 _)

section Talk

variable {State : Type} (handler : State → (r : Req) → Resp r × State)

/-- The requests of a program to a service that is a function, each with what was said before. -/
def talk : Prog Req Resp α → State → List (Exchange Req Resp) →
    List (List (Exchange Req Resp) × Req)
  | done _, _, _ => []
  | call r next, s, said =>
      let answer := handler s r
      (said, r) :: talk (next answer.1) answer.2 (⟨r, answer.1⟩ :: said)

theorem said_of_mem_talk {p : Prog Req Resp α} {s : State} {said said' : List (Exchange Req Resp)}
    {r : Req} (h : (said', r) ∈ p.talk handler s said) : p.Said said said' r := by
  induction p generalizing s said with
  | done a => cases h
  | call r' next ih =>
    rcases List.mem_cons.1 h with heq | h
    · cases heq
      exact .now
    · exact .next (ih _ h)

end Talk

end Prog

namespace Routine

variable {Memo Error : Type} (asked : List (Exchange Req Resp) → Req → Prop)

/-- After a conversation that is as `A` says, each request of the program is as asked, and what it
returns, unless it fails, is as `Q` says. -/
def Heeds (A : List (Exchange Req Resp) → Prop) (x : Routine Req Resp Memo Error α)
    (Q : α → List (Exchange Req Resp) → Prop) : Prop :=
  ∀ memo said, A said → (x memo).Heeds asked (fun r said => ∀ a, r.1 = .ok a → Q a said) said

variable {asked} {A B : List (Exchange Req Resp) → Prop}
  {Q R : α → List (Exchange Req Resp) → Prop}

theorem Heeds.weaken {x : Routine Req Resp Memo Error α} (h : Heeds asked A x Q)
    (hA : ∀ said, B said → A said) (hQ : ∀ a said, Q a said → R a said) : Heeds asked B x R :=
  fun memo said hsaid => (h memo said (hA said hsaid)).weaken fun _ said hr a ha =>
    hQ a said (hr a ha)

theorem Heeds.pure {a : α} (h : ∀ said, A said → Q a said) :
    Heeds asked A (Pure.pure a : Routine Req Resp Memo Error α) Q := fun _ said hsaid b hb => by
  cases hb
  exact h said hsaid

theorem Heeds.fail {e : Error} :
    Heeds asked A (Routine.fail e : Routine Req Resp Memo Error α) Q := fun _ _ _ b hb => by
  cases hb

theorem Heeds.ofExcept {r : Except Error α} (h : ∀ said, A said → ∀ a, r = .ok a → Q a said) :
    Heeds asked A (Routine.ofExcept r : Routine Req Resp Memo Error α) Q :=
  fun _ said hsaid a ha => h said hsaid a ha

theorem Heeds.get {Q : Memo → List (Exchange Req Resp) → Prop}
    (h : ∀ memo said, A said → Q memo said) :
    Heeds asked A (Routine.get : Routine Req Resp Memo Error Memo) Q :=
  fun memo said hsaid b hb => by
  cases hb
  exact h memo said hsaid

theorem Heeds.modify {f : Memo → Memo} {Q : Unit → List (Exchange Req Resp) → Prop}
    (h : ∀ said, A said → Q () said) :
    Heeds asked A (Routine.modify f : Routine Req Resp Memo Error Unit) Q :=
  fun _ said hsaid b hb => by
    cases hb
    exact h said hsaid

/-- A request. -/
theorem Heeds.ask {r : Req} {Q : Resp r → List (Exchange Req Resp) → Prop}
    (h : ∀ said, A said → asked said r ∧ ∀ a, Q a (⟨r, a⟩ :: said)) :
    Heeds asked A (Routine.ask r : Routine Req Resp Memo Error (Resp r)) Q :=
  fun _ said hsaid => ⟨(h said hsaid).1, fun a b hb => by cases hb; exact (h said hsaid).2 a⟩

/-- **One step after another.** -/
theorem Heeds.bind {x : Routine Req Resp Memo Error α} {f : α → Routine Req Resp Memo Error β}
    {S : β → List (Exchange Req Resp) → Prop} (hx : Heeds asked A x R)
    (hf : ∀ a, Heeds asked (R a) (f a) S) : Heeds asked A (x >>= f) S := by
  intro memo said hsaid
  refine Prog.Heeds.bind (hx memo said hsaid) fun r said' hr => ?_
  obtain ⟨r, memo'⟩ := r
  cases r with
  | ok a => exact hf a memo' said' (hr a rfl)
  | error e => exact fun b hb => by cases hb

/-- A step whose failure is handled. -/
theorem Heeds.attempt {x : Routine Req Resp Memo Error α} (hx : Heeds asked A x Q) :
    Heeds asked A x.attempt fun r said => ∀ a, r = .ok a → Q a said := by
  intro memo said hsaid
  refine Prog.Heeds.bind (hx memo said hsaid) fun r said' hr r' hr' => ?_
  obtain rfl := Except.ok.inj hr'
  exact hr

end Routine

end Lib

end SozuGateway
