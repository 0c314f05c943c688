import SozuGateway.Controller.Shadow

/-!
# Restarts of Sōzu and of the controller

The run loop of `main`, the thread of its agent, the file of the shadow and Sōzu itself, in any
order of steps.

* `Awaited` — what the loop waits for: the answer to a probe or to a batch, or the next pass.
* `Label` — one step: of the loop, of the thread (one job, during which Sōzu may restart), of
  Sōzu, or of the container around them.  The loop shares one counter with the thread, and what
  it reads there may lag.
* `System.step`, `System.run` — the state after a step, and after a list of them.
* `Unmasked` — what the shadow and its file are worth: once the agent has left the Sōzu a baseline
  was written against, it never comes back to it, and until then every object of the baseline was
  acknowledged by it.
* `restart_never_masked` — where no reconnect is pending, every object of the shadow was
  acknowledged by the Sōzu that answers.
-/

set_option autoImplicit false

namespace SozuGateway

namespace Controller

open Lib Sozu Agent Translator

/-! ## The system -/

/-- What the loop waits for. -/
inductive Awaited where
  /-- The process has started. -/
  | booting
  /-- The first probe, whose answer says which file to trust. -/
  | starting
  | started (answer : Except QueryError SozuGeneration)
  /-- The file is loaded and a reconnect is pending. -/
  | loaded
  /-- The next pass. -/
  | idle
  /-- A probe, with the epoch read before it. -/
  | probing (pending : ℕ) (atStart : Bool)
  | probed (pending : ℕ) (atStart : Bool) (answer : Except QueryError SozuGeneration)
  /-- A batch. -/
  | applying (desired : Ir) (batch : List Request)
  | applied (desired : Ir) (batch : List Request) (result : Except ApplyError Unit)

/-- What a batch came to on the thread. -/
structure Settled where
  batch : List Request
  acknowledged : ℕ
  answers : List (SocketIdentity × Answer)

structure System where
  agent : SozuAgent := {}
  world : World
  next : ℕ := 0
  /-- The epoch the loop last acknowledged. -/
  ackedReconnects : ℕ := 0
  shadow : Shadow := {}
  file : Option Shadow := none
  phase : Awaited := .booting
  /-- The batches the thread ran. -/
  settled : List Settled := []

/-- One step. -/
inductive Label where
  /-- Sōzu, or whoever holds a connection. -/
  | outside (actions : List PeerAction)
  /-- A job of another handle: a metrics query, a `Status`. -/
  | job (request : Request) (turns : List Turn)
  /-- The file can no longer be read. -/
  | lose
  /-- The controller restarts. -/
  | restart
  /-- The loop reads the epoch before the first probe. -/
  | boot (lag : ℕ)
  /-- The thread answers a probe. -/
  | generation (turns : List Turn)
  /-- The loop loads the file, and looks at the epoch again. -/
  | load (lag : ℕ)
  /-- The loop reads the epoch and asks for the generation. -/
  | probe (lag : ℕ)
  /-- The loop takes the answer; a reset is written, or not. -/
  | check (written : Bool)
  /-- A pass that has something to apply. -/
  | reconcile (desired : Ir)
  /-- The thread applies the batch. -/
  | apply (turns : List (List Turn)) (gaveUp : List Bool)
  /-- The loop takes the result. -/
  | settle (written : Bool)
  /-- The loop gives up on the batch. -/
  | timeout

/-- The sockets a step puts at the path. -/
def Label.restarts : Label → List SocketIdentity
  | .outside actions => actions.filterMap PeerAction.restarted
  | .job _ turns | .generation turns => restartsIn turns
  | .apply turns _ => turns.flatMap restartsIn
  | _ => []

namespace System

/-- The first start, before any file. -/
def start (path : SocketIdentity) : System := { world := { path } }

def link (s : System) : Link SocketIdentity := Agent.link s.agent s.world

/-- The epoch as the loop reads it. -/
def reconnectEpoch (s : System) (lag : ℕ) : ℕ := s.agent.reconnects - lag

/-- The session of a job. -/
def session (s : System) (turns : List (List Turn)) (gaveUp : List Bool) : Session :=
  { agent := s.agent, world := s.world, next := s.next, turns, gaveUp }

/-- The system after a job. -/
def resume (s : System) (done : Session) : System :=
  { s with agent := done.agent, world := done.world, next := done.next }

section Step

variable [CharTable] (lib : Library) (shadowFile : String)

/-- The answer to a probe, acknowledged only when there is one. -/
def check (s : System) (written : Bool) (pending : ℕ) (atStart : Bool)
    (answer : Except QueryError SozuGeneration) : System :=
  match checkRestartGeneration answer s.shadow with
  | (.probeFailed, shadow) =>
      { s with shadow := if atStart then Shadow.empty none else shadow, phase := .idle }
  | (.reset, shadow) =>
      { s with
        ackedReconnects := pending
        shadow
        file := persist shadowFile written shadow s.file
        phase := .idle }
  | (.unchanged, shadow) => { s with ackedReconnects := pending, shadow, phase := .idle }

/-- The result of a batch. -/
def settle (s : System) (written : Bool) (desired : Ir) (batch : List Request) :
    Except ApplyError Unit → System
  | .ok () =>
      let shadow := { s.shadow with ir := desired }
      { s with shadow, file := persist shadowFile written shadow s.file, phase := .idle }
  | .error failure =>
      match replayAcknowledged lib s.shadow desired batch failure.replayable with
      | some shadow =>
          { s with shadow, file := persist shadowFile written shadow s.file, phase := .idle }
      | none => { s with phase := .idle }

/-- One step.  A step the loop does not wait for changes nothing. -/
def step (s : System) : Label → System
  | .outside actions => { s with world := actions.foldl World.act s.world }
  | .job request turns => s.resume ((s.session [turns] []).send request).2
  | .lose => { s with file := none }
  | .restart =>
      { s with agent := {}, ackedReconnects := 0, shadow := {}, phase := .booting }
  | .boot lag =>
      match s.phase with
      | .booting => { s with ackedReconnects := s.reconnectEpoch lag, phase := .starting }
      | _ => s
  | .generation turns =>
      let (answer, done) := Agent.generation (s.session [turns] [])
      match s.phase with
      | .starting => { s.resume done with phase := .started answer }
      | .probing pending atStart => { s.resume done with phase := .probed pending atStart answer }
      | _ => s
  | .load lag =>
      match s.phase with
      | .started answer =>
          { s with
            shadow := loadInitial shadowFile s.file answer.toOption
            phase := if s.reconnectEpoch lag = s.ackedReconnects then .idle else .loaded }
      | _ => s
  | .probe lag =>
      match s.phase with
      | .idle => { s with phase := .probing (s.reconnectEpoch lag) false }
      | .loaded => { s with phase := .probing (s.reconnectEpoch lag) true }
      | _ => s
  | .check written =>
      match s.phase with
      | .probed pending atStart answer => s.check shadowFile written pending atStart answer
      | _ => s
  | .reconcile desired =>
      match s.phase, Translator.reconcile lib s.shadow.ir desired with
      | .idle, .ok batch => if batch = [] then s else { s with phase := .applying desired batch }
      | _, _ => s
  | .apply turns gaveUp =>
      match s.phase with
      | .applying desired batch =>
          let (result, done) := applyUnless lib Session.wire batch (s.session turns gaveUp)
          { s.resume done with
            phase := .applied desired batch result
            settled := s.settled ++ [⟨batch, acknowledgedOf batch result, done.answers⟩] }
      | _ => s
  | .settle written =>
      match s.phase with
      | .applied desired batch result => s.settle lib shadowFile written desired batch result
      | _ => s
  | .timeout =>
      match s.phase with
      | .applying _ _ | .applied _ _ _ => { s with phase := .idle }
      | _ => s

/-- A list of steps. -/
def run (s : System) (labels : List Label) : System := labels.foldl (step lib shadowFile) s

end Step

end System

/-! ## What was acknowledged -/

/-- The request was settled in a batch all of whose answers came from the socket, one of them to
it. -/
def Acknowledged (settled : List Settled) (socket : SocketIdentity) (request : Request) : Prop :=
  ∃ job ∈ settled, request ∈ job.batch.take job.acknowledged ∧
    (∃ x ∈ job.answers, x.2.request = request) ∧ ∀ x ∈ job.answers, x.1 = socket

theorem Acknowledged.mono {settled settled' : List Settled} {socket : SocketIdentity}
    {request : Request} (h : Acknowledged settled socket request) (hsub : settled ⊆ settled') :
    Acknowledged settled' socket request := by
  obtain ⟨job, hjob, hrest⟩ := h
  exact ⟨job, hsub hjob, hrest⟩

/-- An answer of Sōzu's that no reconnect came after: the agent is connected to it. -/
def Answering (s : System) (epoch : ℕ) (g : SozuGeneration) : Prop :=
  epoch = s.agent.reconnects → s.link.channel = some g.socket

/-! ## Time passing -/

/-- What the thread and Sōzu do while the loop waits. -/
structure Passes (before ahead : List SocketIdentity) (s s' : System) : Prop where
  run : ∃ es : List (Link.Event SocketIdentity Answer), Link.Run s.link es s'.link ∧
    (Link.restarts es ++ ahead).Sublist before
  sound : Agent.Sound s'.agent s'.world
  epoch_le : s.agent.reconnects ≤ s'.agent.reconnects
  kept : s'.agent.reconnects = s.agent.reconnects → s.agent.channel ≠ none →
    s'.agent.channel = s.agent.channel
  settled : s.settled ⊆ s'.settled

variable {before ahead : List SocketIdentity} {s s' : System}

namespace Passes

variable (h : Passes before ahead s s')

include h

theorem seen {socket : SocketIdentity} (hseen : Link.Seen before s.link socket) :
    Link.Seen ahead s'.link socket := by
  obtain ⟨es, hrun, hsub⟩ := h.run
  exact Link.Seen.run hrun (hseen.mono hsub.subset)

theorem reaches {socket : SocketIdentity} (hseen : Link.Seen before s.link socket)
    (hreach : s'.link.Reaches socket) : s.link.Reaches socket := by
  obtain ⟨es, hrun, hsub⟩ := h.run
  refine Link.Seen.reaches hrun (hseen.mono fun x hx => hsub.subset ?_) hreach
  exact List.mem_append_left _ hx

theorem fresh (hfresh : Link.Fresh before s.link) : Link.Fresh ahead s'.link := by
  obtain ⟨es, hrun, hsub⟩ := h.run
  exact Link.Fresh.run hrun (hfresh.mono hsub)

theorem answering {epoch : ℕ} {g : SozuGeneration} (hle : epoch ≤ s.agent.reconnects)
    (hanswering : Answering s epoch g) : Answering s' epoch g := by
  intro heq
  have hle' := h.epoch_le
  have hchannel := hanswering (by omega)
  have hne : s.agent.channel ≠ none := fun hnone => by
    simp [System.link, Agent.link, hnone] at hchannel
  have hkept := h.kept (by omega) hne
  simpa [System.link, Agent.link, hkept] using hchannel

end Passes

theorem passes_outside (hsound : Agent.Sound s.agent s.world) (actions : List PeerAction) :
    Passes (actions.filterMap PeerAction.restarted ++ ahead) ahead s
      { s with world := actions.foldl World.act s.world } := by
  obtain ⟨hrun, hpeers⟩ := restarts_foldl_act s.agent s.world actions
  exact ⟨⟨_, hrun, by rw [Link.restarts_map_restart]⟩, hsound.keep hpeers, le_rfl, fun _ _ => rfl,
    fun _ h => h⟩

/-- A job, whatever it is. -/
theorem passes_resume {turns : List (List Turn)} {gaveUp : List Bool} {done : Session}
    (hruns : Session.Runs (s.session turns gaveUp) ahead done) :
    Passes (turns.flatMap restartsIn ++ ahead) ahead s (s.resume done) := by
  obtain ⟨es, hrun, hsub, -⟩ := hruns.advances.run
  refine ⟨⟨es, hrun, ?_⟩, hruns.sound, hruns.advances.epoch_le, hruns.advances.kept, fun _ h => h⟩
  have hmine := (List.sublist_append_left (Link.restarts es) done.ahead).trans hsub
  exact hmine.append (.refl ahead)

section Invariant

variable [CharTable] (lib : Library)

/-- What a baseline is worth: its Sōzu was seen, and as long as the agent reaches it, it
acknowledged every object of the baseline. -/
def Held (ahead : List SocketIdentity) (l : Link SocketIdentity) (settled : List Settled)
    (shadow : Shadow) : Prop :=
  ∀ g, shadow.generation = some g → Link.Seen ahead l g.socket ∧
    (l.Reaches g.socket → Established lib (Acknowledged settled g.socket) shadow.ir)

/-- What holds while the loop waits. -/
def Waits (ahead : List SocketIdentity) (s : System) : Awaited → Prop
  | .loaded | .idle => True
  | .booting | .starting => s.shadow = {}
  | .started answer => s.shadow = {} ∧ ∀ g, answer = .ok g →
      Link.Seen ahead s.link g.socket ∧ Answering s s.ackedReconnects g ∧
        ∀ file, s.file = some file → ∀ known, file.generation = some known →
          known.socket = g.socket → Established lib (Acknowledged s.settled g.socket) file.ir
  | .probing pending _ => pending ≤ s.agent.reconnects
  | .probed pending _ answer => pending ≤ s.agent.reconnects ∧ ∀ g, answer = .ok g →
      Link.Seen ahead s.link g.socket ∧ Answering s pending g
  | .applying desired batch =>
      Translator.reconcile lib s.shadow.ir desired = .ok batch ∧
        ∀ c ∈ desired.certificates, c.listener.IsPlain
  | .applied desired batch result =>
      (Translator.reconcile lib s.shadow.ir desired = .ok batch ∧
        ∀ c ∈ desired.certificates, c.listener.IsPlain) ∧
      (∀ failure, result = .error failure → failure.replayable ≤ failure.applied) ∧
      ∀ g, s.shadow.generation = some g → s.link.Reaches g.socket →
        ∀ r ∈ batch.take (acknowledgedOf batch result), Acknowledged s.settled g.socket r

/-- What holds of the system, given the sockets ahead. -/
structure Unmasked (ahead : List SocketIdentity) (s : System) : Prop where
  fresh : Link.Fresh ahead s.link
  sound : Agent.Sound s.agent s.world
  acked_le : s.ackedReconnects ≤ s.agent.reconnects
  shadow : Held lib ahead s.link s.settled s.shadow
  file : ∀ file, s.file = some file → Held lib ahead s.link s.settled file
  answering : ∀ g, s.shadow.generation = some g → Answering s s.ackedReconnects g
  waits : Waits lib ahead s s.phase

/-! ## Time passing keeps it -/

variable {lib}

namespace Passes

variable (h : Passes before ahead s s')

include h

theorem held {shadow : Shadow} (hheld : Held lib before s.link s.settled shadow) :
    Held lib ahead s'.link s'.settled shadow := by
  intro g hg
  obtain ⟨hseen, hestablished⟩ := hheld g hg
  refine ⟨h.seen hseen, fun hreach => ?_⟩
  exact (hestablished (h.reaches hseen hreach)).mono fun r hr => hr.mono h.settled

theorem waits (hshadow : s'.shadow = s.shadow) (hfile : s'.file = s.file)
    (hacked : s'.ackedReconnects = s.ackedReconnects)
    (hackedLe : s.ackedReconnects ≤ s.agent.reconnects)
    (hheld : Held lib before s.link s.settled s.shadow) {phase : Awaited}
    (hwaits : Waits lib before s phase) : Waits lib ahead s' phase := by
  have hle := h.epoch_le
  cases phase with
  | loaded => trivial
  | idle => trivial
  | booting => exact hshadow.trans hwaits
  | starting => exact hshadow.trans hwaits
  | started answer =>
    refine ⟨hshadow.trans hwaits.1, fun g hg => ?_⟩
    obtain ⟨hseen, hanswering, hestablished⟩ := hwaits.2 g hg
    refine ⟨h.seen hseen, hacked ▸ h.answering hackedLe hanswering, fun file hf known hk heq => ?_⟩
    exact (hestablished file (hfile ▸ hf) known hk heq).mono fun r hr => hr.mono h.settled
  | probing pending atStart => exact le_trans hwaits hle
  | probed pending atStart answer =>
    refine ⟨hwaits.1.trans hle, fun g hg => ?_⟩
    obtain ⟨hseen, hanswering⟩ := hwaits.2 g hg
    exact ⟨h.seen hseen, h.answering hwaits.1 hanswering⟩
  | applying desired batch =>
    unfold Waits at hwaits ⊢
    rwa [hshadow]
  | applied desired batch result =>
    obtain ⟨hbatch, hreplayable, hacknowledged⟩ := hwaits
    refine ⟨hshadow ▸ hbatch, hreplayable, fun g hg hreach r hr => ?_⟩
    rw [hshadow] at hg
    have hbefore := h.reaches (hheld g hg).1 hreach
    exact (hacknowledged g hg hbefore r hr).mono h.settled

/-- **Time passing keeps the invariant.** -/
theorem unmasked (hinv : Unmasked lib before s) (hshadow : s'.shadow = s.shadow)
    (hfile : s'.file = s.file) (hacked : s'.ackedReconnects = s.ackedReconnects)
    (hphase : s'.phase = s.phase) :
    Unmasked lib ahead s' where
  fresh := h.fresh hinv.fresh
  sound := h.sound
  acked_le := by
    have hle := h.epoch_le
    have hackedLe := hinv.acked_le
    omega
  shadow := hshadow ▸ h.held hinv.shadow
  file f hf := h.held (hinv.file f (hfile ▸ hf))
  answering g hg := hacked ▸ h.answering hinv.acked_le (hinv.answering g (hshadow ▸ hg))
  waits := by
    rw [hphase]
    exact h.waits hshadow hfile hacked hinv.acked_le hinv.shadow hinv.waits

end Passes

/-! ## The steps -/

/-- A change of phase alone. -/
theorem Unmasked.waiting (hinv : Unmasked lib ahead s) {phase : Awaited}
    (hwaits : Waits lib ahead s phase) :
    Unmasked lib ahead { s with phase } where
  fresh := hinv.fresh
  sound := hinv.sound
  acked_le := hinv.acked_le
  shadow := hinv.shadow
  file := hinv.file
  answering := hinv.answering
  waits := by
    cases phase <;> exact hwaits

theorem held_of_none {l : Link SocketIdentity} {settled : List Settled} {shadow : Shadow}
    (hnone : shadow.generation = none) : Held lib ahead l settled shadow :=
  fun _ hg => absurd (hnone.symm.trans hg) (by simp)

/-- A step the loop does not wait for. -/
theorem Unmasked.skip (hinv : Unmasked lib (before ++ ahead) s) : Unmasked lib ahead s := by
  have hpasses : Passes (before ++ ahead) ahead s s :=
    ⟨⟨[], .refl _, List.sublist_append_right _ _⟩, hinv.sound, le_rfl, fun _ _ => rfl,
      fun _ h => h⟩
  exact hpasses.unmasked hinv rfl rfl rfl rfl

theorem unmasked_lose (hinv : Unmasked lib ahead s) :
    Unmasked lib ahead { s with file := none } := by
  have hwaits : Waits lib ahead { s with file := none } s.phase := by
    have hbefore := hinv.waits
    generalize s.phase = phase at hbefore
    cases phase
    case started answer =>
      refine ⟨hbefore.1, fun g hg => ?_⟩
      obtain ⟨hseen, hanswering, -⟩ := hbefore.2 g hg
      exact ⟨hseen, hanswering, fun file hf => absurd hf (by simp)⟩
    all_goals exact hbefore
  exact { hinv with
    file := fun f hf => absurd hf (by simp)
    waits := hwaits }

theorem unmasked_restart (hinv : Unmasked lib ahead s) :
    Unmasked lib ahead
      { s with agent := {}, ackedReconnects := 0, shadow := {}, phase := .booting } := by
  have hdrop : Link.Run (A := Answer) s.link [] ⟨s.world.path, none⟩ := .drop (.refl _)
  exact
    { fresh := Link.Fresh.run hdrop hinv.fresh
      sound := sound_of_none rfl _
      acked_le := le_rfl
      shadow := held_of_none rfl
      file := fun file hf g hg => by
        obtain ⟨hseen, hestablished⟩ := hinv.file file hf g hg
        refine ⟨Link.Seen.run hdrop hseen, fun hreach => hestablished ?_⟩
        exact Link.Seen.reaches hdrop (hseen.mono (List.nil_subset _)) hreach
      answering := fun g hg => by cases hg
      waits := rfl }

theorem unmasked_boot (hinv : Unmasked lib ahead s) (hphase : s.phase = .booting) (lag : ℕ) :
    Unmasked lib ahead { s with ackedReconnects := s.reconnectEpoch lag, phase := .starting } := by
  have hshadow : s.shadow = {} := by
    have hwaits := hinv.waits
    rwa [hphase] at hwaits
  exact { hinv with
    acked_le := Nat.sub_le _ _
    answering := fun g hg => by
      have hg : s.shadow.generation = some g := hg
      rw [hshadow] at hg
      cases hg
    waits := hshadow }

/-- The answer to a probe. -/
theorem unmasked_answered {turns : List Turn} {answer : Except QueryError SozuGeneration}
    {done : Session} (hinv : Unmasked lib (restartsIn turns ++ ahead) s)
    (heq : Agent.generation (s.session [turns] []) = (answer, done)) :
    Unmasked lib ahead (s.resume done) ∧ s.agent.reconnects ≤ done.agent.reconnects ∧
      ∀ g, answer = .ok g → (s.resume done).link.channel = some g.socket := by
  have hahead : (s.session [turns] []).ahead = restartsIn turns := by
    simp [System.session, Session.ahead]
  have hfresh : Link.Fresh ((s.session [turns] []).ahead ++ ahead) (s.session [turns] []).link := by
    rw [hahead]
    exact hinv.fresh
  obtain ⟨hruns, hchannel⟩ := Session.generation_runs hfresh hinv.sound heq
  have hpasses := passes_resume hruns
  rw [List.flatMap_singleton] at hpasses
  exact ⟨hpasses.unmasked hinv rfl rfl rfl rfl, hpasses.epoch_le, hchannel⟩

theorem unmasked_started {turns : List Turn} {answer : Except QueryError SozuGeneration}
    {done : Session} (hinv : Unmasked lib (restartsIn turns ++ ahead) s)
    (hphase : s.phase = .starting)
    (heq : Agent.generation (s.session [turns] []) = (answer, done)) :
    Unmasked lib ahead { s.resume done with phase := .started answer } := by
  obtain ⟨hafter, -, hchannel⟩ := unmasked_answered hinv heq
  have hshadow : s.shadow = {} := by
    have hwaits := hinv.waits
    rwa [hphase] at hwaits
  refine hafter.waiting ⟨hshadow, fun g hg => ?_⟩
  have hg := hchannel g hg
  refine ⟨hafter.fresh.seen hg, fun _ => hg, fun file hf known hknown hsocket => ?_⟩
  have hestablished := (hafter.file file hf known hknown).2
  rw [hsocket] at hestablished
  exact hestablished (by rw [Link.Reaches, hg, Option.getD_some])

theorem unmasked_probed {turns : List Turn} {answer : Except QueryError SozuGeneration}
    {done : Session} {pending : ℕ} {atStart : Bool}
    (hinv : Unmasked lib (restartsIn turns ++ ahead) s)
    (hphase : s.phase = .probing pending atStart)
    (heq : Agent.generation (s.session [turns] []) = (answer, done)) :
    Unmasked lib ahead { s.resume done with phase := .probed pending atStart answer } := by
  obtain ⟨hafter, hle, hchannel⟩ := unmasked_answered hinv heq
  have hpending : pending ≤ s.agent.reconnects := by
    have hwaits := hinv.waits
    rwa [hphase] at hwaits
  refine hafter.waiting ⟨hpending.trans hle, fun g hg => ?_⟩
  have hg := hchannel g hg
  exact ⟨hafter.fresh.seen hg, fun _ => hg⟩

/-- The file is loaded. -/
theorem unmasked_load {answer : Except QueryError SozuGeneration} (hinv : Unmasked lib ahead s)
    (hphase : s.phase = .started answer) (shadowFile : String) {phase : Awaited}
    (hidle : phase = .idle ∨ phase = .loaded) :
    Unmasked lib ahead { s with
      shadow := loadInitial shadowFile s.file answer.toOption
      phase } := by
  have hwaits := hinv.waits
  rw [hphase] at hwaits
  have hwaits' : Waits lib ahead
      { s with shadow := loadInitial shadowFile s.file answer.toOption, phase } phase := by
    rcases hidle with rfl | rfl <;> trivial
  rcases loadInitial_cases shadowFile s.file answer with
    hload | ⟨g, file, known, rfl, hfile, hknown, hsocket, hload⟩
  · refine { hinv with shadow := fun g hg => ?_, answering := fun g hg => ?_, waits := hwaits' }
    all_goals
      have hanswer : answer = .ok g := by
        have hg : (loadInitial shadowFile s.file answer.toOption).generation = some g := hg
        rw [hload] at hg
        cases answer with
        | error e => cases hg
        | ok g' => exact congrArg Except.ok (Option.some.inj hg)
      obtain ⟨hseen, hanswering, -⟩ := hwaits.2 g hanswer
    · refine ⟨hseen, fun _ => ?_⟩
      show Established lib _ (loadInitial shadowFile s.file answer.toOption).ir
      rw [hload]
      exact .empty
    · exact hanswering
  · obtain ⟨hseen, hanswering, hestablished⟩ := hwaits.2 g rfl
    refine { hinv with shadow := fun g' hg => ?_, answering := fun g' hg => ?_, waits := hwaits' }
    all_goals
      have hg : (loadInitial shadowFile s.file (Except.ok g).toOption).generation = some g' := hg
      rw [hload] at hg
      obtain rfl : g = g' := Option.some.inj hg
    · refine ⟨hseen, fun _ => ?_⟩
      show Established lib _ (loadInitial shadowFile s.file (Except.ok g).toOption).ir
      rw [hload]
      exact hestablished file hfile known hknown hsocket
    · exact hanswering

/-- The file is written, or not. -/
theorem Held.persist {l : Link SocketIdentity} {settled : List Settled} {shadow : Shadow}
    {file : Option Shadow} (hheld : Held lib ahead l settled shadow)
    (hfile : ∀ f, file = some f → Held lib ahead l settled f) (shadowFile : String)
    (written : Bool) :
    ∀ f, persist shadowFile written shadow file = some f → Held lib ahead l settled f := by
  intro f hf
  rcases persist_cases shadowFile written shadow file with hkept | hwritten
  · exact hfile f (hkept ▸ hf)
  · obtain rfl := Option.some.inj (hwritten.symm.trans hf)
    exact fun g hg => ⟨(hheld g hg).1, fun hreach => ((hheld g hg).2 hreach).redacted⟩

/-- The answer to a probe is taken. -/
theorem unmasked_check {pending : ℕ} {atStart : Bool} {answer : Except QueryError SozuGeneration}
    (hinv : Unmasked lib ahead s) (hphase : s.phase = .probed pending atStart answer)
    (shadowFile : String) (written : Bool) :
    Unmasked lib ahead (s.check shadowFile written pending atStart answer) := by
  have hwaits := hinv.waits
  rw [hphase] at hwaits
  unfold System.check
  rcases checkRestartGeneration_cases answer s.shadow with
    ⟨e, rfl, hcheck⟩ | ⟨g, rfl, hcheck | ⟨hcheck, hkept⟩⟩
  · rw [hcheck]
    cases atStart
    · exact hinv.waiting trivial
    · exact { hinv with
        shadow := held_of_none rfl
        answering := fun g hg => absurd hg (by simp [Shadow.empty])
        waits := trivial }
  · rw [hcheck]
    obtain ⟨hseen, hanswering⟩ := hwaits.2 g rfl
    have hheld : Held lib ahead s.link s.settled ⟨some g, {}⟩ := fun g' hg => by
      obtain rfl := Option.some.inj hg
      exact ⟨hseen, fun _ => .empty⟩
    exact { hinv with
      acked_le := hwaits.1
      shadow := hheld
      file := hheld.persist hinv.file shadowFile written
      answering := fun g' hg => Option.some.inj hg ▸ hanswering
      waits := trivial }
  · rw [hcheck]
    obtain ⟨hseen, hanswering⟩ := hwaits.2 g rfl
    refine { hinv with
      acked_le := hwaits.1
      shadow := fun g' hg => ?_
      answering := fun g' hg => Option.some.inj hg ▸ hanswering
      waits := trivial }
    obtain rfl := Option.some.inj hg
    refine ⟨hseen, fun hreach => ?_⟩
    rcases hkept with hempty | ⟨known, hknown, hsocket⟩
    · show Established lib _ s.shadow.ir
      rw [hempty]
      exact .empty
    · have hestablished := (hinv.shadow known hknown).2
      rw [hsocket] at hestablished
      exact hestablished hreach

/-- The thread applies the batch. -/
theorem unmasked_apply {turns : List (List Turn)} {gaveUp : List Bool} {desired : Ir}
    {batch : List Request} {result : Except ApplyError Unit} {done : Session}
    (hinv : Unmasked lib (turns.flatMap restartsIn ++ ahead) s)
    (hphase : s.phase = .applying desired batch)
    (heq : applyUnless lib Session.wire batch (s.session turns gaveUp) = (result, done)) :
    Unmasked lib ahead { s.resume done with
      phase := .applied desired batch result
      settled := s.settled ++ [⟨batch, acknowledgedOf batch result, done.answers⟩] } := by
  have hwaits := hinv.waits
  rw [hphase] at hwaits
  obtain ⟨hruns, hanswered⟩ :=
    @Session.applyUnless_runs _ _ (s.session turns gaveUp) _ ahead _ hinv.fresh hinv.sound heq
  have hpasses := passes_resume hruns
  set job : Settled := ⟨batch, acknowledgedOf batch result, done.answers⟩
  have hmore : Passes (turns.flatMap restartsIn ++ ahead) ahead s
      { s.resume done with settled := s.settled ++ [job] } :=
    { hpasses with settled := List.subset_append_left _ _ }
  refine (hmore.unmasked hinv rfl rfl rfl rfl).waiting ⟨hwaits, fun failure hfailure => ?_,
    fun g hg hreach r hr => ?_⟩
  · exact replayable_le_applied (hfailure ▸ heq)
  · -- the agent still reaches the socket, so every answer of the batch came from it
    have hseen : Link.Seen ((s.session turns gaveUp).ahead ++ ahead)
        (s.session turns gaveUp).link g.socket := (hinv.shadow g hg).1
    obtain ⟨answers, hanswers, hall⟩ := hruns.advances.answered hseen hreach
    refine ⟨job, by simp, hr, hanswered r hr, fun x hx => hall x ?_⟩
    have hnone : (s.session turns gaveUp).answers = [] := rfl
    rw [hnone, List.nil_append] at hanswers
    exact hanswers ▸ hx

/-- The result of a batch is taken. -/
theorem unmasked_settle (hlib : lib.Documented) {desired : Ir} {batch : List Request}
    {result : Except ApplyError Unit} (hinv : Unmasked lib ahead s)
    (hphase : s.phase = .applied desired batch result) (shadowFile : String) (written : Bool) :
    Unmasked lib ahead (s.settle lib shadowFile written desired batch result) := by
  have hwaits := hinv.waits
  rw [hphase] at hwaits
  obtain ⟨⟨hok, hplain⟩, hreplayable, hacknowledged⟩ := hwaits
  have hadvance : ∀ ir, (∀ g, s.shadow.generation = some g → s.link.Reaches g.socket →
        Established lib (Acknowledged s.settled g.socket) ir) →
      Unmasked lib ahead { s with
        shadow := { s.shadow with ir }
        file := persist shadowFile written { s.shadow with ir } s.file
        phase := .idle } := by
    intro ir hir
    have hheld : Held lib ahead s.link s.settled { s.shadow with ir } := fun g hg =>
      ⟨(hinv.shadow g hg).1, hir g hg⟩
    exact { hinv with
      shadow := hheld
      file := hheld.persist hinv.file shadowFile written
      answering := hinv.answering
      waits := trivial }
  unfold System.settle
  cases result with
  | ok u =>
    refine hadvance desired fun g hg hreach => ?_
    have hall := hacknowledged g hg hreach
    rw [acknowledgedOf, List.take_length] at hall
    exact ((hinv.shadow g hg).2 hreach).applied hlib hplain hok hall
  | error failure =>
    simp only
    cases hreplayed : replayAcknowledged lib s.shadow desired batch failure.replayable with
    | none => exact hinv.waiting trivial
    | some shadow =>
      obtain ⟨replayed, hreplay, rfl⟩ := replayAcknowledged_eq_some hreplayed
      refine hadvance replayed fun g hg hreach => ?_
      refine ((hinv.shadow g hg).2 hreach).replayed hlib hplain hok (fun r hr => ?_) hreplay
      have hle := hreplayable failure rfl
      refine hacknowledged g hg hreach r ?_
      exact (List.take_sublist_take_left hle).subset hr

/-- **One step keeps the invariant.** -/
theorem unmasked_step (hlib : lib.Documented) (shadowFile : String) {label : Label}
    (hplain : ∀ desired, label = .reconcile desired →
      ∀ c ∈ desired.certificates, c.listener.IsPlain)
    (hinv : Unmasked lib (label.restarts ++ ahead) s) :
    Unmasked lib ahead (s.step lib shadowFile label) := by
  cases label with
  | outside actions => exact (passes_outside hinv.sound actions).unmasked hinv rfl rfl rfl rfl
  | job request turns =>
    have hstart : Session.Runs (s.session [turns] []) ahead (s.session [turns] []) := by
      refine ⟨.refl _, ?_, hinv.sound⟩
      rw [Session.ahead, System.session, List.flatMap_singleton]
      exact hinv.fresh
    have hpasses := passes_resume ((Session.wire_runs _ ahead).send request _ hstart)
    rw [List.flatMap_singleton] at hpasses
    exact hpasses.unmasked hinv rfl rfl rfl rfl
  | lose => exact unmasked_lose hinv
  | restart => exact unmasked_restart hinv
  | boot lag =>
    simp only [System.step]
    split
    · exact unmasked_boot hinv ‹_› lag
    · exact hinv
  | generation turns =>
    simp only [System.step]
    generalize heq : Agent.generation (s.session [turns] []) = answered
    obtain ⟨answer, done⟩ := answered
    simp only
    split
    · exact unmasked_started hinv ‹_› heq
    · exact unmasked_probed hinv ‹_› heq
    · exact hinv.skip
  | load lag =>
    simp only [System.step]
    split
    · refine unmasked_load hinv ‹_› shadowFile ?_
      split <;> simp
    · exact hinv
  | probe lag =>
    simp only [System.step]
    split
    · exact hinv.waiting (Nat.sub_le _ _)
    · exact hinv.waiting (Nat.sub_le _ _)
    · exact hinv
  | check written =>
    simp only [System.step]
    split
    · exact unmasked_check hinv ‹_› shadowFile written
    · exact hinv
  | reconcile desired =>
    simp only [System.step]
    split
    · split
      · exact hinv
      · exact hinv.waiting ⟨‹_›, hplain desired rfl⟩
    · exact hinv
  | apply turns gaveUp =>
    simp only [System.step]
    split
    · rename_i desired batch hphase
      generalize heq : applyUnless lib Session.wire batch (s.session turns gaveUp) = applied
      obtain ⟨result, done⟩ := applied
      exact unmasked_apply hinv hphase heq
    · exact hinv.skip
  | settle written =>
    simp only [System.step]
    split
    · exact unmasked_settle hlib hinv ‹_› shadowFile written
    · exact hinv
  | timeout =>
    simp only [System.step]
    split
    · exact hinv.waiting trivial
    · exact hinv.waiting trivial
    · exact hinv

theorem unmasked_start {path : SocketIdentity} (hnodup : (path :: ahead).Nodup) :
    Unmasked lib ahead (System.start path) := by
  obtain ⟨hpath, hahead⟩ := List.nodup_cons.1 hnodup
  exact
    { fresh := ⟨hahead, hpath,
        fun c hc => absurd hc (by simp [System.link, Agent.link, System.start])⟩
      sound := sound_of_none rfl _
      acked_le := le_rfl
      shadow := held_of_none rfl
      file := fun f hf => absurd hf (by simp [System.start])
      answering := fun g hg => absurd hg (by simp [System.start])
      waits := rfl }

/-- **Every run keeps the invariant.** -/
theorem unmasked_run (hlib : lib.Documented) (shadowFile : String) {labels : List Label}
    (hplain : ∀ desired, Label.reconcile desired ∈ labels →
      ∀ c ∈ desired.certificates, c.listener.IsPlain)
    (hinv : Unmasked lib (labels.flatMap Label.restarts) s) :
    Unmasked lib [] (s.run lib shadowFile labels) := by
  induction labels generalizing s with
  | nil => exact hinv
  | cons label labels ih =>
    rw [List.flatMap_cons] at hinv
    refine ih (fun desired hd => hplain desired (List.mem_cons_of_mem _ hd))
      (unmasked_step hlib shadowFile ?_ hinv)
    rintro desired rfl
    exact hplain desired List.mem_cons_self

/-! ## A restart is never masked -/

/-- **A restart of Sōzu is never masked.**  Each restart brings a new command socket.  In every
run, wherever the loop has acknowledged the agent's epoch and the shadow names a generation, the
agent is connected to the Sōzu of that generation, and every object of the shadow was
acknowledged by it; and the startup resumes a file only when every object of it
was acknowledged by the Sōzu that answered the probe. -/
theorem restart_never_masked (hlib : lib.Documented) (shadowFile : String) (path : SocketIdentity)
    (labels : List Label) (hsockets : (path :: labels.flatMap Label.restarts).Nodup)
    (hplain : ∀ desired, Label.reconcile desired ∈ labels →
      ∀ c ∈ desired.certificates, c.listener.IsPlain)
    {s : System} (hs : (System.start path).run lib shadowFile labels = s) :
    (s.ackedReconnects = s.agent.reconnects → ∀ g, s.shadow.generation = some g →
      (∃ connected, s.agent.channel = some connected ∧
        s.world.conns[connected.channel]?.map Conn.peer = some g.socket) ∧
      Established lib (Acknowledged s.settled g.socket) s.shadow.ir) ∧
      ∀ answer, s.phase = .started answer →
        (loadInitial shadowFile s.file answer.toOption).ir ≠ {} → ∃ g, answer = .ok g ∧
          Established lib (Acknowledged s.settled g.socket)
            (loadInitial shadowFile s.file answer.toOption).ir := by
  subst hs
  have hstart : Unmasked lib (labels.flatMap Label.restarts) (System.start path) :=
    unmasked_start hsockets
  have hinv := unmasked_run hlib shadowFile hplain hstart
  refine ⟨fun hacked g hg => ?_, fun answer hphase hne => ?_⟩
  · have hchannel := hinv.answering g hg hacked
    refine ⟨?_, (hinv.shadow g hg).2 (by rw [Link.Reaches, hchannel, Option.getD_some])⟩
    obtain ⟨connected, hconnected, hsocket⟩ := Option.map_eq_some_iff.1 hchannel
    exact ⟨connected, hconnected, hsocket ▸ hinv.sound connected hconnected⟩
  · have hwaits := hinv.waits
    rw [hphase] at hwaits
    rcases loadInitial_cases shadowFile _ answer with
      hload | ⟨g, file, known, rfl, hfile, hknown, hsocket, hload⟩
    · exact absurd (congrArg Shadow.ir hload) hne
    · obtain ⟨-, -, hestablished⟩ := hwaits.2 g rfl
      refine ⟨g, rfl, ?_⟩
      rw [hload]
      exact hestablished file hfile known hknown hsocket

end Invariant

/-! ## A run -/

attribute [local instance] asciiTable

def firstSocket : SocketIdentity := ⟨1, 10, 1, 0⟩

def secondSocket : SocketIdentity := ⟨1, 10, 2, 0⟩

/-- A turn in which nothing happens. -/
def quiet : Turn := ⟨[], false, false⟩

/-- A turn in which Sōzu reads a request and answers it. -/
def answeredTurn (conn : ℕ) (content : Option ContentType) : Turn :=
  ⟨[.read conn, .answer conn ⟨.ok, "", content⟩], false, false⟩

/-- The answer to a `Status` from a Sōzu of one worker. -/
def oneWorker : Option ContentType := some (.workers [⟨0, 7, .running⟩])

/-- A route is applied, Sōzu restarts, a probe finds it, and the route is applied again. -/
def restartedRun : List Label :=
  [.boot 0, .generation [quiet, quiet, quiet, quiet, answeredTurn 0 oneWorker], .load 0,
    .reconcile (oneRoute "a"), .apply (.replicate 3 [quiet, answeredTurn 0 none]) [], .settle true,
    .outside [.restart secondSocket], .probe 0,
    .generation [quiet, ⟨[], true, false⟩, quiet, quiet, quiet, quiet, answeredTurn 1 oneWorker],
    .check true, .probe 0, .generation [quiet, answeredTurn 1 oneWorker], .check true,
    .reconcile (oneRoute "a"), .apply (.replicate 3 [quiet, answeredTurn 1 none]) [], .settle true]

/-- Where that run ends. -/
def restarted : System := (System.start firstSocket).run reference "shadow" restartedRun

/-- Sōzu restarted and was found again. -/
theorem restart_never_masked_restarted :
    restarted.shadow.ir = oneRoute "a" ∧
      restarted.shadow.generation.map SozuGeneration.socket = some secondSocket ∧
      Established reference (Acknowledged restarted.settled secondSocket) restarted.shadow.ir := by
  have hgeneration : restarted.shadow.generation.map SozuGeneration.socket = some secondSocket := by
    decide +kernel
  obtain ⟨g, hg, hsocket⟩ := Option.map_eq_some_iff.1 hgeneration
  have hplain : ∀ desired, Label.reconcile desired ∈ restartedRun →
      ∀ c ∈ desired.certificates, c.listener.IsPlain := by
    intro desired hd
    obtain rfl : desired = oneRoute "a" := by simpa [restartedRun] using hd
    simp [oneRoute]
  obtain ⟨hacked, -⟩ := restart_never_masked reference_documented "shadow" firstSocket restartedRun
    (by decide +kernel) hplain (s := restarted) rfl
  have hestablished := (hacked (by decide +kernel) g hg).2
  exact ⟨by decide +kernel, hgeneration, hsocket ▸ hestablished⟩

end Controller

end SozuGateway
