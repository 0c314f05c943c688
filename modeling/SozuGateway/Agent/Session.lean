import SozuGateway.Lib.Link
import SozuGateway.Lib.BTreeSet
import SozuGateway.Agent.Apply

/-!
# The agent over its channel

The thread behind `SozuAgentHandle`: every job goes through `send_with_retry` on the one command
channel.

* `Moves` — what operations of the agent do to the link: restarts, drops and connections to
  whoever is at the path.
* `sendWithRetry_sends` — one request; the epoch moves whenever an established channel is lost.
* `Session` — the agent with the script of what happens to it, and the answers it got, each with
  the socket it came from; `Session.wire` — what a batch is applied over.
* `generation` — the socket and the workers that answer a `Status`.
* `Session.Advances` — what any number of requests do; `Session.applyUnless_runs` — a batch.
-/

set_option autoImplicit false

namespace SozuGateway

namespace Agent

open Lib Sozu

/-! ## The link of a channel -/

/-- The socket an action puts at the path. -/
def PeerAction.restarted : PeerAction → Option SocketIdentity
  | .restart socket => some socket
  | _ => none

/-- The sockets the turns put at the path, in order. -/
def restartsIn (ts : List Turn) : List SocketIdentity :=
  ts.flatMap fun t => t.peer.filterMap PeerAction.restarted

/-- The socket at the path, and the one the agent's channel was verified against. -/
def link (a : SozuAgent) (w : World) : Link SocketIdentity :=
  ⟨w.path, a.channel.map ConnectedChannel.socket⟩

/-- An answer, and the request it answers. -/
structure Answer where
  request : Request
  response : Response
  deriving DecidableEq, Repr

/-- A run of the link that only shows restarts. -/
abbrev Restarts (l : Link SocketIdentity) (sockets : List SocketIdentity)
    (l' : Link SocketIdentity) : Prop :=
  Link.Run l (sockets.map (Link.Event.restart (A := Answer))) l'

/-- No connection changes its peer. -/
def World.KeepsPeers (w w' : World) : Prop :=
  ∀ (i : ℕ) (p : SocketIdentity), w.conns[i]?.map Conn.peer = some p →
    w'.conns[i]?.map Conn.peer = some p

/-- The channel reaches the socket it was verified against. -/
def Sound (a : SozuAgent) (w : World) : Prop :=
  ∀ c, a.channel = some c → w.conns[c.channel]?.map Conn.peer = some c.socket

theorem Sound.keep {a : SozuAgent} {w w' : World} (h : Sound a w) (hpeers : w.KeepsPeers w') :
    Sound a w' := fun c hc => hpeers _ _ (h c hc)

theorem sound_of_none {a : SozuAgent} (hnone : a.channel = none) (w : World) : Sound a w :=
  fun c hc => absurd (hnone.symm.trans hc) (by simp)

/-- What operations of the agent do, the turns they leave included. -/
structure Moves (a : SozuAgent) (w : World) (ts : List Turn) (a' : SozuAgent) (w' : World)
    (ts' : List Turn) : Prop where
  run : ∃ sockets, Restarts (link a w) sockets (link a' w') ∧
    (sockets ++ restartsIn ts').Sublist (restartsIn ts)
  peers : w.KeepsPeers w'

theorem Moves.refl (a : SozuAgent) (w : World) (ts : List Turn) : Moves a w ts a w ts :=
  ⟨⟨[], .refl _, .refl _⟩, fun _ _ h => h⟩

theorem Moves.trans {a₁ a₂ a₃ : SozuAgent} {w₁ w₂ w₃ : World} {ts₁ ts₂ ts₃ : List Turn}
    (h : Moves a₁ w₁ ts₁ a₂ w₂ ts₂) (h' : Moves a₂ w₂ ts₂ a₃ w₃ ts₃) :
    Moves a₁ w₁ ts₁ a₃ w₃ ts₃ := by
  obtain ⟨sockets, hrun, hsub⟩ := h.run
  obtain ⟨sockets', hrun', hsub'⟩ := h'.run
  refine ⟨⟨sockets ++ sockets', ?_, ?_⟩, fun i p hp => h'.peers i p (h.peers i p hp)⟩
  · have htrans := hrun.trans hrun'
    rwa [← List.map_append] at htrans
  · rw [List.append_assoc]
    exact ((List.Sublist.refl sockets).append hsub').trans hsub

/-- The turns left over are dropped. -/
theorem Moves.forget {a a' : SozuAgent} {w w' : World} {ts ts' : List Turn}
    (h : Moves a w ts a' w' ts') : Moves a w ts a' w' [] := by
  obtain ⟨sockets, hrun, hsub⟩ := h.run
  exact ⟨⟨sockets, hrun, ((List.Sublist.refl sockets).append (List.nil_sublist _)).trans hsub⟩,
    h.peers⟩

theorem Moves.fresh {a a' : SozuAgent} {w w' : World} {ts ts' : List Turn}
    {ahead : List SocketIdentity} (h : Moves a w ts a' w' ts')
    (hfresh : Link.Fresh (restartsIn ts ++ ahead) (link a w)) :
    Link.Fresh (restartsIn ts' ++ ahead) (link a' w') := by
  obtain ⟨sockets, hrun, hsub⟩ := h.run
  refine Link.Fresh.run hrun ?_
  rw [Link.restarts_map_restart, ← List.append_assoc]
  exact hfresh.mono (hsub.append (.refl _))

theorem Moves.seen {a a' : SozuAgent} {w w' : World} {ts ts' : List Turn}
    {ahead : List SocketIdentity} {s : SocketIdentity} (h : Moves a w ts a' w' ts')
    (hseen : Link.Seen (restartsIn ts ++ ahead) (link a w) s) :
    Link.Seen (restartsIn ts' ++ ahead) (link a' w') s := by
  obtain ⟨sockets, hrun, hsub⟩ := h.run
  refine Link.Seen.run hrun (hseen.mono ?_)
  rw [Link.restarts_map_restart, ← List.append_assoc]
  exact (hsub.append (.refl ahead)).subset

theorem Moves.reaches {a a' : SozuAgent} {w w' : World} {ts ts' : List Turn}
    {ahead : List SocketIdentity} {s : SocketIdentity} (h : Moves a w ts a' w' ts')
    (hseen : Link.Seen (restartsIn ts ++ ahead) (link a w) s) (hreach : (link a' w').Reaches s) :
    (link a w).Reaches s := by
  obtain ⟨sockets, hrun, hsub⟩ := h.run
  refine Link.Seen.reaches hrun (hseen.mono ?_) hreach
  rw [Link.restarts_map_restart]
  exact fun x hx => List.mem_append_left _ (hsub.subset (List.mem_append_left _ hx))

/-- A change of one connection that keeps its peer. -/
theorem World.keepsPeers_modify (w : World) (conn : ℕ) {f : Conn → Conn}
    (hf : ∀ c, (f c).peer = c.peer) : w.KeepsPeers (w.modify conn f) := by
  intro i p hp
  unfold World.modify
  rw [List.getElem?_modify]
  cases hc : w.conns[i]? with
  | none => simp [hc] at hp
  | some c =>
    rw [hc] at hp
    by_cases hi : conn = i
    · simpa [hi, hf] using hp
    · simpa [hi] using hp

theorem Conn.peer_read (c : Conn) : c.read.peer = c.peer := by
  unfold Conn.read
  cases c.written <;> rfl

theorem Conn.peer_answer (response : Response) (c : Conn) : (c.answer response).peer = c.peer := by
  unfold Conn.answer
  cases c.held <;> rfl

theorem restarts_act (a : SozuAgent) (w : World) (action : PeerAction) :
    Restarts (link a w) action.restarted.toList (link a (w.act action)) ∧
      w.KeepsPeers (w.act action) := by
  cases action with
  | read conn => exact ⟨.refl _, w.keepsPeers_modify conn Conn.peer_read⟩
  | answer conn response => exact ⟨.refl _, w.keepsPeers_modify conn (Conn.peer_answer response)⟩
  | forget conn => exact ⟨.refl _, w.keepsPeers_modify conn fun _ => rfl⟩
  | restart socket => exact ⟨.restart (.refl _), fun _ _ h => h⟩

/-- What happens between two operations of the agent. -/
theorem restarts_foldl_act (a : SozuAgent) (w : World) (actions : List PeerAction) :
    Restarts (link a w) (actions.filterMap PeerAction.restarted)
        (link a (actions.foldl World.act w)) ∧
      w.KeepsPeers (actions.foldl World.act w) := by
  induction actions generalizing w with
  | nil => exact ⟨.refl _, fun _ _ h => h⟩
  | cons action actions ih =>
    obtain ⟨hrun, hpeers⟩ := restarts_act a w action
    obtain ⟨hrun', hpeers'⟩ := ih (w.act action)
    refine ⟨?_, fun i p hp => hpeers' i p (hpeers i p hp)⟩
    have htrans := hrun.trans hrun'
    rw [← List.map_append] at htrans
    cases hres : action.restarted with
    | none => simpa [List.filterMap_cons, hres] using htrans
    | some socket => simpa [Restarts, List.filterMap_cons, hres] using htrans

theorem moves_enter (a : SozuAgent) (w : World) (t : Turn) (ts : List Turn) :
    Moves a w (t :: ts) a (t.enter w) ts := by
  obtain ⟨hrun, hpeers⟩ := restarts_foldl_act a w t.peer
  exact ⟨⟨_, hrun, by simp [restartsIn]⟩, hpeers⟩

/-- An operation that changes one connection, its peer aside. -/
theorem moves_modify (a : SozuAgent) (w : World) (ts : List Turn) (conn : ℕ) {f : Conn → Conn}
    (hf : ∀ c, (f c).peer = c.peer) : Moves a w ts a (w.modify conn f) ts :=
  ⟨⟨[], .refl _, .refl _⟩, w.keepsPeers_modify conn hf⟩

theorem moves_drop (a : SozuAgent) (w : World) (ts : List Turn) (reconnects : ℕ) :
    Moves a w ts { channel := none, reconnects } w ts :=
  ⟨⟨[], .drop (.refl _), .refl _⟩, fun _ _ h => h⟩

/-! ## One request -/

theorem moves_awaitTerminal (a : SozuAgent) (conn : ℕ) {w w' : World} {ts ts' : List Turn}
    {outcome : Outcome} (h : awaitTerminal conn w ts = (outcome, w', ts')) :
    Moves a w ts a w' ts' := by
  induction ts generalizing w with
  | nil =>
    obtain ⟨-, rfl, rfl⟩ : _ ∧ w = w' ∧ [] = ts' := by simpa [awaitTerminal] using h
    exact .refl a w []
  | cons t ts ih =>
    have henter := moves_enter a w t ts
    unfold awaitTerminal at h
    simp only at h
    split at h
    · obtain ⟨-, rfl, rfl⟩ := h
      exact henter
    · split at h
      · obtain ⟨-, rfl, rfl⟩ := h
        exact henter
      · have hpop := henter.trans (moves_modify a (t.enter w) ts conn (f := Conn.pop) fun _ => rfl)
        split at h
        · exact hpop.trans (ih h)
        · obtain ⟨-, rfl, rfl⟩ := h
          exact hpop
        · obtain ⟨-, rfl, rfl⟩ := h
          exact hpop

theorem moves_sendOne (a : SozuAgent) {sent : Sent} {conn : ℕ} {w w' : World} {ts ts' : List Turn}
    {outcome : Outcome} (h : sendOne sent conn w ts = (outcome, w', ts')) :
    Moves a w ts a w' ts' := by
  cases ts with
  | nil =>
    obtain ⟨-, rfl, rfl⟩ := h
    exact .refl a w []
  | cons t ts =>
    have henter := moves_enter a w t ts
    have hwrite := henter.trans
      (moves_modify a (t.enter w) ts conn (f := Conn.write sent) fun _ => rfl)
    simp only [sendOne] at h
    split at h
    · obtain ⟨-, rfl, rfl⟩ := h
      split
      · exact hwrite
      · exact henter
    · exact hwrite.trans (moves_awaitTerminal a conn h)

/-- A new connection to whoever is at the path. -/
def World.dial (w : World) : World := { w with conns := w.conns ++ [⟨w.path, [], [], []⟩] }

theorem moves_dial (a : SozuAgent) (w : World) (ts : List Turn) : Moves a w ts a w.dial ts := by
  refine ⟨⟨[], .refl _, .refl _⟩, fun i p hp => ?_⟩
  cases hc : w.conns[i]? with
  | none => simp [hc] at hp
  | some c =>
    rw [hc] at hp
    have hi : i < w.conns.length := (List.getElem?_eq_some_iff.1 hc).1
    rw [World.dial, List.getElem?_append_left hi, hc]
    exact hp

/-- The connection is adopted: whoever is at the path now is the one it was verified against. -/
theorem moves_adopt {a : SozuAgent} {w : World} (ts : List Turn) (conn : ℕ)
    {socket : SocketIdentity} (hnone : a.channel = none) (hpath : w.path = socket) :
    Moves a w ts { a with channel := some ⟨conn, socket⟩ } w ts := by
  subst hpath
  exact ⟨⟨[], .connect (by simp [link, hnone]) (.refl _), .refl _⟩, fun _ _ hp => hp⟩

/-- **A connection is to the socket it was verified against.**  The path named that socket when it
was read and when it was read again, and no restart brings a socket back. -/
theorem sound_connected {a : SozuAgent} {w : World} {dial verify : Turn} {ts : List Turn}
    {ahead : List SocketIdentity} (hnone : a.channel = none)
    (hfresh : Link.Fresh (restartsIn (dial :: verify :: ts) ++ ahead) (link a w))
    (hpath : (verify.enter (dial.enter w).dial).path = w.path) :
    Sound { a with channel := some ⟨(dial.enter w).conns.length, w.path⟩ }
      (verify.enter (dial.enter w).dial) := by
  have hdial := moves_enter a w dial (verify :: ts)
  have hverify := moves_enter a (dial.enter w).dial verify ts
  have hseen : Link.Seen (restartsIn (dial :: verify :: ts) ++ ahead) (link a w) w.path :=
    Link.seen_of_none (by simp [link, hnone]) hfresh.path
  have hreaches : (link a (dial.enter w)).Reaches w.path := by
    refine ((moves_dial a _ _).trans hverify).reaches (hdial.seen hseen) ?_
    simpa [Link.Reaches, link, hnone] using hpath
  have hpeer : (dial.enter w).path = w.path := by simpa [Link.Reaches, link, hnone] using hreaches
  intro c hc
  obtain rfl := Option.some.inj hc
  refine hverify.peers _ _ ?_
  simp [World.dial, hpeer]

/-- Opening a connection. -/
theorem moves_connect {a a' : SozuAgent} {w w' : World} {ts ts' : List Turn}
    {result : Except String Unit} {ahead : List SocketIdentity} (hnone : a.channel = none)
    (hfresh : Link.Fresh (restartsIn ts ++ ahead) (link a w))
    (h : connect a w ts = (result, a', w', ts')) :
    Moves a w ts a' w' ts' ∧ a'.reconnects = a.reconnects ∧ Sound a' w' ∧
      (result = .ok () → a'.channel ≠ none) := by
  have hsound := sound_of_none hnone
  unfold connect at h
  split at h
  · rename_i stat dial verify ts
    simp only at h
    have hstat := moves_enter a w stat (dial :: verify :: ts)
    have hdial := moves_enter a (stat.enter w) dial (verify :: ts)
    have hverify := moves_enter a (dial.enter (stat.enter w)).dial verify ts
    have hlast := (hstat.trans hdial).trans ((moves_dial a _ _).trans hverify)
    split at h
    · obtain ⟨rfl, rfl, rfl, rfl⟩ := h
      exact ⟨hstat, rfl, hsound _, fun he => by cases he⟩
    · split at h
      · obtain ⟨rfl, rfl, rfl, rfl⟩ := h
        exact ⟨hstat.trans hdial, rfl, hsound _, fun he => by cases he⟩
      · split at h
        · obtain ⟨rfl, rfl, rfl, rfl⟩ := h
          exact ⟨hlast, rfl, hsound _, fun he => by cases he⟩
        · split at h
          · obtain ⟨rfl, rfl, rfl, rfl⟩ := h
            exact ⟨hlast, rfl, hsound _, fun he => by cases he⟩
          · rename_i hpath
            obtain ⟨rfl, rfl, rfl, rfl⟩ := h
            have hpath := not_not.1 hpath
            exact ⟨hlast.trans (moves_adopt _ _ hnone hpath), rfl,
              sound_connected hnone (hstat.fresh hfresh) hpath, fun _ => Option.some_ne_none _⟩
  · obtain ⟨rfl, rfl, rfl, rfl⟩ := h
    exact ⟨.refl a w _, rfl, hsound _, fun he => by cases he⟩

/-- The channel of a request: opened when there is none. -/
theorem moves_channelMut {a a' : SozuAgent} {w w' : World} {ts ts' : List Turn}
    {result : Except String ℕ} {ahead : List SocketIdentity}
    (hfresh : Link.Fresh (restartsIn ts ++ ahead) (link a w)) (hsound : Sound a w)
    (h : channelMut a w ts = (result, a', w', ts')) :
    Moves a w ts a' w' ts' ∧ a'.reconnects = a.reconnects ∧ Sound a' w' ∧
      (a.channel ≠ none → a' = a) ∧ ∀ conn, result = .ok conn → a'.channel ≠ none := by
  unfold channelMut at h
  cases hchannel : a.channel with
  | some connected =>
    rw [hchannel] at h
    obtain ⟨rfl, rfl, rfl, rfl⟩ := h
    exact ⟨.refl a w ts, rfl, hsound, fun _ => rfl, fun _ _ => by simp [hchannel]⟩
  | none =>
    rw [hchannel] at h
    simp only at h
    generalize hconnect : connect a w ts = opened at h
    obtain ⟨result₁, a₁, w₁, ts₁⟩ := opened
    obtain ⟨hmoves, hreconnects, hsound₁, hopen⟩ := moves_connect hchannel hfresh hconnect
    cases result₁ with
    | error e =>
      obtain ⟨rfl, rfl, rfl, rfl⟩ := h
      exact ⟨hmoves, hreconnects, hsound₁, fun hne => absurd rfl hne, fun _ he => by cases he⟩
    | ok u =>
      simp only at h
      cases hchannel₁ : a₁.channel with
      | none => exact absurd hchannel₁ (hopen rfl)
      | some connected =>
        rw [hchannel₁] at h
        obtain ⟨rfl, rfl, rfl, rfl⟩ := h
        exact ⟨hmoves, hreconnects, hsound₁, fun hne => absurd rfl hne, fun _ _ => hopen rfl⟩

/-- What one request does. -/
structure Sends (a : SozuAgent) (w : World) (ts : List Turn) (outcome : Outcome) (a' : SozuAgent)
    (w' : World) : Prop where
  moves : Moves a w ts a' w' []
  sound : Sound a' w'
  epoch_le : a.reconnects ≤ a'.reconnects
  /-- An established channel is only lost with the epoch moving. -/
  kept : a'.reconnects = a.reconnects → a.channel ≠ none → a'.channel = a.channel
  answered : outcome.reply ≠ none → a'.channel ≠ none

/-- **One request.** -/
theorem sendWithRetry_sends {sent : Sent} {a a' : SozuAgent} {w w' : World} {ts : List Turn}
    {outcome : Outcome} {ahead : List SocketIdentity}
    (hfresh : Link.Fresh (restartsIn ts ++ ahead) (link a w)) (hsound : Sound a w)
    (h : sendWithRetry sent a w ts = (outcome, a', w')) : Sends a w ts outcome a' w' := by
  unfold sendWithRetry at h
  generalize hfirst : channelMut a w ts = first at h
  obtain ⟨result₁, a₁, w₁, ts₁⟩ := first
  obtain ⟨hmoves₁, hepoch₁, hsound₁, hsame₁, hopen₁⟩ := moves_channelMut hfresh hsound hfirst
  have hkept₁ : a₁.reconnects = a.reconnects → a.channel ≠ none → a₁.channel = a.channel :=
    fun _ hne => congrArg SozuAgent.channel (hsame₁ hne)
  cases result₁ with
  | error e =>
    obtain ⟨rfl, rfl, rfl⟩ := h
    exact ⟨hmoves₁.forget, hsound₁, hepoch₁.ge, hkept₁, fun hne => absurd rfl hne⟩
  | ok conn =>
    simp only at h
    generalize hsend : sendOne sent conn w₁ ts₁ = sentFirst at h
    obtain ⟨outcome₁, w₂, ts₂⟩ := sentFirst
    have hsend₁ := moves_sendOne a₁ hsend
    have hmoves₂ := hmoves₁.trans hsend₁
    have hsound₂ := hsound₁.keep hsend₁.peers
    cases outcome₁ with
    | ok reply =>
      obtain ⟨rfl, rfl, rfl⟩ := h
      exact ⟨hmoves₂.forget, hsound₂, hepoch₁.ge, hkept₁, fun _ => hopen₁ conn rfl⟩
    | failure reply =>
      obtain ⟨rfl, rfl, rfl⟩ := h
      exact ⟨hmoves₂.forget, hsound₂, hepoch₁.ge, hkept₁, fun _ => hopen₁ conn rfl⟩
    | channel message =>
      -- the established channel is given up: the epoch has moved whatever the retry does
      simp only at h
      have hdropped := hmoves₂.trans (moves_drop a₁ w₂ ts₂ (a₁.reconnects + 1))
      generalize hsecond : channelMut { channel := none, reconnects := a₁.reconnects + 1 } w₂ ts₂ =
        second at h
      obtain ⟨result₃, a₃, w₃, ts₃⟩ := second
      obtain ⟨hmoves₃, hepoch₃, hsound₃, -, hopen₃⟩ :=
        moves_channelMut (hdropped.fresh hfresh) (sound_of_none rfl _) hsecond
      have hbefore₃ := hdropped.trans hmoves₃
      have hlt : a.reconnects < a₃.reconnects := by
        rw [hepoch₃, hepoch₁]
        exact Nat.lt_succ_self _
      have hmoved : ∀ {P : Prop}, a₃.reconnects = a.reconnects → P := fun heq => absurd heq hlt.ne'
      cases result₃ with
      | error e =>
        obtain ⟨rfl, rfl, rfl⟩ := h
        exact ⟨hbefore₃.forget, hsound₃, hlt.le, hmoved, fun hne => absurd rfl hne⟩
      | ok conn' =>
        simp only at h
        generalize hsend' : sendOne sent conn' w₃ ts₃ = sentSecond at h
        obtain ⟨outcome₂, w₄, ts₄⟩ := sentSecond
        have hsend₄ := moves_sendOne a₃ hsend'
        have hmoves₄ := hbefore₃.trans hsend₄
        have hsound₄ := hsound₃.keep hsend₄.peers
        cases outcome₂ with
        | ok reply =>
          obtain ⟨rfl, rfl, rfl⟩ := h
          exact ⟨hmoves₄.forget, hsound₄, hlt.le, hmoved, fun _ => hopen₃ conn' rfl⟩
        | failure reply =>
          obtain ⟨rfl, rfl, rfl⟩ := h
          exact ⟨hmoves₄.forget, hsound₄, hlt.le, hmoved, fun _ => hopen₃ conn' rfl⟩
        | channel message' =>
          obtain ⟨rfl, rfl, rfl⟩ := h
          exact ⟨(hmoves₄.trans (moves_drop a₃ _ ts₄ a₃.reconnects)).forget,
            sound_of_none rfl _, hlt.le, hmoved, fun hne => absurd rfl hne⟩

/-! ## A session -/

/-- The agent, what is to happen during its next requests, and the answers it got. -/
structure Session where
  agent : SozuAgent := {}
  world : World
  /-- The number of the next request. -/
  next : ℕ := 0
  /-- The turns of each request to come. -/
  turns : List (List Turn) := []
  /-- Whether the caller has given up, for each time the thread looks. -/
  gaveUp : List Bool := []
  /-- The answers, each with the socket of the connection it came over. -/
  answers : List (SocketIdentity × Answer) := []
  deriving DecidableEq, Repr

namespace Session

/-- The socket the agent's connection reached. -/
def peer (s : Session) : Option SocketIdentity :=
  s.agent.channel.bind fun connected => s.world.conns[connected.channel]?.map Conn.peer

/-- Note an answer under the socket it came from. -/
def note (s : Session) (request : Request) (reply : Reply) : Session :=
  { s with
    answers := s.answers ++ s.peer.toList.map fun socket => (socket, ⟨request, reply.response⟩) }

/-- Send a request over the channel. -/
def send (request : Request) (s : Session) : Except SozuError Response × Session :=
  let (outcome, agent, world) :=
    sendWithRetry ⟨s.next, request⟩ s.agent s.world (s.turns.headD [])
  let s := { s with agent, world, next := s.next + 1, turns := s.turns.tail }
  match outcome with
  | .ok reply => (.ok reply.response, s.note request reply)
  | .failure reply => (.error (.failure reply.response.message), s.note request reply)
  | .channel message => (.error (.channel message), s)

/-- The other side of a batch: the channel, and the caller's end of the reply. -/
def wire : Wire Session where
  send := send
  abandoned s := (s.gaveUp.headD false, { s with gaveUp := s.gaveUp.tail })

/-- The sockets the restarts still to come put at the path. -/
def ahead (s : Session) : List SocketIdentity := s.turns.flatMap restartsIn

/-- The link of the session's agent. -/
def link (s : Session) : Link SocketIdentity := Agent.link s.agent s.world

/-- The request was answered. -/
def Answered (request : Request) (s : Session) : Prop := ∃ x ∈ s.answers, x.2.request = request

end Session

/-- Restart identity: the socket that answered, and the live workers. -/
structure SozuGeneration where
  socket : SocketIdentity
  workerPids : BTreeSet ℤ
  deriving DecidableEq

/-- Why a query has no answer. -/
inductive QueryError where
  | sozu (error : SozuError)
  | unexpectedResponse
  deriving DecidableEq, Repr

/-- The PIDs of Sōzu's live workers. -/
def workerPids (s : Session) : Except QueryError (BTreeSet ℤ) × Session :=
  match s.send RequestType.status.into with
  | (.ok response, s) =>
      match response.content with
      | some (.workers infos) =>
          (.ok (BTreeSet.ofList ((infos.filter fun worker => worker.runState ≠ .stopped).map
            fun worker => worker.pid.toInt)), s)
      | _ => (.error .unexpectedResponse, s)
  | (.error e, s) => (.error (.sozu e), s)

/-- The workers, and the socket of the connection that answered. -/
def generation (s : Session) : Except QueryError SozuGeneration × Session :=
  match workerPids s with
  | (.ok workerPids, s) =>
      match s.agent.channel with
      | some connected => (.ok ⟨connected.socket, workerPids⟩, s)
      | none => (.error (.sozu (.channel "not connected")), s)
  | (.error e, s) => (.error e, s)

/-! ## What requests do to a session -/

namespace Session

/-- The channel of the session reaches the socket it was verified against. -/
def Sound (s : Session) : Prop := Agent.Sound s.agent s.world

/-- What any number of requests do. -/
structure Advances (s s' : Session) : Prop where
  run : ∃ es : List (Link.Event SocketIdentity Answer), Link.Run s.link es s'.link ∧
    (Link.restarts es ++ s'.ahead).Sublist s.ahead ∧ s'.answers = s.answers ++ Link.answers es
  epoch_le : s.agent.reconnects ≤ s'.agent.reconnects
  /-- An established channel is only lost with the epoch moving. -/
  kept : s'.agent.reconnects = s.agent.reconnects → s.agent.channel ≠ none →
    s'.agent.channel = s.agent.channel

theorem Advances.refl (s : Session) : s.Advances s :=
  ⟨⟨[], .refl _, .refl _, (List.append_nil _).symm⟩, le_rfl, fun _ _ => rfl⟩

theorem Advances.trans {s₁ s₂ s₃ : Session} (h : s₁.Advances s₂) (h' : s₂.Advances s₃) :
    s₁.Advances s₃ := by
  obtain ⟨es, hrun, hsub, hanswers⟩ := h.run
  obtain ⟨es', hrun', hsub', hanswers'⟩ := h'.run
  have hle := h.epoch_le
  have hle' := h'.epoch_le
  refine ⟨⟨es ++ es', hrun.trans hrun', ?_, ?_⟩, hle.trans hle', fun heq hne => ?_⟩
  · rw [Link.restarts_append, List.append_assoc]
    exact ((List.Sublist.refl _).append hsub').trans hsub
  · rw [hanswers', hanswers, Link.answers_append, List.append_assoc]
  · have hfirst := h.kept (by omega) hne
    rw [← hfirst]
    exact h'.kept (by omega) (hfirst ▸ hne)

theorem Advances.fresh {s s' : Session} {ahead : List SocketIdentity} (h : s.Advances s')
    (hfresh : Link.Fresh (s.ahead ++ ahead) s.link) : Link.Fresh (s'.ahead ++ ahead) s'.link := by
  obtain ⟨es, hrun, hsub, -⟩ := h.run
  refine Link.Fresh.run hrun (hfresh.mono ?_)
  rw [← List.append_assoc]
  exact hsub.append (.refl _)

/-- **While the agent still reaches a socket, all the answers came from it.** -/
theorem Advances.answered {s s' : Session} {ahead : List SocketIdentity} {socket : SocketIdentity}
    (h : s.Advances s') (hseen : Link.Seen (s.ahead ++ ahead) s.link socket)
    (hreach : s'.link.Reaches socket) :
    ∃ answers, s'.answers = s.answers ++ answers ∧ ∀ x ∈ answers, x.1 = socket := by
  obtain ⟨es, hrun, hsub, hanswers⟩ := h.run
  refine ⟨Link.answers es, hanswers, Link.Seen.answered hrun (hseen.mono ?_) hreach⟩
  exact fun x hx => List.mem_append_left _ (hsub.subset (List.mem_append_left _ hx))

theorem ahead_cons (s : Session) :
    s.ahead = restartsIn (s.turns.headD []) ++ s.turns.tail.flatMap restartsIn := by
  unfold ahead
  cases s.turns with
  | nil => rfl
  | cons ts turns => rfl

/-- The socket of a sound connection. -/
theorem peer_eq {s : Session} (hsound : s.Sound) {c : ConnectedChannel}
    (hc : s.agent.channel = some c) : s.peer = some c.socket := by
  rw [peer, hc]
  exact hsound c hc

/-- **A request**: it advances the session, and an answer to it is noted. -/
theorem send_advances (request : Request) {s : Session} {ahead : List SocketIdentity}
    (hfresh : Link.Fresh (s.ahead ++ ahead) s.link) (hsound : s.Sound) :
    s.Advances (s.send request).2 ∧ (s.send request).2.Sound ∧
      ((∀ message, (s.send request).1 ≠ .error (.channel message)) →
        Answered request (s.send request).2) := by
  unfold send
  generalize hsend : sendWithRetry ⟨s.next, request⟩ s.agent s.world (s.turns.headD []) = result
  obtain ⟨outcome, agent, world⟩ := result
  rw [ahead_cons, List.append_assoc] at hfresh
  have hsends := sendWithRetry_sends hfresh hsound hsend
  set sent : Session := { s with agent, world, next := s.next + 1, turns := s.turns.tail }
    with hsent
  obtain ⟨sockets, hrun, hsub⟩ := hsends.moves.run
  have hsub : sockets.Sublist (restartsIn (s.turns.headD [])) := by simpa [restartsIn] using hsub
  have hstep : s.Advances sent := by
    refine ⟨⟨_, hrun, ?_, by simp [hsent]⟩, hsends.epoch_le, hsends.kept⟩
    rw [Link.restarts_map_restart, ahead_cons s]
    exact hsub.append (.refl _)
  -- the answer that ends the request comes from the socket the agent is connected to
  have hnote : ∀ reply, outcome.reply = some reply →
      sent.Advances (sent.note request reply) ∧ Answered request (sent.note request reply) := by
    intro reply hreply
    obtain ⟨c, hc⟩ := Option.ne_none_iff_exists'.1 (hsends.answered (by simp [hreply]))
    have hpeer : sent.peer = some c.socket := @peer_eq sent hsends.sound c hc
    have hanswers : (sent.note request reply).answers =
        sent.answers ++ [(c.socket, ⟨request, reply.response⟩)] := by simp [note, hpeer]
    refine ⟨⟨⟨[.answer c.socket ⟨request, reply.response⟩], ?_, .refl _, hanswers⟩, le_rfl,
      fun _ _ => rfl⟩, (c.socket, ⟨request, reply.response⟩), ?_, rfl⟩
    · exact .answer (congrArg (Option.map ConnectedChannel.socket) hc) (.refl _)
    · simp [hanswers]
  cases outcome with
  | ok reply => exact ⟨hstep.trans (hnote reply rfl).1, hsends.sound, fun _ => (hnote reply rfl).2⟩
  | failure reply =>
    exact ⟨hstep.trans (hnote reply rfl).1, hsends.sound, fun _ => (hnote reply rfl).2⟩
  | channel message => exact ⟨hstep, hsends.sound, fun hne => absurd rfl (hne message)⟩

end Session

/-! ## A batch -/

/-- What the other side keeps true, whatever it is sent. -/
structure Wire.Keeps {σ : Type} (wire : Wire σ) (P : σ → Prop) : Prop where
  send : ∀ request s, P s → P (wire.send request s).2
  abandoned : ∀ s, P s → P (wire.abandoned s).2

namespace Wire.Keeps

variable {σ : Type} {lib : Library} {wire : Wire σ} {P : σ → Prop} (h : wire.Keeps P)

include h

theorem of_send {request : Request} {s s' : σ} {x : Except SozuError Response} (hs : P s)
    (heq : wire.send request s = (x, s')) : P s' := by
  have hafter := h.send request s hs
  rwa [heq] at hafter

theorem of_abandoned {s s' : σ} {x : Bool} (hs : P s) (heq : wire.abandoned s = (x, s')) :
    P s' := by
  have hafter := h.abandoned s hs
  rwa [heq] at hafter

theorem of_applyOne {request : RequestType} {s s' : σ} {x : Except SozuError Unit} (hs : P s)
    (heq : applyOne wire request s = (x, s')) : P s' := by
  unfold applyOne at heq
  split at heq <;> obtain ⟨-, rfl⟩ := heq <;> exact h.of_send hs ‹_›

theorem of_keyHolder {request : RequestType} {s s' : σ} {x : Except SozuError Holder} (hs : P s)
    (heq : keyHolder lib wire request s = (x, s')) : P s' := by
  unfold keyHolder at heq
  split at heq
  · obtain ⟨-, rfl⟩ := heq
    exact hs
  · split at heq
    · split at heq
      · split at heq <;> obtain ⟨-, rfl⟩ := heq <;> exact h.of_send hs ‹_›
      · obtain ⟨-, rfl⟩ := heq
        exact h.of_send hs ‹_›
    · obtain ⟨-, rfl⟩ := heq
      exact h.of_send hs ‹_›
    · obtain ⟨-, rfl⟩ := heq
      exact h.of_send hs ‹_›

theorem of_evictStaleHolder {request : RequestType} {answer : String} {progress : ℕ × ℕ}
    {s s' : σ} {x : Except SozuError Eviction} (hs : P s)
    (heq : evictStaleHolder lib wire request answer progress s = (x, s')) : P s' := by
  unfold evictStaleHolder at heq
  split at heq
  · obtain ⟨-, rfl⟩ := heq
    exact h.of_keyHolder hs ‹_›
  · have hheld := h.of_keyHolder hs ‹_›
    split at heq
    · split at heq
      · obtain ⟨-, rfl⟩ := heq
        exact h.of_abandoned hheld ‹_›
      · have hlooked := h.of_abandoned hheld ‹_›
        split at heq
        · obtain ⟨-, rfl⟩ := heq
          exact h.of_applyOne hlooked ‹_›
        · split at heq <;> obtain ⟨-, rfl⟩ := heq <;> exact h.of_applyOne hlooked ‹_›
        · obtain ⟨-, rfl⟩ := heq
          exact h.of_applyOne hlooked ‹_›
    · obtain ⟨-, rfl⟩ := heq
      exact hheld
  · obtain ⟨-, rfl⟩ := heq
    exact h.of_keyHolder hs ‹_›
  · obtain ⟨-, rfl⟩ := heq
    exact h.of_keyHolder hs ‹_›

theorem of_addReplacement {request : RequestType} {refusal : String} {progress : ℕ × ℕ} {s s' : σ}
    {x : Except SozuError Unit} (hs : P s)
    (heq : addReplacement wire request refusal progress s = (x, s')) : P s' := by
  unfold addReplacement at heq
  split at heq
  · split at heq
    · obtain ⟨-, rfl⟩ := heq
      exact h.of_abandoned hs ‹_›
    · have hlooked := h.of_abandoned hs ‹_›
      split at heq
      · obtain ⟨-, rfl⟩ := heq
        exact h.of_applyOne hlooked ‹_›
      · exact h.of_applyOne hlooked heq
  · obtain ⟨-, rfl⟩ := heq
    exact hs

theorem of_repairDuplicate {request own : RequestType} {progress : ℕ × ℕ} {s s' : σ}
    {x : Except SozuError Unit} (hs : P s)
    (heq : repairDuplicate lib wire request own progress s = (x, s')) : P s' := by
  unfold repairDuplicate at heq
  split at heq
  · obtain ⟨-, rfl⟩ := heq
    exact h.of_keyHolder hs ‹_›
  · have hheld := h.of_keyHolder hs ‹_›
    simp only at heq
    split at heq
    · obtain ⟨-, rfl⟩ := heq
      exact h.of_abandoned hheld ‹_›
    · have hlooked := h.of_abandoned hheld ‹_›
      split at heq
      · exact h.of_applyOne (h.of_applyOne hlooked ‹_›) heq
      · exact h.of_applyOne (h.of_applyOne hlooked ‹_›) heq
      · obtain ⟨-, rfl⟩ := heq
        exact h.of_applyOne hlooked ‹_›

theorem of_settleOk {request : RequestType} {message : String} {progress : ℕ × ℕ} {s s' : σ}
    {x : Except SozuError Effect} (hs : P s)
    (heq : settleOk lib wire request message progress s = (x, s')) : P s' := by
  unfold settleOk at heq
  split at heq
  · split at heq <;> obtain ⟨-, rfl⟩ := heq <;> exact h.of_evictStaleHolder hs ‹_›
  · obtain ⟨-, rfl⟩ := heq
    exact hs

theorem of_settleGone {request : RequestType} {message : String} {progress : ℕ × ℕ} {s s' : σ}
    {x : Except SozuError Effect} (hs : P s)
    (heq : settleGone lib wire request message progress s = (x, s')) : P s' := by
  have hevicted : ∀ (y : Except SozuError Eviction) (s₁ : σ),
      (if isFrontendTeardown request then evictStaleHolder lib wire request message progress s
        else (.ok .nothing, s)) = (y, s₁) → P s₁ := by
    intro y s₁ hy
    split at hy
    · exact h.of_evictStaleHolder hs hy
    · obtain ⟨-, rfl⟩ := hy
      exact hs
  unfold settleGone at heq
  simp only at heq
  split at heq <;> obtain ⟨-, rfl⟩ := heq <;> exact hevicted _ _ ‹_›

theorem of_settleDuplicate {request : RequestType} {progress : ℕ × ℕ} {s s' : σ}
    {x : Except SozuError Effect} (hs : P s)
    (heq : settleDuplicate lib wire request progress s = (x, s')) : P s' := by
  unfold settleDuplicate at heq
  split at heq
  · obtain ⟨-, rfl⟩ := heq
    exact hs
  · split at heq <;> obtain ⟨-, rfl⟩ := heq <;> exact h.of_repairDuplicate hs ‹_›

theorem of_settleFailure {request : RequestType} {message : String} {progress : ℕ × ℕ} {s s' : σ}
    {x : Except SozuError Effect} (hs : P s)
    (heq : settleFailure lib wire request message progress s = (x, s')) : P s' := by
  unfold settleFailure at heq
  split at heq
  · exact h.of_settleGone hs heq
  · split at heq
    · exact h.of_settleDuplicate hs heq
    · split at heq
      · split at heq <;> obtain ⟨-, rfl⟩ := heq <;> exact h.of_addReplacement hs ‹_›
      · obtain ⟨-, rfl⟩ := heq
        exact hs

/-- **One request and what settles it.** -/
theorem of_applyRequest {request : Request} {progress : ℕ × ℕ} {s s' : σ}
    {x : Except SozuError Effect} (hs : P s)
    (heq : applyRequest lib wire request progress s = (x, s')) : P s' := by
  unfold applyRequest at heq
  split at heq
  · exact h.of_settleOk (h.of_send hs ‹_›) heq
  · exact h.of_settleFailure (h.of_send hs ‹_›) heq
  · obtain ⟨-, rfl⟩ := heq
    exact h.of_send hs ‹_›
  · obtain ⟨-, rfl⟩ := heq
    exact h.of_send hs ‹_›

/-- **A batch keeps what the other side keeps.** -/
theorem of_applyTracked {total applied : ℕ} {requests : List Request} {p p' : Progress} {s s' : σ}
    {x : Except SozuError Unit} (hs : P s)
    (heq : applyTracked lib wire total applied requests p s = (x, p', s')) : P s' := by
  induction requests generalizing applied p s with
  | nil =>
    obtain ⟨-, -, rfl⟩ := heq
    exact hs
  | cons request requests ih =>
    unfold applyTracked at heq
    split at heq
    · obtain ⟨-, -, rfl⟩ := heq
      exact h.of_abandoned hs ‹_›
    · have hlooked := h.of_abandoned hs ‹_›
      split at heq
      · obtain ⟨-, -, rfl⟩ := heq
        exact h.of_applyRequest hlooked ‹_›
      · exact ih (h.of_applyRequest hlooked ‹_›) heq

theorem of_applyUnless {requests : List Request} {s s' : σ} {x : Except ApplyError Unit} (hs : P s)
    (heq : applyUnless lib wire requests s = (x, s')) : P s' := by
  unfold applyUnless at heq
  split at heq <;> obtain ⟨-, rfl⟩ := heq <;> exact h.of_applyTracked hs ‹_›

end Wire.Keeps

/-- What the other side notes of the requests it answers. -/
structure Wire.Notes {σ : Type} (wire : Wire σ) (I : σ → Prop) (A : Request → σ → Prop) : Prop where
  keeps : wire.Keeps I
  stays : ∀ request, wire.Keeps fun s => I s ∧ A request s
  noted_ok : ∀ {request s s' response}, I s → wire.send request s = (.ok response, s') →
    A request s'
  noted_failure : ∀ {request s s' message}, I s →
    wire.send request s = (.error (.failure message), s') → A request s'

namespace Wire.Notes

variable {σ : Type} {lib : Library} {wire : Wire σ} {I : σ → Prop} {A : Request → σ → Prop}
  (h : wire.Notes I A)

include h

/-- A settled request was answered. -/
theorem of_applyRequest {request : Request} {progress : ℕ × ℕ} {s s' : σ} {effect : Effect}
    (hs : I s) (heq : applyRequest lib wire request progress s = (.ok effect, s')) :
    A request s' := by
  unfold applyRequest at heq
  split at heq
  · exact ((h.stays request).of_settleOk ⟨h.keeps.of_send hs ‹_›, h.noted_ok hs ‹_›⟩ heq).2
  · exact ((h.stays request).of_settleFailure
      ⟨h.keeps.of_send hs ‹_›, h.noted_failure hs ‹_›⟩ heq).2
  · obtain ⟨-, rfl⟩ := heq
    exact h.noted_ok hs ‹_›
  · cases heq

/-- **Every request a batch counts was answered.** -/
theorem of_applyTracked {total applied : ℕ} {requests : List Request} {p p' : Progress} {s s' : σ}
    {x : Except SozuError Unit} (hs : I s) (hp : p.acknowledged = applied)
    (heq : applyTracked lib wire total applied requests p s = (x, p', s')) :
    ∃ k, p'.acknowledged = applied + k ∧ (x = .ok () → k = requests.length) ∧
      ∀ r ∈ requests.take k, A r s' := by
  induction requests generalizing applied p s with
  | nil =>
    obtain ⟨-, rfl, rfl⟩ := heq
    exact ⟨0, hp, fun _ => rfl, by simp⟩
  | cons request requests ih =>
    unfold applyTracked at heq
    split at heq
    · obtain ⟨rfl, rfl, rfl⟩ := heq
      exact ⟨0, hp, by simp, by simp⟩
    · have hlooked := h.keeps.of_abandoned hs ‹_›
      split at heq
      · obtain ⟨rfl, rfl, rfl⟩ := heq
        exact ⟨0, hp, by simp, by simp⟩
      · rename_i effect s₂ happly
        have hsettled : (p.settle applied effect).acknowledged = applied + 1 := by
          cases effect <;> rfl
        have hafter := h.keeps.of_applyRequest hlooked happly
        obtain ⟨k, hk, hall, htake⟩ := ih hafter hsettled heq
        refine ⟨k + 1, by omega, fun he => by rw [hall he, List.length_cons], fun r hr => ?_⟩
        rw [List.take_succ_cons, List.mem_cons] at hr
        rcases hr with rfl | hr
        · exact ((h.stays r).of_applyTracked ⟨hafter, h.of_applyRequest hlooked happly⟩ heq).2
        · exact htake r hr

end Wire.Notes

/-- How many requests at the head of a batch were settled. -/
def acknowledgedOf (batch : List Request) : Except ApplyError Unit → ℕ
  | .ok () => batch.length
  | .error failure => failure.applied

/-- The head to replay is among the settled requests. -/
theorem replayable_le_applied {σ : Type} {lib : Library} {wire : Wire σ} {requests : List Request}
    {s s' : σ} {failure : ApplyError}
    (heq : applyUnless lib wire requests s = (.error failure, s')) :
    failure.replayable ≤ failure.applied := by
  unfold applyUnless at heq
  split at heq
  · cases heq
  · rename_i progress _ _
    obtain ⟨rfl, rfl⟩ := heq
    cases progress.unproven with
    | none => exact le_rfl
    | some at_ => exact min_le_left _ _

namespace Session

/-- What the session of a job satisfies, given where it started. -/
structure Runs (start : Session) (ahead : List SocketIdentity) (s : Session) : Prop where
  advances : start.Advances s
  fresh : Link.Fresh (s.ahead ++ ahead) s.link
  sound : s.Sound

theorem wire_runs (start : Session) (ahead : List SocketIdentity) :
    wire.Keeps (Runs start ahead) where
  send request s hs := by
    obtain ⟨hadvances, hsound, -⟩ := send_advances request hs.fresh hs.sound
    exact ⟨hs.advances.trans hadvances, hadvances.fresh hs.fresh, hsound⟩
  abandoned s hs := ⟨hs.advances.trans ⟨⟨[], .refl _, .refl _, (List.append_nil _).symm⟩, le_rfl,
    fun _ _ => rfl⟩, hs.fresh, hs.sound⟩

/-- What the channel notes of the requests it answers. -/
theorem wire_notes (start : Session) (ahead : List SocketIdentity) :
    wire.Notes (Runs start ahead) Answered where
  keeps := wire_runs start ahead
  stays request :=
    { send := fun request' s hs => by
        have hafter := (wire_runs start ahead).send request' s hs.1
        obtain ⟨x, hx, hrequest⟩ := hs.2
        obtain ⟨_, -, -, hanswers⟩ := (send_advances request' hs.1.fresh hs.1.sound).1.run
        refine ⟨hafter, x, ?_, hrequest⟩
        show x ∈ (s.send request').2.answers
        rw [hanswers]
        exact List.mem_append_left _ hx
      abandoned := fun s hs => ⟨(wire_runs start ahead).abandoned s hs.1, hs.2⟩ }
  noted_ok := fun {request s s' response} hs heq => by
    have hanswered := (send_advances request hs.fresh hs.sound).2.2
    rw [show s.send request = _ from heq] at hanswered
    exact hanswered (by simp)
  noted_failure := fun {request s s' message} hs heq => by
    have hanswered := (send_advances request hs.fresh hs.sound).2.2
    rw [show s.send request = _ from heq] at hanswered
    exact hanswered (by simp)

/-- **A batch over the channel**: it advances the session, and every request it counts was
answered. -/
theorem applyUnless_runs {lib : Library} {batch : List Request} {s s' : Session}
    {ahead : List SocketIdentity} {x : Except ApplyError Unit}
    (hfresh : Link.Fresh (s.ahead ++ ahead) s.link) (hsound : s.Sound)
    (heq : applyUnless lib wire batch s = (x, s')) :
    Runs s ahead s' ∧ ∀ r ∈ batch.take (acknowledgedOf batch x), Answered r s' := by
  have hstart : Runs s ahead s := ⟨.refl s, hfresh, hsound⟩
  refine ⟨(wire_runs s ahead).of_applyUnless hstart heq, ?_⟩
  have hzero : ({} : Progress).acknowledged = 0 := rfl
  unfold applyUnless at heq
  split at heq
  · obtain ⟨rfl, rfl⟩ := heq
    obtain ⟨k, -, hall, htake⟩ := (wire_notes s ahead).of_applyTracked hstart hzero ‹_›
    rw [hall rfl] at htake
    exact htake
  · obtain ⟨rfl, rfl⟩ := heq
    obtain ⟨k, hk, -, htake⟩ := (wire_notes s ahead).of_applyTracked hstart hzero ‹_›
    simpa [acknowledgedOf, hk] using htake

/-- **A `Status` over the channel**: the socket it reports is the one the agent is connected
to. -/
theorem generation_runs {s s' : Session} {ahead : List SocketIdentity}
    {x : Except QueryError SozuGeneration} (hfresh : Link.Fresh (s.ahead ++ ahead) s.link)
    (hsound : s.Sound) (heq : generation s = (x, s')) :
    Runs s ahead s' ∧ ∀ g, x = .ok g → s'.link.channel = some g.socket := by
  have hstart : Runs s ahead s := ⟨.refl s, hfresh, hsound⟩
  have hworkers : ∀ y s₁, workerPids s = (y, s₁) → Runs s ahead s₁ := by
    intro y s₁ hy
    unfold workerPids at hy
    split at hy
    · have hsent := (wire_runs s ahead).of_send hstart ‹_›
      split at hy <;> obtain ⟨-, rfl⟩ := hy <;> exact hsent
    · obtain ⟨-, rfl⟩ := hy
      exact (wire_runs s ahead).of_send hstart ‹_›
  unfold generation at heq
  split at heq
  · rename_i pids s₁ hpids
    split at heq
    · rename_i connected hconnected
      obtain ⟨rfl, rfl⟩ := heq
      refine ⟨hworkers _ _ hpids, fun g hg => ?_⟩
      obtain rfl := Except.ok.inj hg
      exact congrArg (Option.map ConnectedChannel.socket) hconnected
    · obtain ⟨rfl, rfl⟩ := heq
      exact ⟨hworkers _ _ hpids, fun g hg => by cases hg⟩
  · obtain ⟨rfl, rfl⟩ := heq
    exact ⟨hworkers _ _ ‹_›, fun g hg => by cases hg⟩

end Session

end Agent

end SozuGateway
