import SozuGateway.Sozu.Command

/-!
# The agent's command channel

`SozuAgent::connect`, `channel_mut`, `send_one` and `send_with_retry`, over a command
socket without request ids.

* `World` — the connections opened so far, each a queue of requests to the peer and a
  queue of replies from it, and the identity of the socket at the path.
* `PeerAction` — what the other side does between two operations of the agent: it
  reads a request, answers the first one it holds, never answers it, or restarts.
* `Turn` — one operation of the agent: what the peer did before it, and whether it
  fails.  A run is a list of turns, so every interleaving is one list.
* `Conn.outstanding` — the requests a terminal reply can still arrive for, oldest
  first: the peer only ever shortens it (`outstanding_act`).
* `replies_paired` — every response a call returns answers the request of that call, and no
  terminal reply is outstanding between two calls.
-/

set_option autoImplicit false

namespace SozuGateway

namespace Agent

open Sozu

/-! ## Replies -/

/-- The status of a response. -/
inductive ResponseStatus where
  | ok
  | processing
  | failure
  deriving DecidableEq, Repr

/-- Whether a worker runs. -/
inductive RunState where
  | running
  | stopping
  | stopped
  | notAnswering
  deriving DecidableEq, Repr

/-- A worker of Sōzu, as `Status` lists it. -/
structure WorkerInfo where
  id : UInt32
  pid : Int32
  runState : RunState
  deriving DecidableEq, Repr

/-- The frontends a listing answers with. -/
structure ListedFrontends where
  httpFrontends : List RequestHttpFrontend
  httpsFrontends : List RequestHttpFrontend
  tcpFrontends : List RequestTcpFrontend
  udpFrontends : List RequestUdpFrontend
  deriving DecidableEq, Repr

/-- The body of a response. -/
inductive ContentType where
  | workers (infos : List WorkerInfo)
  | frontendList (listed : ListedFrontends)
  deriving DecidableEq, Repr

/-- A response of Sōzu. -/
structure Response where
  status : ResponseStatus
  message : String
  content : Option ContentType
  deriving DecidableEq, Repr

/-- Identity of the command socket in the shared filesystem. -/
structure SocketIdentity where
  device : UInt64
  inode : UInt64
  changedSecs : Int64
  changedNanos : Int64
  deriving DecidableEq, Repr

/-- A request on the wire, with the call it was sent for. -/
structure Sent where
  call : ℕ
  request : Request
  deriving DecidableEq, Repr

/-- A reply, with the request it answers.  The wire carries the response alone. -/
structure Reply where
  response : Response
  answers : Sent
  deriving DecidableEq, Repr

/-- A reply that ends its request. -/
def Reply.terminal (r : Reply) : Bool := r.response.status ≠ .processing

/-! ## Connections -/

/-- A connection: what the agent wrote and the peer has not read, what the peer read
and may still answer, and the replies the agent has not read, each oldest first. -/
structure Conn where
  /-- The socket it reached. -/
  peer : SocketIdentity
  written : List Sent := []
  held : List Sent := []
  replies : List Reply := []
  deriving DecidableEq, Repr

/-- The requests a terminal reply can still arrive for, oldest first. -/
def Conn.outstanding (c : Conn) : List Sent :=
  (c.replies.filter Reply.terminal).map Reply.answers ++ c.held ++ c.written

/-- The connections opened so far, and the socket at the path. -/
structure World where
  conns : List Conn := []
  path : SocketIdentity
  deriving DecidableEq, Repr

/-- What the other side does between two operations of the agent. -/
inductive PeerAction where
  /-- It reads the next request of a connection. -/
  | read (conn : ℕ)
  /-- It answers the first request it holds, which a terminal response ends. -/
  | answer (conn : ℕ) (response : Response)
  /-- It never answers the first request it holds. -/
  | forget (conn : ℕ)
  /-- It restarts: the path names a new socket. -/
  | restart (socket : SocketIdentity)
  deriving DecidableEq, Repr

namespace Conn

/-- The peer reads the next request. -/
def read (c : Conn) : Conn :=
  match c.written with
  | [] => c
  | sent :: written => { c with written, held := c.held ++ [sent] }

/-- The peer answers the first request it holds. -/
def answer (response : Response) (c : Conn) : Conn :=
  match c.held with
  | [] => c
  | sent :: held =>
      { c with
        replies := c.replies ++ [⟨response, sent⟩]
        held := if response.status = .processing then sent :: held else held }

/-- The peer drops the first request it holds. -/
def forget (c : Conn) : Conn := { c with held := c.held.tail }

/-- The agent writes a request. -/
def write (sent : Sent) (c : Conn) : Conn := { c with written := c.written ++ [sent] }

/-- The agent reads a reply. -/
def pop (c : Conn) : Conn := { c with replies := c.replies.tail }

end Conn

namespace World

/-- Change one connection. -/
def modify (w : World) (conn : ℕ) (f : Conn → Conn) : World :=
  { w with conns := w.conns.modify conn f }

/-- An action of the other side. -/
def act (w : World) : PeerAction → World
  | .read conn => w.modify conn Conn.read
  | .answer conn response => w.modify conn (Conn.answer response)
  | .forget conn => w.modify conn Conn.forget
  | .restart socket => { w with path := socket }

end World

/-- One operation of the agent: what the other side did before it, and whether it
fails. -/
structure Turn where
  peer : List PeerAction
  fails : Bool
  /-- Whether a write that fails reaches the peer all the same. -/
  reaches : Bool := false
  deriving DecidableEq, Repr

/-- The world a turn finds. -/
def Turn.enter (t : Turn) (w : World) : World := t.peer.foldl World.act w

/-! ## The agent -/

/-- An established connection, and the socket it was verified against. -/
structure ConnectedChannel where
  channel : ℕ
  socket : SocketIdentity
  deriving DecidableEq, Repr

/-- The agent's connection, and how many established ones it gave up. -/
structure SozuAgent where
  channel : Option ConnectedChannel := none
  reconnects : ℕ := 0
  deriving DecidableEq, Repr

/-- What one request ends with.  The code keeps the message of a `Failure`; the
reply it came from is kept here. -/
inductive Outcome where
  | ok (reply : Reply)
  | failure (reply : Reply)
  /-- The channel broke, timed out or could not be opened. -/
  | channel (message : String)
  deriving DecidableEq, Repr

/-- The reply an outcome returns. -/
def Outcome.reply : Outcome → Option Reply
  | .ok reply | .failure reply => some reply
  | .channel _ => none

/-- Open a connection: read the identity of the socket, connect, and read the
identity again, since the path may have changed hands meanwhile. -/
def connect (a : SozuAgent) (w : World) :
    List Turn → Except String Unit × SozuAgent × World × List Turn
  | stat :: dial :: verify :: ts =>
      let w := stat.enter w
      if stat.fails then (.error "stat command socket", a, w, dial :: verify :: ts)
      else
        let identity := w.path
        let w := dial.enter w
        if dial.fails then (.error "connect", a, w, verify :: ts)
        else
          let conn := w.conns.length
          let w := verify.enter { w with conns := w.conns ++ [⟨w.path, [], [], []⟩] }
          if verify.fails then (.error "stat command socket", a, w, ts)
          else if w.path ≠ identity then
            (.error "command socket changed while connecting", a, w, ts)
          else (.ok (), { a with channel := some ⟨conn, identity⟩ }, w, ts)
  | ts => (.error "connect", a, w, ts)

/-- The connection to use, opened when there is none. -/
def channelMut (a : SozuAgent) (w : World) (ts : List Turn) :
    Except String ℕ × SozuAgent × World × List Turn :=
  match a.channel with
  | some connected => (.ok connected.channel, a, w, ts)
  | none =>
      match connect a w ts with
      | (.error e, a, w, ts) => (.error e, a, w, ts)
      | (.ok (), a, w, ts) =>
          match a.channel with
          | some connected => (.ok connected.channel, a, w, ts)
          | none => (.error "not connected", a, w, ts)

/-- Read replies up to a terminal one, skipping interim `Processing` ones.  A read
that finds no reply times out. -/
def awaitTerminal (conn : ℕ) : World → List Turn → Outcome × World × List Turn
  | w, [] => (.channel "timed out waiting for a terminal response", w, [])
  | w, t :: ts =>
      let w := t.enter w
      if t.fails then (.channel "read", w, ts)
      else
        match (w.conns[conn]?.map Conn.replies).getD [] with
        | [] => (.channel "timed out waiting for a terminal response", w, ts)
        | reply :: _ =>
            let w := w.modify conn Conn.pop
            match reply.response.status with
            | .processing => awaitTerminal conn w ts
            | .ok => (.ok reply, w, ts)
            | .failure => (.failure reply, w, ts)

/-- Send one request and await its terminal response. -/
def sendOne (sent : Sent) (conn : ℕ) (w : World) : List Turn → Outcome × World × List Turn
  | [] => (.channel "write", w, [])
  | t :: ts =>
      let w := t.enter w
      if t.fails then
        (.channel "write", if t.reaches then w.modify conn (Conn.write sent) else w, ts)
      else awaitTerminal conn (w.modify conn (Conn.write sent)) ts

/-- Send one request and return its terminal response; on a channel error reconnect
once and retry. -/
def sendWithRetry (sent : Sent) (a : SozuAgent) (w : World) (ts : List Turn) :
    Outcome × SozuAgent × World :=
  match channelMut a w ts with
  | (.error e, a, w, _) => (.channel e, a, w)
  | (.ok conn, a, w, ts) =>
      match sendOne sent conn w ts with
      | (.ok reply, w, _) => (.ok reply, a, w)
      | (.failure reply, w, _) => (.failure reply, a, w)
      | (.channel _, w, ts) =>
          let a := { a with channel := none, reconnects := a.reconnects + 1 }
          match channelMut a w ts with
          | (.error e, a, w, _) => (.channel e, a, w)
          | (.ok conn, a, w, ts) =>
              match sendOne sent conn w ts with
              | (.ok reply, w, _) => (.ok reply, a, w)
              | (.failure reply, w, _) => (.failure reply, a, w)
              -- the reply of this request may still be in flight
              | (.channel e, w, _) => (.channel e, { a with channel := none }, w)

/-- A call: the request, and the turns it takes. -/
structure Call where
  request : Request
  turns : List Turn

/-- The outcomes of a sequence of calls, numbered from `n`. -/
def calls (n : ℕ) (a : SozuAgent) (w : World) : List Call → List Outcome × SozuAgent × World
  | [] => ([], a, w)
  | call :: rest =>
      let (outcome, a, w) := sendWithRetry ⟨n, call.request⟩ a w call.turns
      let (outcomes, a, w) := calls (n + 1) a w rest
      (outcome :: outcomes, a, w)

/-! ## The queue of a connection -/

theorem Conn.outstanding_read (c : Conn) : c.read.outstanding = c.outstanding := by
  unfold Conn.read
  cases hwritten : c.written with
  | nil => rfl
  | cons sent written => simp [Conn.outstanding, hwritten]

theorem Conn.outstanding_answer (response : Response) (c : Conn) :
    (c.answer response).outstanding = c.outstanding := by
  unfold Conn.answer
  cases hheld : c.held with
  | nil => rfl
  | cons sent held =>
    by_cases hstatus : response.status = .processing
    · simp [Conn.outstanding, Reply.terminal, hheld, hstatus]
    · simp [Conn.outstanding, Reply.terminal, hheld, hstatus]

theorem Conn.outstanding_forget (c : Conn) : c.forget.outstanding.Sublist c.outstanding := by
  unfold Conn.forget Conn.outstanding
  exact ((List.Sublist.refl _).append (List.tail_sublist _)).append (.refl _)

@[simp] theorem Conn.outstanding_write (sent : Sent) (c : Conn) :
    (c.write sent).outstanding = c.outstanding ++ [sent] := by
  simp [Conn.outstanding, Conn.write]

/-- The requests a terminal reply can still arrive for on a connection. -/
def World.outstanding (w : World) (conn : ℕ) : List Sent :=
  (w.conns[conn]?.map Conn.outstanding).getD []

theorem World.outstanding_modify (w : World) (i conn : ℕ) (f : Conn → Conn) :
    (w.modify i f).outstanding conn =
      if i = conn then (w.conns[conn]?.map fun c => (f c).outstanding).getD []
      else w.outstanding conn := by
  unfold World.outstanding World.modify
  rw [List.getElem?_modify]
  by_cases hi : i = conn
  · simp [hi, Function.comp_def]
  · simp [hi]

/-- A change of one connection that only shortens its queue. -/
theorem World.outstanding_modify_sublist (w : World) (i conn : ℕ) {f : Conn → Conn}
    (hf : ∀ c, (f c).outstanding.Sublist c.outstanding) :
    ((w.modify i f).outstanding conn).Sublist (w.outstanding conn) := by
  rw [World.outstanding_modify]
  split
  · unfold World.outstanding
    cases w.conns[conn]? with
    | none => exact .refl _
    | some c => exact hf c
  · exact .refl _

/-- **The peer only ever shortens the queue of a connection.** -/
theorem outstanding_act (w : World) (action : PeerAction) (conn : ℕ) :
    ((w.act action).outstanding conn).Sublist (w.outstanding conn) := by
  cases action with
  | read i =>
    exact w.outstanding_modify_sublist i conn fun c => c.outstanding_read ▸ .refl _
  | answer i response =>
    exact w.outstanding_modify_sublist i conn fun c => c.outstanding_answer response ▸ .refl _
  | forget i => exact w.outstanding_modify_sublist i conn Conn.outstanding_forget
  | restart socket => exact .refl _

theorem outstanding_foldl_act (actions : List PeerAction) (w : World) (conn : ℕ) :
    ((actions.foldl World.act w).outstanding conn).Sublist (w.outstanding conn) := by
  induction actions generalizing w with
  | nil => exact .refl _
  | cons action actions ih => exact (ih (w.act action)).trans (outstanding_act w action conn)

theorem outstanding_enter_eq_nil {t : Turn} {w : World} {conn : ℕ} (h : w.outstanding conn = []) :
    (t.enter w).outstanding conn = [] :=
  List.sublist_nil.1 (h ▸ outstanding_foldl_act t.peer w conn)

/-! ## One request -/

/-- The first reply of a connection, when it is terminal, answers the oldest
outstanding request. -/
theorem outstanding_pop {w : World} {conn : ℕ} {reply : Reply} {replies : List Reply}
    (h : (w.conns[conn]?.map Conn.replies).getD [] = reply :: replies) :
    w.outstanding conn = (if reply.terminal then [reply.answers] else []) ++
      (w.modify conn Conn.pop).outstanding conn := by
  rw [World.outstanding_modify, if_pos rfl]
  unfold World.outstanding
  cases hc : w.conns[conn]? with
  | none => simp [hc] at h
  | some c =>
    have hreplies : c.replies = reply :: replies := by simpa [hc] using h
    by_cases hterminal : reply.terminal = true
    · simp [Conn.outstanding, Conn.pop, hreplies, hterminal]
    · simp [Conn.outstanding, Conn.pop, hreplies, hterminal]

/-- What is read while one request is outstanding at most answers it, and leaves
nothing outstanding. -/
theorem awaitTerminal_spec {sent : Sent} {conn : ℕ} {w : World} {ts : List Turn}
    (h : (w.outstanding conn).Sublist [sent]) {reply : Reply}
    (hreply : (awaitTerminal conn w ts).1.reply = some reply) :
    reply.answers = sent ∧ (awaitTerminal conn w ts).2.1.outstanding conn = [] := by
  induction ts generalizing w with
  | nil => simp [awaitTerminal, Outcome.reply] at hreply
  | cons t ts ih =>
    have hentered : ((t.enter w).outstanding conn).Sublist [sent] :=
      (outstanding_foldl_act t.peer w conn).trans h
    unfold awaitTerminal at hreply ⊢
    by_cases hfails : t.fails = true
    · simp [hfails, Outcome.reply] at hreply
    · simp only [if_neg hfails] at hreply ⊢
      cases hread : ((t.enter w).conns[conn]?.map Conn.replies).getD [] with
      | nil => simp [hread, Outcome.reply] at hreply
      | cons r rs =>
        have hpop := outstanding_pop hread
        -- a terminal reply is the one outstanding, and nothing stays behind it
        have hlast : r.terminal = true →
            r.answers = sent ∧ ((t.enter w).modify conn Conn.pop).outstanding conn = [] := by
          intro hterminal
          rw [hpop, if_pos hterminal, List.cons_append, List.nil_append] at hentered
          have hmem : r.answers ∈ [sent] := hentered.subset (by simp)
          have hlen := hentered.length_le
          simp only [List.length_cons, List.length_nil] at hlen
          exact ⟨by simpa using hmem, List.eq_nil_of_length_eq_zero (by omega)⟩
        cases hstatus : r.response.status with
        | processing =>
          simp only [hread, hstatus] at hreply ⊢
          refine ih ?_ hreply
          rw [hpop] at hentered
          exact (List.sublist_append_right _ _).trans hentered
        | ok =>
          simp only [hread, hstatus, Outcome.reply, Option.some.injEq] at hreply ⊢
          subst hreply
          exact hlast (by simp [Reply.terminal, hstatus])
        | failure =>
          simp only [hread, hstatus, Outcome.reply, Option.some.injEq] at hreply ⊢
          subst hreply
          exact hlast (by simp [Reply.terminal, hstatus])

/-- **A response read on a connection in step answers the request just sent**, and
leaves the connection in step. -/
theorem sendOne_spec {sent : Sent} {conn : ℕ} {w : World} {ts : List Turn}
    (h : w.outstanding conn = []) {reply : Reply}
    (hreply : (sendOne sent conn w ts).1.reply = some reply) :
    reply.answers = sent ∧ (sendOne sent conn w ts).2.1.outstanding conn = [] := by
  cases ts with
  | nil => simp [sendOne, Outcome.reply] at hreply
  | cons t ts =>
    unfold sendOne at hreply ⊢
    by_cases hfails : t.fails = true
    · simp [hfails, Outcome.reply] at hreply
    · simp only [if_neg hfails] at hreply ⊢
      refine awaitTerminal_spec ?_ hreply
      have hentered := outstanding_enter_eq_nil (t := t) h
      rw [World.outstanding_modify, if_pos rfl]
      unfold World.outstanding at hentered
      cases hc : (t.enter w).conns[conn]? with
      | none => simp
      | some c => simp_all

/-! ## Calls -/

/-- The agent is in step: no terminal reply is outstanding on its connection. -/
def InStep (a : SozuAgent) (w : World) : Prop :=
  ∀ connected, a.channel = some connected → w.outstanding connected.channel = []

theorem InStep.enter {a : SozuAgent} {w : World} (h : InStep a w) (actions : List PeerAction) :
    InStep a (actions.foldl World.act w) := fun connected hconnected =>
  List.sublist_nil.1 (h connected hconnected ▸ outstanding_foldl_act actions w connected.channel)

theorem inStep_of_none {a : SozuAgent} {w : World} (h : a.channel = none) : InStep a w := by
  intro connected hconnected
  rw [h] at hconnected
  cases hconnected

/-- A new connection is in step. -/
theorem connect_inStep {a : SozuAgent} {w : World} {ts : List Turn} (h : a.channel = none) :
    InStep (connect a w ts).2.1 (connect a w ts).2.2.1 := by
  unfold connect
  split
  · rename_i stat dial verify ts
    simp only
    split
    · exact inStep_of_none h
    · split
      · exact inStep_of_none h
      · split
        · exact inStep_of_none h
        · split
          · exact inStep_of_none h
          · intro connected hconnected
            obtain rfl := Option.some.inj hconnected
            refine outstanding_enter_eq_nil ?_
            simp [World.outstanding, Conn.outstanding]
  · exact inStep_of_none h

/-- What `channel_mut` returns: a connection in step, which is the agent's own. -/
structure Ready (conn : ℕ) (a : SozuAgent) (w : World) : Prop where
  own : ∀ connected, a.channel = some connected → connected.channel = conn
  nothing : w.outstanding conn = []

theorem Ready.inStep {conn : ℕ} {a : SozuAgent} {w : World} (h : Ready conn a w) : InStep a w := by
  intro connected hconnected
  rw [h.own connected hconnected]
  exact h.nothing

theorem ready_of_inStep {a : SozuAgent} {w : World} (h : InStep a w) {connected : ConnectedChannel}
    (hconnected : a.channel = some connected) : Ready connected.channel a w := by
  refine ⟨fun other hother => ?_, h connected hconnected⟩
  rw [hconnected] at hother
  rw [Option.some.inj hother]

theorem channelMut_spec {a a' : SozuAgent} {w w' : World} {ts ts' : List Turn}
    {res : Except String ℕ} (h : InStep a w) (hmut : channelMut a w ts = (res, a', w', ts')) :
    InStep a' w' ∧ ∀ conn, res = .ok conn → Ready conn a' w' := by
  unfold channelMut at hmut
  cases hchannel : a.channel with
  | some connected =>
    simp only [hchannel, Prod.mk.injEq] at hmut
    obtain ⟨rfl, rfl, rfl, rfl⟩ := hmut
    refine ⟨h, fun conn hconn => ?_⟩
    obtain rfl := Except.ok.inj hconn
    exact ready_of_inStep h hchannel
  | none =>
    have hstep : InStep (connect a w ts).2.1 (connect a w ts).2.2.1 := connect_inStep hchannel
    simp only [hchannel] at hmut
    generalize connect a w ts = result at hstep hmut
    obtain ⟨opened, a₁, w₁, ts₁⟩ := result
    cases opened with
    | error e =>
      simp only [Prod.mk.injEq] at hmut
      obtain ⟨rfl, rfl, rfl, rfl⟩ := hmut
      exact ⟨hstep, fun conn hconn => by cases hconn⟩
    | ok u =>
      simp only at hmut
      cases hchannel₁ : a₁.channel with
      | none =>
        simp only [hchannel₁, Prod.mk.injEq] at hmut
        obtain ⟨rfl, rfl, rfl, rfl⟩ := hmut
        exact ⟨hstep, fun conn hconn => by cases hconn⟩
      | some connected =>
        simp only [hchannel₁, Prod.mk.injEq] at hmut
        obtain ⟨rfl, rfl, rfl, rfl⟩ := hmut
        refine ⟨hstep, fun conn hconn => ?_⟩
        obtain rfl := Except.ok.inj hconn
        exact ready_of_inStep hstep hchannel₁

/-- A request sent on a ready connection and answered leaves the agent in step. -/
theorem Ready.sendOne {conn : ℕ} {a : SozuAgent} {w w' : World} {ts ts' : List Turn} {sent : Sent}
    {outcome : Outcome} (h : Ready conn a w)
    (hsend : Agent.sendOne sent conn w ts = (outcome, w', ts')) {reply : Reply}
    (hreply : outcome.reply = some reply) : reply.answers = sent ∧ InStep a w' := by
  have hreply' : (Agent.sendOne sent conn w ts).1.reply = some reply := by
    rw [hsend]
    exact hreply
  obtain ⟨hanswers, hnothing⟩ := sendOne_spec h.nothing hreply'
  rw [hsend] at hnothing
  exact ⟨hanswers, Ready.inStep ⟨h.own, hnothing⟩⟩

/-- **A call returns a response to its own request**, and leaves the agent in step. -/
theorem sendWithRetry_spec {sent : Sent} {a a' : SozuAgent} {w w' : World} {ts : List Turn}
    {outcome : Outcome} (h : InStep a w) (hcall : sendWithRetry sent a w ts = (outcome, a', w')) :
    InStep a' w' ∧ ∀ reply, outcome.reply = some reply → reply.answers = sent := by
  have hnone : ∀ (e : String) (reply : Reply), (Outcome.channel e).reply = some reply →
      reply.answers = sent := fun e reply hreply => by cases hreply
  unfold sendWithRetry at hcall
  generalize hmut : channelMut a w ts = first at hcall
  obtain ⟨res, a₁, w₁, ts₁⟩ := first
  obtain ⟨hstep₁, hready₁⟩ := channelMut_spec h hmut
  cases res with
  | error e =>
    simp only [Prod.mk.injEq] at hcall
    obtain ⟨rfl, rfl, rfl⟩ := hcall
    exact ⟨hstep₁, hnone e⟩
  | ok conn =>
    simp only at hcall
    generalize hsend : sendOne sent conn w₁ ts₁ = sentFirst at hcall
    obtain ⟨outcome₁, w₂, ts₂⟩ := sentFirst
    have hanswered : ∀ reply, outcome₁.reply = some reply →
        reply.answers = sent ∧ InStep a₁ w₂ := fun _ => (hready₁ conn rfl).sendOne hsend
    cases outcome₁ with
    | ok reply =>
      simp only [Prod.mk.injEq] at hcall
      obtain ⟨rfl, rfl, rfl⟩ := hcall
      refine ⟨(hanswered reply rfl).2, fun reply' hreply' => (hanswered reply' hreply').1⟩
    | failure reply =>
      simp only [Prod.mk.injEq] at hcall
      obtain ⟨rfl, rfl, rfl⟩ := hcall
      refine ⟨(hanswered reply rfl).2, fun reply' hreply' => (hanswered reply' hreply').1⟩
    | channel e =>
      -- the connection is given up before the retry
      simp only at hcall
      generalize hmut' : channelMut { a₁ with channel := none, reconnects := a₁.reconnects + 1 } w₂
        ts₂ = second at hcall
      obtain ⟨res', a₃, w₃, ts₃⟩ := second
      obtain ⟨hstep₃, hready₃⟩ := channelMut_spec (inStep_of_none rfl) hmut'
      cases res' with
      | error e' =>
        simp only [Prod.mk.injEq] at hcall
        obtain ⟨rfl, rfl, rfl⟩ := hcall
        exact ⟨hstep₃, hnone e'⟩
      | ok conn' =>
        simp only at hcall
        generalize hsend' : sendOne sent conn' w₃ ts₃ = sentSecond at hcall
        obtain ⟨outcome₂, w₄, ts₄⟩ := sentSecond
        have hanswered' : ∀ reply, outcome₂.reply = some reply →
            reply.answers = sent ∧ InStep a₃ w₄ := fun _ => (hready₃ conn' rfl).sendOne hsend'
        cases outcome₂ with
        | ok reply =>
          simp only [Prod.mk.injEq] at hcall
          obtain ⟨rfl, rfl, rfl⟩ := hcall
          refine ⟨(hanswered' reply rfl).2, fun reply' hreply' => (hanswered' reply' hreply').1⟩
        | failure reply =>
          simp only [Prod.mk.injEq] at hcall
          obtain ⟨rfl, rfl, rfl⟩ := hcall
          refine ⟨(hanswered' reply rfl).2, fun reply' hreply' => (hanswered' reply' hreply').1⟩
        | channel e' =>
          simp only [Prod.mk.injEq] at hcall
          obtain ⟨rfl, rfl, rfl⟩ := hcall
          exact ⟨inStep_of_none rfl, hnone e'⟩

/-- What a sequence of calls keeps true, from any agent in step. -/
theorem calls_spec {n : ℕ} {a : SozuAgent} {w : World} {cs : List Call} (h : InStep a w) :
    InStep (calls n a w cs).2.1 (calls n a w cs).2.2 ∧
      ∀ (i : ℕ) (outcome : Outcome) (reply : Reply),
        (calls n a w cs).1[i]? = some outcome → outcome.reply = some reply →
          ∃ call, cs[i]? = some call ∧ reply.answers = ⟨n + i, call.request⟩ := by
  induction cs generalizing n a w with
  | nil => exact ⟨h, fun i outcome reply hi => by simp [calls] at hi⟩
  | cons call cs ih =>
    unfold calls
    generalize hcall : sendWithRetry ⟨n, call.request⟩ a w call.turns = result
    obtain ⟨outcome₀, a₁, w₁⟩ := result
    obtain ⟨hstep, hanswers⟩ := sendWithRetry_spec h hcall
    obtain ⟨hstep', hrest⟩ := ih (n := n + 1) hstep
    refine ⟨hstep', fun i outcome reply hi hreply => ?_⟩
    cases i with
    | zero =>
      obtain rfl : outcome₀ = outcome := by simpa using hi
      exact ⟨call, rfl, hanswers reply hreply⟩
    | succ i =>
      obtain ⟨call', hcall', hanswers'⟩ := hrest i outcome reply (by simpa using hi) hreply
      refine ⟨call', by simpa using hcall', ?_⟩
      rw [hanswers', show n + 1 + i = n + (i + 1) by omega]

/-- **The agent pairs every reply with its own request.**  Whatever the peer does,
each response a call returns was sent in answer to the request of that call; and
between two calls no terminal reply is outstanding on the agent's connection. -/
theorem replies_paired (w : World) (cs : List Call) :
    (∀ (i : ℕ) (outcome : Outcome) (reply : Reply),
      (calls 0 {} w cs).1[i]? = some outcome → outcome.reply = some reply →
        ∃ call, cs[i]? = some call ∧ reply.answers = ⟨i, call.request⟩) ∧
      ∀ actions : List PeerAction,
        InStep (calls 0 {} w cs).2.1 (actions.foldl World.act (calls 0 {} w cs).2.2) := by
  obtain ⟨hstep, hpaired⟩ := @calls_spec 0 {} w cs (inStep_of_none rfl)
  refine ⟨fun i outcome reply hi hreply => ?_, fun actions => hstep.enter actions⟩
  obtain ⟨call, hcall, hanswers⟩ := hpaired i outcome reply hi hreply
  exact ⟨call, hcall, by rw [hanswers, Nat.zero_add]⟩

end Agent

end SozuGateway
