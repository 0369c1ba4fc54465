import TaskQueue.Proofs.Dialogue
import TaskQueue.Proofs.Transport.Encryption

/-!
# `TaskQueue.Proofs.Transport.LifeCycle`: when a connector is connected

A connector that was just made is not connected. It is connected, it publishes and fetches, and it
is closed, in any order and any number of times. `Connector.life_cycle` says for every such course
when it is connected: if a connect succeeded and no close came after it. Nothing else counts.

The connector is answered by a `Party`, from whom any answer may come at any time. So a course
meets every pattern of failures, also one in the middle of a connect. `Turn` records one action
with all that was said to the party. An action that says nothing has not touched the broker.

`Connector.connectTo` and `Connector.work` are the operations of `Network.transport` with anybody
at the other end. `connect_network`, `publish_network` and `fetch_network` say that with the
brokers of the network they come to the same.
-/

set_option autoImplicit false

namespace TaskQueue

/-! ## Who answers -/

/-- Who answers connectors, in a state `σ`. Of the answers nothing is known: the party may be a
broker, and it may fail whenever it likes. -/
structure Party (σ : Type) where
  redis : (q : Redis.Request) → σ → Redis.Answer q × σ
  amqp : (q : Amqp.Request) → Amqp.Link × σ → Amqp.Answer q × Amqp.Link × σ

/-- A request of either protocol. -/
inductive Said where
  | redis (q : Redis.Request)
  | amqp (q : Amqp.Request)
deriving DecidableEq, Repr

namespace Party

variable {σ α : Type} (p : Party σ)

/-- Holds a dialogue as with Redis. What was said comes with the outcome. -/
def overRedis (t : Redis.Talk α) (s : σ) : Except ConnectorError α × List Said × σ :=
  let (r, _, s') := t.run.run p.redis s
  (r, (t.run.asked p.redis s).map .redis, s')

/-- Holds a dialogue as with an AMQP broker, over a connection. -/
def overAmqp (t : Amqp.Try α) (link : Amqp.Link) (s : σ) :
    Except ConnectorError α × List Said × Amqp.Link × σ :=
  let (r, _, link', s') := t.run.run p.amqp (link, s)
  (r, (t.run.asked p.amqp (link, s)).map .amqp, link', s')

/-- A connector that is not connected is let in: it is answered when it dials, and Redis passes
the test of the new connection. -/
def Admits (s : σ) : Connector → Prop
  | .redis c =>
    let (dialled, s) := p.redis (.dial c.descriptor.redisUrl) s
    dialled.isOk = true ∧ (p.redis (.call .ping) s).1.isOk = true
  | .native d _ => (p.amqp (.dial d.amqpUri) ({}, s)).1.isOk = true
  | .direct c => (p.amqp (.dial c.url) ({}, s)).1.isOk = true

end Party

/-! ## What a connect asks for -/

section
variable {σ : Type}

/-- Redis is connected to when the dial and the ping are both answered well. -/
theorem Redis.Connector.connect_isOk (answer : (q : Redis.Request) → σ → Redis.Answer q × σ)
    (d : Descriptor) (s : σ) :
    ((Redis.Connector.connect ⟨d, false⟩).run.run answer s).1.isOk = true ↔
      (answer (.dial d.redisUrl) s).1.isOk = true ∧
        (answer (.call .ping) (answer (.dial d.redisUrl) s).2).1.isOk = true := by
  change Except.isOk (Dialogue.run answer (.ask (.dial d.redisUrl) _) s).1 = true ↔ _
  rw [Dialogue.run]
  rcases answer (.dial d.redisUrl) s with ⟨dialled, s'⟩
  -- A dial that fails leaves nothing to ping.
  cases dialled with
  | error reason => exact ⟨fun h => absurd h Bool.false_ne_true, fun h => h.1⟩
  | ok =>
    change Except.isOk (Dialogue.run answer (.ask (.call .ping) _) s').1 = true ↔ _
    rw [Dialogue.run]
    rcases answer (.call .ping) s' with ⟨tested, s''⟩
    cases tested with
    | error reason => exact ⟨fun h => ⟨rfl, h⟩, fun h => h.2⟩
    | ok => exact ⟨fun h => ⟨rfl, h⟩, fun h => h.2⟩

/-- The native connector is connected when the dial is answered well. -/
theorem Amqp.Native.connect_isOk (answer : (q : Amqp.Request) → σ → Amqp.Answer q × σ)
    (d : Descriptor) (s : σ) :
    ((Amqp.Native.connect d).run.run answer s).1.isOk = (answer (.dial d.amqpUri) s).1.isOk := by
  change Except.isOk (Dialogue.run answer (.ask (.dial d.amqpUri) _) s).1 = _
  rw [Dialogue.run]
  rcases answer (.dial d.amqpUri) s with ⟨dialled, s'⟩
  cases dialled with
  | error reason => rfl
  | ok => rfl

/-- What becomes of the connection that was opened as a test makes no difference. -/
theorem Amqp.Direct.connect_isOk (answer : (q : Amqp.Request) → σ → Amqp.Answer q × σ)
    {c : Amqp.Direct} (h : c.connected = false) (s : σ) :
    (c.connect.run.run answer s).1.isOk = (answer (.dial c.url) s).1.isOk := by
  rw [connect, if_neg (by simp [h])]
  change Except.isOk (Dialogue.run answer (.ask (.dial c.url) _) s).1 = _
  rw [Dialogue.run]
  rcases answer (.dial c.url) s with ⟨dialled, s'⟩
  cases dialled with
  | error reason => rfl
  | ok =>
    change Except.isOk
      (Dialogue.run answer (.ask (.call (.connectionClose closeCode closeText)) _) s').1 = _
    rw [Dialogue.run]
    rcases answer (.call (.connectionClose closeCode closeText)) s' with ⟨closed, s''⟩
    -- The probe is closed again, and whether that goes well does not matter.
    cases closed with
    | error reason => rfl
    | ok => rfl

end

namespace Connector

variable {σ : Type} (p : Party σ)

/-! ## The operations -/

/-- What needs a connection, as each of the connectors does it. -/
structure Job (α : Type) where
  redis : Redis.Connector → Redis.Talk α
  native : Descriptor → Amqp.Try α
  direct : Amqp.Direct → Amqp.Try α

/-- Publishes an envelope. -/
def Job.publish (routingKey : String) (envelope : Bytes) (properties : PublishProperties) :
    Job Bool where
  redis c := c.publish routingKey envelope properties
  native d := Amqp.Native.publish d routingKey envelope properties
  direct c := c.publish routingKey envelope properties

/-- Looks for a result. -/
def Job.fetch (id : TaskId) (remove : Bool) : Job (Option ResultMessage) where
  redis c := c.fetch id remove
  native d := Amqp.Native.fetch d id remove
  direct c := c.fetch id remove

/-- Connects a connector. -/
def connectTo : Connector → σ → Except ConnectorError Unit × List Said × Connector × σ
  | redis c, s =>
    let (r, said, s) := p.overRedis c.connect s
    (r, said, redis { c with connected := c.connected || r.isOk }, s)
  | native d (some link), s => (.ok (), [], native d (some link), s)
  | native d none, s =>
    let (r, said, link, s) := p.overAmqp (Amqp.Native.connect d) {} s
    (r, said, native d (if r.isOk then some link else none), s)
  | direct c, s =>
    let (r, said, _, s) := p.overAmqp c.connect {} s
    (r, said, direct { c with connected := c.connected || r.isOk }, s)

/-- Does something that needs a connection. -/
def work {α : Type} (job : Job α) : Connector → σ →
    Except ConnectorError α × List Said × Connector × σ
  | redis c, s =>
    let (r, said, s) := p.overRedis (job.redis c) s
    (r, said, redis c, s)
  | native d none, s => (.error .notConnected, [], native d none, s)
  | native d (some link), s =>
    let (r, said, link, s) := p.overAmqp (job.native d) link s
    (r, said, native d (some link), s)
  | direct c, s =>
    let (r, said, _, s) := p.overAmqp (job.direct c) {} s
    (r, said, direct c, s)

variable {p}

/-- To connect once more costs nothing. -/
theorem connectTo_connected {c : Connector} (h : c.isConnected = true) (s : σ) :
    c.connectTo p s = (.ok (), [], c, s) := by
  cases c with
  | redis c =>
    obtain ⟨d, connected⟩ := c
    cases h
    rfl
  | native d link =>
    cases link with
    | none => cases h
    | some link => rfl
  | direct c =>
    obtain ⟨d, kind, url, chain, connected⟩ := c
    cases h
    rfl

/-- A connect that fails leaves the connector as it was, and one that succeeds connects it. -/
theorem connectTo_unconnected {c : Connector} (h : c.isConnected = false) (s : σ) :
    ((c.connectTo p s).1.isOk = false → (c.connectTo p s).2.2.1 = c) ∧
      (c.connectTo p s).2.2.1.isConnected = (c.connectTo p s).1.isOk := by
  cases c with
  | redis c =>
    obtain ⟨d, connected⟩ := c
    cases h
    exact ⟨fun hfails => congrArg (fun b => redis ⟨d, b⟩) hfails, rfl⟩
  | native d link =>
    cases link with
    | some link => cases h
    | none =>
      simp only [connectTo]
      -- The native connector keeps its link, so being connected is having one.
      cases (p.overAmqp (Amqp.Native.connect d) {} s).1.isOk with
      | false => simp [isConnected]
      | true => simp [isConnected]
  | direct c =>
    obtain ⟨d, kind, url, chain, connected⟩ := c
    cases h
    exact ⟨fun hfails => congrArg (fun b => direct ⟨d, kind, url, chain, b⟩) hfails, rfl⟩

/-- Whether a connect succeeds is up to who answers it, and to nothing that was before. -/
theorem connectTo_isOk {c : Connector} (h : c.isConnected = false) (s : σ) :
    (c.connectTo p s).1.isOk = true ↔ p.Admits s c := by
  cases c with
  | redis c =>
    obtain ⟨d, connected⟩ := c
    cases h
    exact Redis.Connector.connect_isOk p.redis d s
  | native d link =>
    cases link with
    | some link => cases h
    | none =>
      have hdial := Amqp.Native.connect_isOk p.amqp d ({}, s)
      exact Eq.congr_left hdial
  | direct c =>
    have hdial := Amqp.Direct.connect_isOk p.amqp h ({}, s)
    exact Eq.congr_left hdial

/-- Work neither makes a connection nor loses one. -/
theorem work_isConnected {α : Type} (job : Job α) (c : Connector) (s : σ) :
    (c.work p job s).2.2.1.isConnected = c.isConnected := by
  cases c with
  | redis c => rfl
  | native d link =>
    cases link with
    | none => rfl
    | some link => rfl
  | direct c => rfl

/-- Without a connection nothing is looked for, and nothing is said. -/
theorem fetch_unconnected {c : Connector} (h : c.isConnected = false) (id : TaskId)
    (remove : Bool) (s : σ) : c.work p (.fetch id remove) s = (.error .notConnected, [], c, s) := by
  cases c with
  | redis c =>
    obtain ⟨d, connected⟩ := c
    cases h
    rfl
  | native d link =>
    cases link with
    | none => rfl
    | some link => cases h
  | direct c =>
    obtain ⟨d, kind, url, chain, connected⟩ := c
    cases h
    rfl

/-- Without a connection nothing is published, and nothing is said. Over Redis an envelope that
cannot be wrapped is what shows first. -/
theorem publish_unconnected {c : Connector} (h : c.isConnected = false) (routingKey : String)
    (envelope : Bytes) (properties : PublishProperties) (s : σ) :
    ∃ e, c.work p (.publish routingKey envelope properties) s = (.error e, [], c, s) := by
  cases c with
  | redis c =>
    obtain ⟨d, connected⟩ := c
    cases h
    simp only [work, Job.publish, Party.overRedis, Redis.Connector.publish]
    -- Redis looks at the envelope before it looks at the connection, so the error may be about
    -- either.
    cases Redis.Message.ofEnvelope d routingKey envelope properties with
    | error e => exact ⟨e, rfl⟩
    | ok message => exact ⟨.notConnected, rfl⟩
  | native d link =>
    cases link with
    | none => exact ⟨.notConnected, rfl⟩
    | some link => cases h
  | direct c =>
    obtain ⟨d, kind, url, chain, connected⟩ := c
    cases h
    exact ⟨.notConnected, rfl⟩

/-! ## The brokers of the network -/

/-- What a dialogue changes of a part it changes in the whole. -/
theorem run_within {Q τ α : Type} {A : Q → Type} (answer : (q : Q) → σ → A q × σ) (get : τ → σ)
    (put : σ → τ → τ) (get_put : ∀ s t, get (put s t) = s) (put_get : ∀ t, put (get t) t = t)
    (put_put : ∀ s s' t, put s (put s' t) = put s t) (d : Dialogue Q A α) (t : τ) :
    d.run (fun q t => ((answer q (get t)).1, put (answer q (get t)).2 t)) t =
      ((d.run answer (get t)).1, (d.run answer (get t)).2.1,
        put (d.run answer (get t)).2.2 t) := by
  induction d generalizing t with
  | done a => simp only [Dialogue.run, put_get]
  | note e d ih => simp only [Dialogue.run, ih]
  | ask q k ih => simp only [Dialogue.run, ih, get_put, put_put]

/-- The brokers of the network, as those who answer. -/
def network : Party (World Network) where
  redis q w :=
    let (a, server) := Redis.Server.answer q w.broker.redis
    (a, w.setBroker { w.broker with redis := server })
  amqp q := fun (link, w) =>
    let (a, peer) := Amqp.Peer.answer q ⟨w.broker.amqp, link, w.clock⟩
    (a, peer.link,
      { w with broker := { w.broker with amqp := peer.broker }, clock := peer.clock })

/-- What is done over the network comes to the same as what is done over a party; only the
journal has more to say. -/
def Agrees {α : Type} (r : Except ConnectorError α × Connector × World Network)
    (r' : Except ConnectorError α × List Said × Connector × World Network) : Prop :=
  ∃ events, r = (r'.1, r'.2.2.1, r'.2.2.2.noteAll events)

/-- A conversation of the network transport with Redis is one of its party, up to the log. -/
theorem talkToRedis_network {α : Type} (t : Redis.Talk α) (w : World Network) :
    ∃ events, Network.talkToRedis t w =
      ((network.overRedis t w).1, (network.overRedis t w).2.2.noteAll events) := by
  have hrun := run_within Redis.Server.answer (fun w : World Network => w.broker.redis)
    (fun server w => w.setBroker { w.broker with redis := server }) (fun _ _ => rfl)
    (fun _ => rfl) (fun _ _ _ => rfl) t.run w
  refine ⟨(t.run.run Redis.Server.answer w.broker.redis).2.1, ?_⟩
  simp only [Network.talkToRedis, Party.overRedis, network]
  rw [hrun]

/-- A conversation of the network transport with an AMQP broker is one of its party, up to the log.
-/
theorem talkToAmqp_network {α : Type} (t : Amqp.Try α) (link : Amqp.Link) (w : World Network) :
    ∃ events, Network.talkToAmqp t link w =
      ((network.overAmqp t link w).1, (network.overAmqp t link w).2.2.1,
        (network.overAmqp t link w).2.2.2.noteAll events) := by
  have hrun := run_within Amqp.Peer.answer
    (fun s : Amqp.Link × World Network => ⟨s.2.broker.amqp, s.1, s.2.clock⟩)
    (fun peer s => (peer.link,
      { s.2 with broker := { s.2.broker with amqp := peer.broker }, clock := peer.clock }))
    (fun _ _ => rfl) (fun _ => rfl) (fun _ _ _ => rfl) t.run (link, w)
  refine ⟨(t.run.run Amqp.Peer.answer ⟨w.broker.amqp, link, w.clock⟩).2.1, ?_⟩
  simp only [Network.talkToAmqp, Party.overAmqp, network]
  rw [hrun]

/-- The network transport connects as its party does. -/
theorem connect_network (c : Connector) (w : World Network) :
    Agrees (Network.transport.connect c w) (c.connectTo network w) := by
  cases c with
  | redis c =>
    obtain ⟨events, h⟩ := talkToRedis_network c.connect w
    exact ⟨events, by simp only [Network.transport, connect, connectTo, h]⟩
  | native d link =>
    cases link with
    | some link => exact ⟨[], by simp [Network.transport, connect, connectTo, World.noteAll]⟩
    | none =>
      obtain ⟨events, h⟩ := talkToAmqp_network (Amqp.Native.connect d) {} w
      exact ⟨events, by simp only [Network.transport, connect, connectTo, h]⟩
  | direct c =>
    obtain ⟨events, h⟩ := talkToAmqp_network c.connect {} w
    exact ⟨events, by simp only [Network.transport, connect, connectTo, h]⟩

/-- It publishes as its party does. -/
theorem publish_network (c : Connector) (routingKey : String) (envelope : Bytes)
    (properties : PublishProperties) (w : World Network) :
    Agrees (Network.transport.publish c routingKey envelope properties w)
      (c.work network (.publish routingKey envelope properties) w) := by
  cases c with
  | redis c =>
    obtain ⟨events, h⟩ := talkToRedis_network (c.publish routingKey envelope properties) w
    exact ⟨events, by simp only [Network.transport, publish, work, Job.publish, h]⟩
  | native d link =>
    cases link with
    | none => exact ⟨[], by simp [Network.transport, publish, work, World.noteAll]⟩
    | some link =>
      obtain ⟨events, h⟩ :=
        talkToAmqp_network (Amqp.Native.publish d routingKey envelope properties) link w
      exact ⟨events, by simp only [Network.transport, publish, work, Job.publish, h]⟩
  | direct c =>
    obtain ⟨events, h⟩ := talkToAmqp_network (c.publish routingKey envelope properties) {} w
    exact ⟨events, by simp only [Network.transport, publish, work, Job.publish, h]⟩

/-- It fetches as its party does. -/
theorem fetch_network (c : Connector) (id : TaskId) (remove : Bool) (w : World Network) :
    Agrees (Network.transport.fetch c id remove w) (c.work network (.fetch id remove) w) := by
  cases c with
  | redis c =>
    obtain ⟨events, h⟩ := talkToRedis_network (c.fetch id remove) w
    exact ⟨events, by simp only [Network.transport, fetch, work, Job.fetch, h]⟩
  | native d link =>
    cases link with
    | none => exact ⟨[], by simp [Network.transport, fetch, work, World.noteAll]⟩
    | some link =>
      obtain ⟨events, h⟩ := talkToAmqp_network (Amqp.Native.fetch d id remove) link w
      exact ⟨events, by simp only [Network.transport, fetch, work, Job.fetch, h]⟩
  | direct c =>
    obtain ⟨events, h⟩ := talkToAmqp_network (c.fetch id remove) {} w
    exact ⟨events, by simp only [Network.transport, fetch, work, Job.fetch, h]⟩

/-! ## Courses -/

/-- What is done with a connector. -/
inductive Action where
  | connect
  | publish (routingKey : String) (envelope : Bytes) (properties : PublishProperties)
  | fetch (id : TaskId) (remove : Bool)
  | close
deriving DecidableEq, Repr

/-- The action needs a connection. -/
def Action.Works : Action → Prop
  | publish .. => True
  | fetch .. => True
  | _ => False

/-- What an action comes to, if it succeeds. -/
inductive Gain where
  | done
  | taken (accepted : Bool)
  | found (m : Option ResultMessage)
deriving DecidableEq, Repr

/-- One action with what it came to. -/
structure Turn where
  before : Connector
  action : Action
  outcome : Except ConnectorError Gain
  said : List Said
  after : Connector

/-- Does one thing with a connector. -/
def take (p : Party σ) (c : Connector) (action : Action) (s : σ) : Turn × σ :=
  match action with
  | .connect =>
    let (r, said, c', s) := c.connectTo p s
    (⟨c, action, r.map fun _ => .done, said, c'⟩, s)
  | .publish routingKey envelope properties =>
    let (r, said, c', s) := c.work p (.publish routingKey envelope properties) s
    (⟨c, action, r.map .taken, said, c'⟩, s)
  | .fetch id remove =>
    let (r, said, c', s) := c.work p (.fetch id remove) s
    (⟨c, action, r.map .found, said, c'⟩, s)
  | .close => (⟨c, action, .ok .done, [], c.close⟩, s)

/-- Does one thing after the other. -/
def play (p : Party σ) (c : Connector) (s : σ) : List Action → List Turn × Connector × σ
  | [] => ([], c, s)
  | action :: rest =>
    let (turn, s) := c.take p action s
    let (turns, c, s) := play p turn.after s rest
    (turn :: turns, c, s)

/-- A connect that succeeded. -/
def Turn.Connects (t : Turn) : Prop := t.action = .connect ∧ t.outcome.isOk = true

/-- A connect succeeded, and no close came after it. -/
def Connected (turns : List Turn) : Prop :=
  ∃ before t after, turns = before ++ t :: after ∧ t.Connects ∧ ∀ u ∈ after, u.action ≠ .close

/-- What holds of every turn, whoever answers.

- `again`: to connect a connector that is connected succeeds and says nothing;
- `refused`: a connect that fails leaves a connector unconnected, as it was;
- `kept`: publishing and fetching leave it connected, or not, as it was;
- `silent`: without a connection they fail, and nothing is said;
- `notConnected`: a fetch then fails with the error that says so. -/
structure Turn.Lawful (t : Turn) : Prop where
  again : t.action = .connect → t.before.isConnected = true →
    t.outcome = .ok .done ∧ t.said = [] ∧ t.after = t.before
  refused : t.action = .connect → t.outcome.isOk = false →
    t.after.isConnected = false ∧ t.after = t.before
  kept : t.action.Works → t.after.isConnected = t.before.isConnected
  silent : t.action.Works → t.before.isConnected = false →
    t.outcome.isOk = false ∧ t.said = [] ∧ t.after = t.before
  notConnected : ∀ id remove, t.action = .fetch id remove → t.before.isConnected = false →
    t.outcome = .error .notConnected

/-! ## One turn -/

/-- What is made of a success does not change whether there was one. -/
@[simp] theorem isOk_map {ε α β : Type} (f : α → β) (r : Except ε α) :
    (r.map f).isOk = r.isOk := by
  cases r with
  | ok a => rfl
  | error e => rfl

/-- A closed connector is not connected. -/
@[simp] theorem close_isConnected (c : Connector) : c.close.isConnected = false := by
  cases c with
  | redis c => rfl
  | native d link => rfl
  | direct c => rfl

/-- A turn records the action that was taken. -/
@[simp] theorem take_action (c : Connector) (action : Action) (s : σ) :
    (c.take p action s).1.action = action := by
  cases action <;> rfl

/-- After a turn the connector is connected if the turn connected it, or if it was connected and
was not closed. -/
theorem take_isConnected (c : Connector) (action : Action) (s : σ) :
    (c.take p action s).1.after.isConnected = true ↔
      (c.take p action s).1.Connects ∨ c.isConnected = true ∧ action ≠ .close := by
  cases action with
  | connect =>
    cases h : c.isConnected with
    | true => simp [take, connectTo_connected h, Turn.Connects, h, Except.isOk, Except.toBool]
    | false => simp [take, Turn.Connects, (connectTo_unconnected (p := p) h s).2]
  | publish routingKey envelope properties =>
    simp [take, Turn.Connects, work_isConnected]
  | fetch id remove => simp [take, Turn.Connects, work_isConnected]
  | close => simp [take, Turn.Connects]

/-- Every turn that a connector takes is lawful. -/
theorem take_lawful (c : Connector) (action : Action) (s : σ) :
    (c.take p action s).1.Lawful := by
  cases action with
  | connect =>
    refine ⟨fun _ (h : c.isConnected = true) => ?_, fun _ hfails => ?_, nofun, nofun, nofun⟩
    · simp [take, connectTo_connected h, Except.map]
    · have hfails : (c.connectTo p s).1.isOk = false := by
        simpa [take] using hfails
      -- A connector that is connected does not fail to connect.
      have h : c.isConnected = false := by
        by_contra hconnected
        simp [connectTo_connected (Bool.eq_true_of_not_eq_false hconnected), Except.isOk,
          Except.toBool] at hfails
      obtain ⟨hsame, -⟩ := connectTo_unconnected (p := p) h s
      have hafter : (c.take p .connect s).1.after = c := hsame hfails
      exact ⟨(congrArg isConnected hafter).trans h, hafter⟩
  | publish routingKey envelope properties =>
    refine ⟨nofun, nofun, fun _ => work_isConnected _ c s,
      fun _ (h : c.isConnected = false) => ?_, nofun⟩
    obtain ⟨e, he⟩ := publish_unconnected (p := p) h routingKey envelope properties s
    rw [take, he]
    exact ⟨rfl, rfl, rfl⟩
  | fetch id remove =>
    refine ⟨nofun, nofun, fun _ => work_isConnected _ c s,
      fun _ (h : c.isConnected = false) => ?_, fun _ _ _ (h : c.isConnected = false) => ?_⟩
    · rw [take, fetch_unconnected h]
      exact ⟨rfl, rfl, rfl⟩
    · rw [take, fetch_unconnected h]
      rfl
  | close => exact ⟨nofun, nofun, nofun, nofun, nofun⟩

/-! ## A whole course -/

/-- A history with one more turn in front is connected by the rest, or by that turn if nothing later
closes. -/
theorem connected_cons (t : Turn) (turns : List Turn) :
    Connected (t :: turns) ↔
      Connected turns ∨ t.Connects ∧ ∀ u ∈ turns, u.action ≠ .close := by
  constructor
  · rintro ⟨before, u, after, hsplit, hconnects, hafter⟩
    -- The connecting turn is the first one, or it lies in the rest.
    cases before with
    | nil =>
      cases hsplit
      exact .inr ⟨hconnects, hafter⟩
    | cons v before =>
      cases hsplit
      exact .inl ⟨before, u, after, rfl, hconnects, hafter⟩
  · rintro (⟨before, u, after, hsplit, hconnects, hafter⟩ | ⟨hconnects, hafter⟩)
    · exact ⟨t :: before, u, after, congrArg (t :: ·) hsplit, hconnects, hafter⟩
    · exact ⟨[], t, turns, rfl, hconnects, hafter⟩

/-- A history records the actions that were taken, in order. -/
theorem play_actions (c : Connector) (s : σ) (actions : List Action) :
    (c.play p s actions).1.map (·.action) = actions := by
  induction actions generalizing c s with
  | nil => rfl
  | cons action rest ih => simp [play, ih]

/-- A connector is connected after a course if it was connected in the course, or before it, and
not closed since. -/
theorem play_isConnected (c : Connector) (s : σ) (actions : List Action) :
    (c.play p s actions).2.1.isConnected = true ↔
      Connected (c.play p s actions).1 ∨
        c.isConnected = true ∧ ∀ u ∈ (c.play p s actions).1, u.action ≠ .close := by
  induction actions generalizing c s with
  | nil => simp [play, Connected]
  | cons action rest ih =>
    have hturn := take_isConnected (p := p) c action s
    simp only [play, connected_cons, List.forall_mem_cons, ih, hturn, take_action]
    tauto

/-- Every turn of a history is lawful. -/
theorem play_lawful (c : Connector) (s : σ) (actions : List Action) :
    ∀ t ∈ (c.play p s actions).1, t.Lawful := by
  induction actions generalizing c s with
  | nil => intro t ht; cases ht
  | cons action rest ih =>
    intro t ht
    rcases List.mem_cons.1 ht with rfl | ht
    · exact take_lawful c action s
    · exact ih _ _ t ht

/-- Whoever answers, and in whatever order it is connected, used and closed: a connector that was
just made is connected if and only if a connect succeeded and no close came after it. Every turn
of the course is `Lawful`. While the connector is not connected, another connect may succeed, also
after connects that failed: whether it does is up to who answers then. -/
theorem life_cycle {files : Files} {d : Descriptor} {kind : BackendKind} {c₀ : Connector}
    (made : ofKind files d kind = .ok c₀) (p : Party σ) (s₀ : σ) (actions : List Action) :
    let turns := (c₀.play p s₀ actions).1
    let c := (c₀.play p s₀ actions).2.1
    turns.map (·.action) = actions ∧
      (c.isConnected = true ↔ Connected turns) ∧
      (∀ t ∈ turns, t.Lawful) ∧
      (c.isConnected = false → ∀ {τ : Type} (q : Party τ) (s : τ),
        ((c.take q .connect s).1.outcome.isOk = true ↔ q.Admits s c) ∧
        (c.take q .connect s).1.after.isConnected = (c.take q .connect s).1.outcome.isOk) := by
  have hfresh : c₀.isConnected = false := (ofKind_fresh made).isConnected
  refine ⟨play_actions c₀ s₀ actions, ?_, play_lawful c₀ s₀ actions, fun h τ q s => ⟨?_, ?_⟩⟩
  · simp [play_isConnected, hfresh]
  · simpa [take] using connectTo_isOk h s
  · simpa [take] using (connectTo_unconnected (p := q) h s).2

/-- A broker that starts late: it refuses the first connection, and it has no channels. -/
def lateBroker : Party Nat where
  redis q n :=
    (match q with
      | .dial _ => .error "connection refused"
      | .lease => .error "connection refused"
      | .call _ => .error "connection refused", n + 1)
  amqp q := fun (link, n) =>
    (match q with
      | .dial _ => if n = 0 then .error "connection refused" else .ok ()
      | .lease _ => .ok ()
      | .call _ => .error "no channels"
      | .clock => n
      | .sleep _ => (), link, n + 1)

/-- The second connect succeeds, the third says nothing, and a publication that fails leaves the
connector connected until it is closed. -/
theorem life_cycle_late :
    let c₀ : Connector := native { host := "rabbit" } none
    let course := c₀.play lateBroker 0
      [.fetch ⟨"a"⟩ true, .connect, .connect, .connect, .publish "celery" [] .json]
    ofKind [] c₀.descriptor .native = .ok c₀ ∧
      course.1.map (·.outcome.isOk) = [false, false, true, true, false] ∧
      course.1.map (·.said.length) = [0, 1, 1, 0, 2] ∧
      course.2.1.isConnected = true ∧ Connected course.1 := by
  intro c₀ course
  have hmade : ofKind [] c₀.descriptor .native = .ok c₀ := rfl
  -- The course is run once, to see that it ends connected; the rest is the general theorem.
  have hlife : course.2.1.isConnected = true ↔ Connected course.1 :=
    (life_cycle hmade lateBroker 0 _).2.1
  have hconnected : course.2.1.isConnected = true := by decide +kernel
  exact ⟨hmade, by decide +kernel, by decide +kernel, hconnected, hlife.1 hconnected⟩

end Connector
end TaskQueue
