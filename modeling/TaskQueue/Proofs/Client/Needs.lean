import TaskQueue.Proofs.Client.Phases
import TaskQueue.Proofs.Client.Stages
import TaskQueue.Proofs.Session.Submissions

/-!
# `TaskQueue.Proofs.Client.Needs`: what clients and handles need of the broker

Over the broker in memory (`Memory.transport`) it can be counted which connectors are opened and
how often one is connected. A client opens two connectors when it is made. What is done with it
needs one of the two, or none (`ClientAct.needsBroker`, `ClientAct.needsBackend`), and a connector
that is needed is connected if it is not (`Client.use`). A handle needs a connector when it is
polled without a body, and opens one if it has none (`Handle.after_memory`).
-/

set_option autoImplicit false

namespace TaskQueue

open Memory (Broker)

namespace Session

variable {β : Type}

/-- The thing needs the connector to the broker of tasks: it connects it, or it posts a task of
which the envelope can be built. -/
def ClientAct.needsBroker (w : World β) : ClientAct → Bool
  | .connect => true
  | .post _ task (.ok arguments) o _ =>
    (Envelope.build w.freshId.2.now w.freshId.1 task arguments o).isOk
  | _ => false

/-- The thing needs the connector to the backend of results. -/
def ClientAct.needsBackend : ClientAct → Bool
  | .fetchMessage .. => true
  | _ => false

instance : DecidablePred HandleAct.Polls := fun a =>
  match a with
  | .isReady | .isSuccess | .failed | .resultIfReady | .get .. => isTrue trivial
  | .status | .result | .traceback | .state | .info | .forget | .revoke | .close | .debug
  | .serialize => isFalse id

/-- The thing only reads what the handle knows. -/
def HandleAct.Reads : HandleAct → Prop
  | .status | .result | .traceback | .state | .info | .forget | .revoke | .debug | .serialize =>
    True
  | _ => False

end Session

/-- The hosts for which connectors were opened meanwhile, and the number of connects. -/
structure Memory.Spent (w v : World Broker) (hosts : List String) (connects : Nat) : Prop where
  opened : v.broker.openedFor = w.broker.openedFor ++ hosts
  connected : v.broker.connects = w.broker.connects + connects

open Memory (Spent)

namespace Memory

/-- If the broker did not change, nothing was spent. -/
theorem Spent.nothing {w v : World Broker} (h : v.broker = w.broker) : Spent w v [] 0 :=
  ⟨by rw [h, List.append_nil], by rw [h, Nat.add_zero]⟩

/-- What is counted is up to the brokers of the two worlds. -/
theorem Spent.congr {w v w' v' : World Broker} {hosts : List String} {n : Nat}
    (h : Spent w v hosts n) (hw : w'.broker = w.broker) (hv : v'.broker = v.broker) :
    Spent w' v' hosts n :=
  ⟨by rw [hv, hw, h.opened], by rw [hv, hw, h.connected]⟩

/-- What is spent in two spans of time adds up. -/
theorem Spent.trans {w v u : World Broker} {hs hs' : List String} {n n' : Nat}
    (a : Spent w v hs n) (b : Spent v u hs' n') : Spent w u (hs ++ hs') (n + n') :=
  ⟨by rw [b.opened, a.opened, List.append_assoc], by rw [b.connected, a.connected, Nat.add_assoc]⟩

/-- The broker forgets no connector that was opened and no connection that was made. -/
theorem Spent.grows {w v : World Broker} {hosts : List String} {n : Nat}
    (h : Spent w v hosts n) : w.broker.openedFor <+: v.broker.openedFor ∧
      w.broker.connects ≤ v.broker.connects :=
  ⟨by rw [h.opened]; exact List.prefix_append _ _,
    by rw [h.connected]; exact Nat.le_add_right _ _⟩

/-- Connects the connector if it is needed. -/
def Connector.use (c : Connector) (needed : Bool) : Connector :=
  { c with connected := c.connected || needed }

/-- A connector that is needed and not connected costs one connect. -/
def Connector.cost (c : Connector) (needed : Bool) : Nat := (needed && !c.connected).toNat

/-- Connecting costs a connection, unless the connector has one. -/
theorem connect_spent (c : Connector) (w : World Broker) :
    ∃ v, transport.connect c w = (.ok (), c.use true, v) ∧ Spent w v [] (c.cost true) := by
  obtain ⟨d, connected⟩ := c
  cases connected with
  | true => exact ⟨w, rfl, .nothing rfl⟩
  | false => exact ⟨_, rfl, (List.append_nil _).symm, rfl⟩

/-- A fetch opens and connects nothing. -/
theorem fetch_spent (c : Connector) (id : TaskId) (remove : Bool) (w : World Broker) :
    ∃ found v, transport.fetch c id remove w = (.ok found, c, v) ∧ Spent w v [] 0 := by
  refine ⟨_, _, rfl, ?_⟩
  show Spent w (w.setBroker (w.broker.fetch id remove).2) [] 0
  simp only [Broker.fetch]
  split
  · exact ⟨(List.append_nil _).symm, rfl⟩
  · split
    · exact ⟨(List.append_nil _).symm, rfl⟩
    · cases remove <;> exact ⟨(List.append_nil _).symm, rfl⟩

/-- A publish call opens and connects nothing. -/
theorem publish_spent (c : Connector) (routingKey : String) (body : Bytes)
    (properties : PublishProperties) (w : World Broker) :
    ∃ accepted v, transport.publish c routingKey body properties w = (.ok accepted, c, v) ∧
      Spent w v [] 0 := by
  refine ⟨_, _, rfl, ?_⟩
  show Spent w (w.setBroker (w.broker.publish _).2) [] 0
  simp only [Broker.publish]
  split <;> exact ⟨(List.append_nil _).symm, rfl⟩

end Memory

/-! ## Clients -/

namespace Client

/-- The client after its connectors were needed or not. -/
def use (c : Client Memory.Connector) (broker backend : Bool) : Client Memory.Connector :=
  ⟨c.broker.use broker, c.backend.use backend⟩

/-- How many connects it takes. -/
def cost (c : Client Memory.Connector) (broker backend : Bool) : Nat :=
  c.broker.cost broker + c.backend.cost backend

/-- The client with both connectors closed. -/
def closed (c : Client Memory.Connector) : Client Memory.Connector :=
  ⟨{ c.broker with connected := false }, { c.backend with connected := false }⟩

/-- A client opens two connectors when it is made. -/
theorem create_memory (broker backend : Descriptor) (w : World Broker) :
    ∃ v, create Memory.transport broker backend w = (.ok ⟨⟨broker, false⟩, ⟨backend, false⟩⟩, v) ∧
      Spent w v [broker.host, backend.host] 0 :=
  ⟨_, rfl, by simp [World.note, World.setBroker], rfl⟩

end Client

namespace Memory.Connector

/-- A connector that is not needed stays as it is. -/
theorem use_false (c : Memory.Connector) : c.use false = c := by simp [use]

/-- What was paid for a connector is seen from whether it is connected. -/
theorem toNat_use (c : Memory.Connector) (needed : Bool) :
    (c.use needed).connected.toNat = c.connected.toNat + c.cost needed := by
  obtain ⟨d, connected⟩ := c
  cases connected <;> cases needed <;> rfl

end Memory.Connector

namespace Producer

/-- Publishing an envelope needs the connector. -/
theorem publish_spent (c : Memory.Connector) (e : Envelope) (routingKey : Option String)
    (w : World Broker) :
    (publish Memory.transport c e routingKey w).2.1 = c.use true ∧
      Spent w (publish Memory.transport c e routingKey w).2.2 [] (c.cost true) := by
  obtain ⟨v₁, hconnect, h₁⟩ := Memory.connect_spent c w
  obtain ⟨accepted, v₂, hpublish, h₂⟩ := Memory.publish_spent (c.use true) _ e.toBytes _
    (announced Memory.transport c e v₁)
  rw [publish_of_connect Memory.transport hconnect hpublish]
  -- Counting and logging cost nothing.
  exact ⟨rfl, h₁.trans (h₂.congr rfl (settle_still ..).1)⟩

/-- Submitting a task needs the connector if the envelope can be built, and else it does not. -/
theorem submit_spent (c : Memory.Connector) (task : String) (arguments : Json.Value)
    (o : TaskOptions) (w : World Broker) :
    let needed := (Envelope.build w.freshId.2.now w.freshId.1 task arguments o).isOk
    (submit Memory.transport c task arguments o w).2.1 = c.use needed ∧
      Spent w (submit Memory.transport c task arguments o w).2.2 [] (c.cost needed) := by
  intro needed
  rcases submit_cases Memory.transport c task arguments o w with
    ⟨fault, hb, heq⟩ | ⟨e, r, c₁, w₁, hb, hp, heq⟩
  -- Without an envelope there is nothing to publish, so no connection is needed.
  · have hneeded : needed = false := congrArg Except.isOk hb
    rw [heq, hneeded, Memory.Connector.use_false]
    exact ⟨rfl, .nothing rfl⟩
  · have hneeded : needed = true := congrArg Except.isOk hb
    obtain ⟨hconnector, hspent⟩ := publish_spent c e o.routingKey w.freshId.2
    rw [hp] at hconnector hspent
    rw [heq, hneeded]
    exact ⟨hconnector, hspent.congr rfl rfl⟩

end Producer

namespace Client

variable (c : Client Memory.Connector)

/-- Connecting a client needs the connector to the broker of tasks, and not the other one. -/
theorem connect_spent (w : World Broker) :
    (c.connect Memory.transport w).2.1 = c.use true false ∧
      Spent w (c.connect Memory.transport w).2.2 [] (c.cost true false) := by
  obtain ⟨v, hconnect, hspent⟩ := Memory.connect_spent c.broker w
  have hsame : c.connect Memory.transport w = (.ok (), c.use true false, v) := by
    simp only [connect, hconnect, use, Memory.Connector.use_false, Except.mapError]
  rw [hsame]
  exact ⟨rfl, hspent⟩

/-- Fetching a message needs the connector to the backend, and not the other one. -/
theorem fetchMessage_spent (taskName : String) (id : TaskId) (remove : Bool) (w : World Broker) :
    (c.fetchMessage Memory.transport taskName id remove w).2.1 = c.use false true ∧
      Spent w (c.fetchMessage Memory.transport taskName id remove w).2.2 []
        (c.cost false true) := by
  obtain ⟨w₁, hconnect, h₁⟩ := Memory.connect_spent c.backend w
  obtain ⟨found, w₂, hfetch, h₂⟩ := Memory.fetch_spent (c.backend.use true) id remove w₁
  have hcost : c.cost false true = c.backend.cost true := Nat.zero_add _
  rw [fetchMessage_of_fetch Memory.transport hconnect hfetch, hcost, use,
    Memory.Connector.use_false]
  exact ⟨rfl, (h₁.trans h₂).congr rfl rfl⟩

/-- A handle that is handed over has no connector yet, and is for the backend of results. -/
theorem post_spent (handle task : String) (arguments : Except String Json.Value)
    (o : TaskOptions) (wantResult : Bool) (w : World Broker) :
    let needed := (Session.ClientAct.post handle task arguments o wantResult).needsBroker w
    let posted := c.post Memory.transport task arguments o wantResult w
    posted.2.1 = c.use needed false ∧ Spent w posted.2.2 [] (c.cost needed false) ∧
      ∀ h, posted.1 = .ok (.result h) →
        h.descriptor = c.backend.descriptor ∧ h.connector = none := by
  intro needed posted
  rcases post_cases Memory.transport c task arguments o wantResult w with
    ⟨reason, rfl, heq⟩ | ⟨args, r, b, v, rfl, hs, heq⟩
  -- That the arguments have no JSON form is found out before a connector is needed.
  · have hneeded : needed = false := rfl
    have hposted : posted = (.error (unrepresentable reason), c, w) := heq
    have hcost : c.cost false false = 0 := rfl
    rw [hposted, hneeded, use, Memory.Connector.use_false, Memory.Connector.use_false, hcost]
    have hspent : Spent w w [] 0 := .nothing rfl
    refine ⟨rfl, hspent, fun h hh => ?_⟩
    cases hh
  · obtain ⟨hconnector, hspent⟩ := Producer.submit_spent c.broker task args o w
    rw [hs] at hconnector hspent
    have hposted : posted =
        (r.map (c.handedOver Memory.transport wantResult), { c with broker := b }, v) := heq
    have hneeded : b = c.broker.use needed := hconnector
    rw [hposted, hneeded, use, Memory.Connector.use_false]
    refine ⟨rfl, hspent, fun h hh => ?_⟩
    cases r with
    | error e => cases hh
    | ok e =>
      cases wantResult with
      | false => cases hh
      | true =>
        cases hh
        exact ⟨rfl, rfl⟩

end Client

/-! ## Handles -/

namespace Handle

/-- What opening a connector comes to: the handle has one, or one is made for its host. -/
theorem opened_memory (h : Handle Memory.Connector) (w : World Broker) :
    ∃ c w₁, h.opened Memory.transport w = (.ok c, w₁) ∧
      w₁.broker.openedFor =
        w.broker.openedFor ++ if h.connector.isNone then [h.descriptor.host] else [] := by
  unfold opened
  cases h.connector with
  | some c => exact ⟨c, w, rfl, (List.append_nil _).symm⟩
  | none => exact ⟨_, _, rfl, rfl⟩

/-- A look at a result that is not known needs a connector, and opens one if there is none. -/
theorem ask_memory {h : Handle Memory.Connector} (hb : h.body = none) (w : World Broker) :
    (h.ask Memory.transport w).2.1.connector.isSome = true ∧
    (h.ask Memory.transport w).2.2.broker.openedFor =
      w.broker.openedFor ++ if h.connector.isNone then [h.descriptor.host] else [] := by
  obtain ⟨c, v₁, hopened, h₁⟩ := h.opened_memory w
  obtain ⟨v₂, hconnect, h₂⟩ := Memory.connect_spent c v₁
  obtain ⟨found, v₃, hfetch, h₃⟩ :=
    Memory.fetch_spent (c.use true) h.id h.descriptor.removesResults v₂
  obtain ⟨-, hhandle, hbroker, -⟩ := receive_verdict { h with connector := some (c.use true) } hb
    (Memory.transport.kind (c.use true)).name (.ok found) v₃
  rw [ask_of_fetch hopened hconnect hfetch, hhandle, hbroker, h₃.opened, h₂.opened, h₁,
    List.append_nil, List.append_nil]
  exact ⟨rfl, rfl⟩

/-- A look needs a connector unless the result is known. -/
theorem isReady_memory (h : Handle Memory.Connector) (w : World Broker) :
    ((h.isReady Memory.transport w).2.1.connector.isSome =
      (h.connector.isSome || h.body.isNone)) ∧
    (h.isReady Memory.transport w).2.2.broker.openedFor = w.broker.openedFor ++
      if h.body.isNone && h.connector.isNone then [h.descriptor.host] else [] := by
  cases hb : h.body with
  | some b =>
    rw [isReady_of_body _ hb]
    simp
  | none =>
    rw [isReady_of_none _ hb]
    simpa using ask_memory hb w

/-- A look that finds nothing leaves the handle with a connector. -/
theorem isReady_equips {h h' : Handle Memory.Connector} {w w' : World Broker}
    (hr : h.isReady Memory.transport w = (.ok false, h', w')) :
    h'.connector.isSome = true ∧ (h.connector.isSome || h.body.isNone) = true := by
  have hconnector := (isReady_memory h w).1
  cases hb : h.body with
  | some b =>
    rw [isReady_of_body _ hb] at hr
    cases hr
  | none =>
    rw [hr, hb, Option.isNone_none, Bool.or_true] at hconnector
    exact ⟨hconnector, Bool.or_true _⟩

/-- A wait needs a connector under the same conditions as its first look. -/
theorem poll_memory (limit interval : Duration) (deadline : Option Nat) (tries : Nat)
    (h : Handle Memory.Connector) (w : World Broker) :
    (poll Memory.transport limit interval deadline (tries + 1) h w).2.1.connector.isSome =
      (h.connector.isSome || h.body.isNone) ∧
    (poll Memory.transport limit interval deadline (tries + 1) h w).2.2.broker.openedFor =
      w.broker.openedFor ++
        if h.body.isNone && h.connector.isNone then [h.descriptor.host] else [] := by
  -- Induction on the looks that are left. Only the first one can open a connector.
  induction tries generalizing h w with
  | zero =>
    have hlook := isReady_memory h w
    obtain ⟨v, hbroker, -, hends | ⟨-, hgoes⟩⟩ :=
      poll_round Memory.transport limit interval deadline 0 h w
    · rw [hends, hbroker]
      exact hlook
    · rw [hgoes, poll, hbroker]
      exact hlook
  | succ tries ih =>
    have hlook := isReady_memory h w
    obtain ⟨v, hbroker, -, hends | ⟨hfalse, hgoes⟩⟩ :=
      poll_round Memory.transport limit interval deadline (tries + 1) h w
    · rw [hends, hbroker]
      exact hlook
    · -- The later looks find the connector of the first one.
      obtain ⟨hequipped, hneeded⟩ := isReady_equips (Prod.ext hfalse rfl)
      obtain ⟨hlater, hquiet⟩ := ih (h.isReady Memory.transport w).2.1 v
      rw [hgoes, hlater, hquiet, hequipped, hneeded, Option.isNone_eq_false_iff.2 hequipped,
        hbroker]
      exact ⟨rfl, by simpa using hlook.2⟩

/-- Whatever is done with a handle: it needs a connector if it is polled and its result is not
known, and then it opens one if it has none. After it was closed it has none. -/
theorem after_memory (h : Handle Memory.Connector) (w : World Broker) (a : Session.HandleAct) :
    ((h.after Memory.transport w a).1.connector.isSome = match a with
      | .close => false
      | a => h.connector.isSome || decide a.Polls && h.body.isNone) ∧
    (h.after Memory.transport w a).2.broker.openedFor = w.broker.openedFor ++
      if decide a.Polls && h.body.isNone && h.connector.isNone then [h.descriptor.host]
      else [] := by
  cases a with
  | isReady | isSuccess | failed | resultIfReady => exact isReady_memory h w
  -- A wait looks at least once, which is where it needs its connector.
  | get limit interval =>
    obtain ⟨tries, htries⟩ := Nat.exists_eq_add_one.2 (Session.tries_pos w.clock limit interval)
    rw [after, get, htries]
    exact poll_memory limit interval _ tries h w
  | close =>
    rw [after, close]
    cases hc : h.connector with
    | none => exact ⟨by rw [hc]; rfl, (List.append_nil _).symm⟩
    | some c => exact ⟨rfl, (List.append_nil _).symm⟩
  | status | result | traceback | state | info | forget | revoke | debug | serialize =>
    exact ⟨(Bool.or_false _).symm, (List.append_nil _).symm⟩

/-- What only reads leaves the broker alone. -/
theorem after_reads (h : Handle Memory.Connector) (w : World Broker) {a : Session.HandleAct}
    (ha : a.Reads) : (h.after Memory.transport w a).2.broker = w.broker := by
  cases a with
  | isReady | isSuccess | failed | resultIfReady | get | close => exact ha.elim
  | status | result | traceback | state | info | forget | revoke | debug | serialize => rfl

end Handle

end TaskQueue
