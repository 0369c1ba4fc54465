import TaskQueue.Client.Basic

/-!
# `TaskQueue.Session`: a run of a program that submits tasks

A program makes clients, submits tasks, and works with the handles it gets. It may also work
with connectors that belong to no client. `Session` is the state of such a program together with
its world, and `Step` is one thing that it does. Everything it works with has a name; a step
that needs something which was never made is answered by `Answer.missing`.

Steps of the kind `outside` are not the program's. They change the broker, as a worker does that
stores a result.
-/

set_option autoImplicit false

namespace TaskQueue

/-- Things with names. -/
abbrev Named (α : Type) := List (String × α)

namespace Named

/-- The thing with a name. -/
def get? {α : Type} (name : String) : Named α → Option α
  | [] => none
  | (n, a) :: rest => if n = name then some a else get? name rest

/-- Gives a name to a thing; whatever had it before is forgotten. -/
def set {α : Type} (name : String) (a : α) : Named α → Named α
  | [] => [(name, a)]
  | (n, b) :: rest => if n = name then (name, a) :: rest else (n, b) :: set name a rest

/-- What was given a name has it. -/
@[simp] theorem get?_set_self {α : Type} (name : String) (a : α) (things : Named α) :
    get? name (set name a things) = some a := by
  induction things with
  | nil => simp [set, get?]
  | cons thing rest ih =>
    by_cases h : thing.1 = name
    · simp [set, get?, h]
    · simp [set, get?, h, ih]

/-- Giving a name to a thing changes no other name. -/
theorem get?_set_of_ne {α : Type} {name other : String} (hne : other ≠ name) (a : α)
    (things : Named α) : get? other (set name a things) = get? other things := by
  induction things with
  | nil => simp [set, get?, hne.symm]
  | cons thing rest ih =>
    by_cases h : thing.1 = name
    · simp [set, get?, h, hne.symm]
    · simp [set, get?, h, ih]

end Named

/-- A program and its world. `saved` is the text of the handle that was written last. -/
structure Session (κ β : Type) where
  world : World β
  clients : Named (Client κ) := []
  handles : Named (Handle κ) := []
  connectors : Named κ := []
  saved : String := ""
deriving Repr

namespace Session

/-! ## Steps and answers -/

/-- Where a handle takes its connectors from: from the transport of the session, from one
connector that is opened at once, or from the registry. -/
inductive Via where
  | transport
  | connector
  | registry
deriving DecidableEq, Repr

/-- The source of a handle's connectors. -/
def Via.source : Via → Source
  | transport => .given
  | _ => .registry

/-- The task that a step is about. -/
inductive Target where
  | task (id : TaskId)
  | handle (name : String)
deriving DecidableEq, Repr

/-- What is done with a handle. -/
inductive HandleAct where
  | isReady
  | isSuccess
  | failed
  | status
  | result
  | traceback
  | state
  | info
  | resultIfReady
  | get (limit interval : Duration)
  | forget
  | revoke
  | close
  | debug
  | serialize
deriving Repr

/-- What is done with a client. -/
inductive ClientAct where
  | connect
  | close
  | debug
  | fetchMessage (taskName : String) (target : Target) (remove : Bool)
  | post (handle task : String) (arguments : Except String Json.Value) (o : TaskOptions)
      (wantResult : Bool)
deriving Repr

/-- What is done with a connector. -/
inductive ConnectorAct where
  | state
  | connect
  | publish (routingKey : String) (body : Bytes) (properties : PublishProperties)
  | fetch (target : Target) (remove : Bool)
  | close
  | submit (task : String) (arguments : Json.Value) (o : TaskOptions)
  | publishEnvelope (envelope : Bytes) (routingKey : Option String)
deriving Repr

/-- One step, where `ε` is what can happen outside of the program. -/
inductive Step (ε : Type) where
  | outside (e : ε)
  | pause (d : Duration)
  | newClient (name : String) (broker backend : Descriptor)
  | newHandle (name : String) (target : Target) (taskName arguments : String)
      (descriptor : Descriptor) (via : Via)
  | restore (name : String) (text : Option String) (via : Via)
  | newConnector (name : String) (descriptor : Descriptor) (source : Source)
  | client (name : String) (act : ClientAct)
  | handle (name : String) (act : HandleAct)
  | connector (name : String) (act : ConnectorAct)
deriving Repr

/-- What a step can lack. -/
inductive Missing where
  | client
  | handle
  | connector
deriving DecidableEq, Repr

/-- What comes of a step. -/
inductive Answer where
  | done
  | flag (b : Bool)
  | text (s : String)
  | optionalText (s : Option String)
  | value (v : Json)
  | optionalValue (v : Option Json)
  | state (s : TaskState)
  | info (id : TaskId) (taskName host : String)
  | message (m : Option ResultMessage)
  | submitted (withHandle : Bool) (id : TaskId)
  | client (debug brokerHost backendHost : String)
  | connector (kind : BackendKind) (connected : Bool)
  | envelope (e : Envelope)
  | failed (e : Error)
  | refused (e : ConnectorError)
  | unreadable (f : Fault)
  | unfinished
  | missing (what : Missing)
deriving Repr

/-- The answer for a result. -/
def Answer.ofExcept {α : Type} (f : α → Answer) : Except Error α → Answer
  | .ok a => f a
  | .error e => .failed e

/-- An answer reports a failure only if there is one. -/
theorem Answer.of_failed {α : Type} {f : α → Answer} (hf : ∀ a e, f a ≠ .failed e)
    {r : Except Error α} {e : Error} (h : ofExcept f r = .failed e) : r = .error e := by
  cases r with
  | ok a => exact absurd h (hf a e)
  | error e' => cases h; rfl

/-- The answer for the result of a connector. -/
def Answer.ofConnector {α : Type} (f : α → Answer) : Except ConnectorError α → Answer
  | .ok a => f a
  | .error e => .refused e

/-! ## Execution -/

section
variable {κ β ε : Type} (t : Transport κ β)

/-- How often a program asks for a result that need not come in time. -/
def patience : Nat := 1000000

/-- How often a program asks for a result: as often as fits into the time limit, at least. -/
def tries (now : Nat) (limit interval : Duration) : Nat :=
  match Handle.deadline? now limit with
  | some _ => patience + limit.nanoseconds / interval.nanoseconds
  | none => patience

/-- A program asks at least once. -/
theorem tries_pos (now : Nat) (limit interval : Duration) : 0 < tries now limit interval := by
  have hpatience : 0 < patience := by decide
  unfold tries
  split
  · exact Nat.add_pos_left hpatience _
  · exact hpatience

/-- The id of the task that a step is about; a handle that was never made has the empty one. -/
def targetId (s : Session κ β) : Target → TaskId
  | .task id => id
  | .handle name =>
    match s.handles.get? name with
    | some h => h.id
    | none => ⟨""⟩

/-- The session after something was done with a handle. -/
def withHandle (s : Session κ β) (name : String) (h : Handle κ) (w : World β) : Session κ β :=
  { s with handles := s.handles.set name h, world := w }

/-- The session after something was done with a client. -/
def withClient (s : Session κ β) (name : String) (c : Client κ) (w : World β) : Session κ β :=
  { s with clients := s.clients.set name c, world := w }

/-- The session after something was done with a connector. -/
def withConnector (s : Session κ β) (name : String) (c : κ) (w : World β) : Session κ β :=
  { s with connectors := s.connectors.set name c, world := w }

/-- Does something with a handle. -/
def actOnHandle (s : Session κ β) (name : String) (h : Handle κ) :
    HandleAct → Answer × Session κ β
  | .isReady =>
    let (r, h, w) := h.isReady t s.world
    (.ofExcept .flag r, s.withHandle name h w)
  | .isSuccess =>
    let (r, h, w) := h.isSuccess t s.world
    (.ofExcept .flag r, s.withHandle name h w)
  | .failed =>
    let (r, h, w) := h.failed t s.world
    (.ofExcept .flag r, s.withHandle name h w)
  | .status => (.ofExcept .text h.status, s)
  | .result => (.ofExcept .value h.result, s)
  | .traceback => (.ofExcept .optionalText h.traceback, s)
  | .state => (.state h.state, s)
  | .info => (.info h.id h.taskName h.descriptor.host, s)
  | .resultIfReady =>
    let (r, h, w) := h.resultIfReady t s.world
    (.ofExcept .optionalValue r, s.withHandle name h w)
  | .get limit interval =>
    let (r, h, w) := h.get t (tries s.world.clock limit interval) limit interval s.world
    match r with
    | some r => (.ofExcept .value r, s.withHandle name h w)
    | none => (.unfinished, s.withHandle name h w)
  | .forget => (.done, { s with world := h.forget s.world })
  | .revoke => (.done, { s with world := h.revoke s.world })
  | .close =>
    let (r, h, w) := h.close t s.world
    (.ofExcept (fun _ => .done) r, s.withHandle name h w)
  | .debug => (.text (h.debugText t), s)
  | .serialize => (.text h.serialized, { s with saved := h.serialized })

/-- Does something with a client. -/
def actOnClient (s : Session κ β) (name : String) (c : Client κ) :
    ClientAct → Answer × Session κ β
  | .connect =>
    let (r, c, w) := c.connect t s.world
    (.ofExcept (fun _ => .done) r, s.withClient name c w)
  | .close =>
    let (r, c, w) := c.close t s.world
    (.ofExcept (fun _ => .done) r, s.withClient name c w)
  | .debug =>
    (.client (c.debugText t) (t.descriptor c.broker).host (t.descriptor c.backend).host, s)
  | .fetchMessage taskName target remove =>
    let (r, c, w) := c.fetchMessage t taskName (s.targetId target) remove s.world
    (.ofExcept .message r, s.withClient name c w)
  | .post handle task arguments o wantResult =>
    match c.post t task arguments o wantResult s.world with
    | (.error e, c, w) => (.failed e, s.withClient name c w)
    | (.ok (.sent id), c, w) => (.submitted false id, s.withClient name c w)
    | (.ok (.result h), c, w) =>
      (.submitted true h.id, (s.withClient name c w).withHandle handle h w)

/-- Does something with a connector. -/
def actOnConnector (s : Session κ β) (name : String) (c : κ) :
    ConnectorAct → Answer × Session κ β
  | .state => (.connector (t.kind c) (t.isConnected c), s)
  | .connect =>
    let (r, c, w) := t.connect c s.world
    (.ofConnector (fun _ => .done) r, s.withConnector name c w)
  | .publish routingKey body properties =>
    let (r, c, w) := t.publish c routingKey body properties s.world
    (.ofConnector .flag r, s.withConnector name c w)
  | .fetch target remove =>
    let (r, c, w) := t.fetch c (s.targetId target) remove s.world
    (.ofConnector .message r, s.withConnector name c w)
  | .close =>
    let (r, c, w) := t.close c s.world
    (.ofConnector (fun _ => .done) r, s.withConnector name c w)
  | .submit task arguments o =>
    let (r, c, w) := Producer.submit t c task arguments o s.world
    (.ofExcept .envelope r, s.withConnector name c w)
  | .publishEnvelope envelope routingKey =>
    match Envelope.ofBytes envelope with
    | .error e => (.failed e, s)
    | .ok e =>
      let (r, c, w) := Producer.publish t c e routingKey s.world
      (.ofExcept (fun _ => .done) r, s.withConnector name c w)

/-- Opens the connector of a handle if it needs one at once, and keeps the handle. -/
def keepHandle (s : Session κ β) (name : String) (h : Handle κ) (via : Via) :
    Answer × Session κ β :=
  match via with
  | .connector =>
    match t.create .given h.descriptor s.world with
    | (.error e, w) => (.failed e, { s with world := w })
    | (.ok c, w) => (.done, s.withHandle name { h with connector := some c } w)
  | _ => (.done, s.withHandle name h s.world)

/-- Takes a step. `react` says what the things outside of the program do to the world. -/
def step (react : ε → World β → World β) (s : Session κ β) : Step ε → Answer × Session κ β
  | .outside e => (.done, { s with world := react e s.world })
  | .pause d => (.done, { s with world := s.world.sleep d.nanoseconds })
  | .newClient name broker backend =>
    match Client.create t broker backend s.world with
    | (.error e, w) => (.failed e, { s with world := w })
    | (.ok c, w) => (.text (c.debugText t), s.withClient name c w)
  | .newHandle name target taskName arguments descriptor via =>
    keepHandle t s name (.new (s.targetId target) taskName arguments descriptor via.source) via
  | .restore name text via =>
    match Handle.ofText via.source (text.getD s.saved) with
    | .error f => (.unreadable f, s)
    | .ok h => keepHandle t s name h via
  | .newConnector name descriptor source =>
    match t.create source descriptor s.world with
    | (.error e, w) => (.failed e, { s with world := w })
    | (.ok c, w) => (.connector (t.kind c) (t.isConnected c), s.withConnector name c w)
  | .client name act =>
    match s.clients.get? name with
    | some c => actOnClient t s name c act
    | none => (.missing .client, s)
  | .handle name act =>
    match s.handles.get? name with
    | some h => actOnHandle t s name h act
    | none => (.missing .handle, s)
  | .connector name act =>
    match s.connectors.get? name with
    | some c => actOnConnector t s name c act
    | none => (.missing .connector, s)

/-- Takes steps one after the other. -/
def run (react : ε → World β → World β) (s : Session κ β) :
    List (Step ε) → List Answer × Session κ β
  | [] => ([], s)
  | step :: rest =>
    let (answer, s) := s.step t react step
    let (answers, s) := run react s rest
    (answer :: answers, s)

end

end Session
end TaskQueue
