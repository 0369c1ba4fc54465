import TaskQueue.Transport.Basic

/-!
# `TaskQueue.Transport.Script`: a broker that follows a script

A script says in advance what each call will come to, one list of outcomes for each kind of
call. All connectors share it. An outcome may let time pass first. When a list is used up, the
calls succeed: publications are accepted, and fetches find nothing. Every call is logged.

A connector that is connected does not connect again, and closing always disconnects it. The script
is followed whatever source a connector is asked from; `Transport.beside` tells the sources apart.
-/

set_option autoImplicit false

namespace TaskQueue

namespace Script

/-- What a call comes to, and after how many nanoseconds. -/
structure Outcome (α : Type) where
  delay : Nat
  result : Except ConnectorError α
deriving Repr

/-- A call that was made. -/
inductive Call where
  | create (host : String)
  | connect (host : String)
  | publish (routingKey : String) (body : Bytes) (properties : PublishProperties)
  | fetch (id : TaskId) (remove : Bool)
  | close (host : String)
deriving DecidableEq, Repr

/-- The script, as far as it is not used up, with the log of the calls. -/
structure Broker where
  kind : BackendKind := .redis
  creates : List (Option Error) := []
  connects : List (Outcome Unit) := []
  publishes : List (Outcome Bool) := []
  fetches : List (Outcome (Option ResultMessage)) := []
  closes : List (Outcome Unit) := []
  log : List Call := []
deriving Repr

namespace Broker

/-- Logs a call. -/
def record (b : Broker) (c : Call) : Broker := { b with log := b.log ++ [c] }

/-- Adds an outcome for a fetch. -/
def addFetch (b : Broker) (o : Outcome (Option ResultMessage)) : Broker :=
  { b with fetches := b.fetches ++ [o] }

end Broker

/-- A connector that follows the script. -/
structure Connector where
  kind : BackendKind
  descriptor : Descriptor
  connected : Bool
deriving Repr

/-- The next outcome of a list, which is `default` when there is none, and the list after it. -/
def take {α : Type} (default : α) : List (Outcome α) → Outcome α × List (Outcome α)
  | [] => (⟨0, .ok default⟩, [])
  | o :: rest => (o, rest)

/-- Opens a connector. -/
def create (d : Descriptor) (w : World Broker) : Except Error Connector × World Broker :=
  let w := w.setBroker (w.broker.record (.create d.host))
  let made : Connector := ⟨w.broker.kind, d, false⟩
  match w.broker.creates with
  | [] => (.ok made, w)
  | none :: rest => (.ok made, w.setBroker { w.broker with creates := rest })
  | some e :: rest => (.error e, w.setBroker { w.broker with creates := rest })

/-- Connects a connector. -/
def connect (c : Connector) (w : World Broker) :
    Except ConnectorError Unit × Connector × World Broker :=
  if c.connected then (.ok (), c, w)
  else
    let (o, rest) := take () w.broker.connects
    let b := { w.broker.record (.connect c.descriptor.host) with connects := rest }
    let w := (w.setBroker b).sleep o.delay
    match o.result with
    | .ok () => (.ok (), { c with connected := true }, w)
    | .error e => (.error e, c, w)

/-- Connectors that follow the script, whatever source they are asked from. -/
def transport : Transport Connector Broker where
  create _ d w := create d w
  kind c := c.kind
  descriptor c := c.descriptor
  isConnected c := c.connected
  connect := connect
  publish c routingKey body properties w :=
    let (o, rest) := take true w.broker.publishes
    let b := { w.broker.record (.publish routingKey body properties) with publishes := rest }
    (o.result, c, (w.setBroker b).sleep o.delay)
  fetch c id remove w :=
    let (o, rest) := take none w.broker.fetches
    let b := { w.broker.record (.fetch id remove) with fetches := rest }
    (o.result, c, (w.setBroker b).sleep o.delay)
  close c w :=
    let (o, rest) := take () w.broker.closes
    let b := { w.broker.record (.close c.descriptor.host) with closes := rest }
    (o.result, { c with connected := false }, (w.setBroker b).sleep o.delay)

end Script
end TaskQueue
