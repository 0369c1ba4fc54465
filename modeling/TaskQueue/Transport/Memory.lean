import TaskQueue.Transport.Basic

/-!
# `TaskQueue.Transport.Memory`: a broker in memory

The broker keeps what was published and the results that were stored, one per task. A result
may stay hidden for a number of fetches. The broker can be told to refuse all publications. It
counts the connects and the fetches, and notes for which hosts connectors were opened.

Any number of connectors share the broker. They never fail, and they take no time. The broker serves
every source: a connector from the registry leads to it like one from the transport itself. Where
the registry is to lead to the network instead, the transport stands in `Transport.beside`. For a
session whose handles all name the given transport this is the same (`Session.run_beside`).
-/

set_option autoImplicit false

namespace TaskQueue

namespace Memory

/-- An envelope that was published. -/
structure Published where
  exchange : String
  routingKey : String
  body : Bytes
  properties : PublishProperties
deriving DecidableEq, Repr

/-- A result that was stored: the message, and the number of fetches that do not see it yet. -/
structure Stored where
  message : ResultMessage
  hiddenFor : Nat
deriving DecidableEq, Repr

/-- The results by task. -/
abbrev Results := List (TaskId × Stored)

/-- Stores the result of a task in place of an earlier one. -/
def Results.put (id : TaskId) (s : Stored) : Results → Results
  | [] => [(id, s)]
  | (i, t) :: rest => if i = id then (id, s) :: rest else (i, t) :: Results.put id s rest

/-- The result of a task. -/
def Results.get? (id : TaskId) : Results → Option Stored
  | [] => none
  | (i, s) :: rest => if i = id then some s else Results.get? id rest

/-- The results without that of a task. -/
def Results.remove (id : TaskId) (rs : Results) : Results := rs.filter fun r => r.1 != id

/-- The broker. -/
structure Broker where
  published : List Published := []
  results : Results := []
  refusing : Bool := false
  connects : Nat := 0
  fetches : Nat := 0
  openedFor : List String := []
deriving Repr

namespace Broker

/-- Stores a result that shows after `hiddenFor` fetches. -/
def put (b : Broker) (id : TaskId) (message : ResultMessage) (hiddenFor : Nat) : Broker :=
  { b with results := b.results.put id ⟨message, hiddenFor⟩ }

/-- Refuses all publications from now on. -/
def refuse (b : Broker) : Broker := { b with refusing := true }

/-- Whether a result is stored. -/
def hasResult (b : Broker) (id : TaskId) : Bool := (b.results.get? id).isSome

/-- Looks for a result. -/
def fetch (b : Broker) (id : TaskId) (remove : Bool) : Option ResultMessage × Broker :=
  let b := { b with fetches := b.fetches + 1 }
  match b.results.get? id with
  | none => (none, b)
  | some s =>
    match s.hiddenFor with
    -- This fetch is one of those that do not see it.
    | n + 1 => (none, { b with results := b.results.put id { s with hiddenFor := n } })
    | 0 =>
      (some s.message, if remove then { b with results := b.results.remove id } else b)

/-- Takes an envelope, unless it refuses it. -/
def publish (b : Broker) (p : Published) : Bool × Broker :=
  if b.refusing then (false, b) else (true, { b with published := b.published ++ [p] })

end Broker

/-- A connector to the broker. -/
structure Connector where
  descriptor : Descriptor
  connected : Bool
deriving Repr

/-- Connectors to the broker, whatever source they are asked from. -/
def transport : Transport Connector Broker where
  create _ d w :=
    (.ok ⟨d, false⟩, w.setBroker { w.broker with openedFor := w.broker.openedFor ++ [d.host] })
  kind _ := .amqp
  descriptor c := c.descriptor
  isConnected c := c.connected
  connect c w :=
    if c.connected then (.ok (), c, w)
    else
      (.ok (), { c with connected := true },
        w.setBroker { w.broker with connects := w.broker.connects + 1 })
  publish c routingKey body properties w :=
    let (accepted, b) := w.broker.publish ⟨c.descriptor.exchange, routingKey, body, properties⟩
    (.ok accepted, c, w.setBroker b)
  fetch c id remove w :=
    let (found, b) := w.broker.fetch id remove
    (.ok found, c, w.setBroker b)
  close c w := (.ok (), { c with connected := false }, w)

end Memory
end TaskQueue
