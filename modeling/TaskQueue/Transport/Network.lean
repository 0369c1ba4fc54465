import TaskQueue.Amqp.Broker
import TaskQueue.Amqp.Direct
import TaskQueue.Amqp.Native
import TaskQueue.Connection.Selection
import TaskQueue.Redis.Connector
import TaskQueue.Redis.Server
import TaskQueue.Transport.Basic

/-!
# `TaskQueue.Transport.Network`: brokers on the network

The network has a Redis server and an AMQP broker, and the files that certificates are read
from. `Connector` is a connector of one of the three kinds. The registry chooses the kind by
the descriptor; nothing is dialled before the connector is connected.

Each operation holds the dialogue of its connector with the server. What the server makes of it
shows in the network afterwards.
-/

set_option autoImplicit false

namespace TaskQueue

/-- What can be reached. -/
structure Network where
  redis : Redis.Server := { listening := false }
  amqp : Amqp.Broker := { listening := false }
  files : Files := []
deriving Repr

namespace Network

/-- Whether something listens at an address. -/
def isReachable (n : Network) (address : String) : Bool :=
  (n.redis.listening && address == Redis.Server.host ++ ":" ++ toString Redis.Server.port) ||
    (n.amqp.listening && address == Amqp.Broker.host ++ ":" ++ toString Amqp.Broker.port)

/-- Holds a dialogue with the Redis server. -/
def talkToRedis {α : Type} (t : Redis.Talk α) (w : World Network) :
    Except ConnectorError α × World Network :=
  let (r, events, server) := t.run.run Redis.Server.answer w.broker.redis
  (r, (w.setBroker { w.broker with redis := server }).noteAll events)

/-- Holds a dialogue with the AMQP broker over a connection. -/
def talkToAmqp {α : Type} (t : Amqp.Try α) (link : Amqp.Link) (w : World Network) :
    Except ConnectorError α × Amqp.Link × World Network :=
  let (r, events, peer) := t.run.run Amqp.Peer.answer ⟨w.broker.amqp, link, w.clock⟩
  -- The methods of a dialogue take time.
  let w := { w with broker := { w.broker with amqp := peer.broker }, clock := peer.clock }
  (r, peer.link, w.noteAll events)

end Network

/-- A connector to a broker on the network. The native one has a connection if it is
connected. -/
inductive Connector where
  | redis (c : Redis.Connector)
  | native (d : Descriptor) (link : Option Amqp.Link)
  | direct (c : Amqp.Direct)
deriving Repr

namespace Connector

/-- The kind of the connector. -/
def kind : Connector → BackendKind
  | redis _ => .redis
  | native .. => .native
  | direct c => c.kind

/-- The descriptor that the connector was made for. -/
def descriptor : Connector → Descriptor
  | redis c => c.descriptor
  | native d _ => d
  | direct c => c.descriptor

/-- Whether the connector is connected. -/
def isConnected : Connector → Bool
  | redis c => c.connected
  | native _ link => link.isSome
  | direct c => c.connected

/-- Makes a connector. Only the options of a TLS connection can be at fault. -/
def ofKind (files : Files) (d : Descriptor) : BackendKind → Except Error Connector
  | .redis => .ok (.redis ⟨d, false⟩)
  | .native => .ok (.native d none)
  | .amqp => .ok (.direct (.plain d))
  | .amqpTls => (Amqp.Direct.secure d files).map direct

/-- What is logged when a connector is made. -/
def makingEvents (files : Files) (d : Descriptor) : BackendKind → List Event
  | .amqpTls => Amqp.Direct.secureEvents d files
  | _ => []

/-- Makes a connector of the kind that a descriptor asks for. -/
def ofDescriptor (c : Capabilities) (files : Files) (d : Descriptor) : Except Error Connector :=
  match c.resolve d with
  | .error e => .error e
  | .ok kind => ofKind files d kind

/-- What is logged when the connector that a descriptor asks for is made. -/
def openingEvents (c : Capabilities) (files : Files) (d : Descriptor) : List Event :=
  c.resolutionEvents d ++
    match c.resolve d with
    | .error _ => []
    | .ok kind => makingEvents files d kind

/-- Makes a connector on the network. -/
def create (s : Source) (d : Descriptor) (w : World Network) :
    Except Error Connector × World Network :=
  match s with
  | .kind k => (ofKind w.broker.files d k, w.noteAll (makingEvents w.broker.files d k))
  | _ => (ofDescriptor .all w.broker.files d, w.noteAll (openingEvents .all w.broker.files d))

/-- Connects a connector. -/
def connect : Connector → World Network →
    Except ConnectorError Unit × Connector × World Network
  | redis c, w =>
    let (r, w) := Network.talkToRedis c.connect w
    (r, redis { c with connected := c.connected || r.isOk }, w)
  -- Whether the connection still stands shows when it is used.
  | native d (some link), w => (.ok (), native d (some link), w)
  | native d none, w =>
    let (r, link, w) := Network.talkToAmqp (Amqp.Native.connect d) {} w
    (r, native d (if r.isOk then some link else none), w)
  | direct c, w =>
    let (r, _, w) := Network.talkToAmqp c.connect {} w
    (r, direct { c with connected := c.connected || r.isOk }, w)

/-- Publishes an envelope. -/
def publish (c : Connector) (routingKey : String) (envelope : Bytes)
    (properties : PublishProperties) (w : World Network) :
    Except ConnectorError Bool × Connector × World Network :=
  match c with
  | redis c =>
    let (r, w) := Network.talkToRedis (c.publish routingKey envelope properties) w
    (r, redis c, w)
  | native d none => (.error .notConnected, native d none, w)
  | native d (some link) =>
    let (r, link, w) :=
      Network.talkToAmqp (Amqp.Native.publish d routingKey envelope properties) link w
    (r, native d (some link), w)
  -- The connection begins and ends with the operation, so it is not kept.
  | direct c =>
    let (r, _, w) := Network.talkToAmqp (c.publish routingKey envelope properties) {} w
    (r, direct c, w)

/-- Looks for a result. -/
def fetch (c : Connector) (id : TaskId) (remove : Bool) (w : World Network) :
    Except ConnectorError (Option ResultMessage) × Connector × World Network :=
  match c with
  | redis c =>
    let (r, w) := Network.talkToRedis (c.fetch id remove) w
    (r, redis c, w)
  | native d none => (.error .notConnected, native d none, w)
  | native d (some link) =>
    let (r, link, w) := Network.talkToAmqp (Amqp.Native.fetch d id remove) link w
    (r, native d (some link), w)
  | direct c =>
    let (r, _, w) := Network.talkToAmqp (c.fetch id remove) {} w
    (r, direct c, w)

/-- Lets go of the connection. -/
def close : Connector → Connector
  | redis c => redis { c with connected := false }
  | native d _ => native d none
  | direct c => direct { c with connected := false }

end Connector

/-- Connectors to brokers on the network. -/
def Network.transport : Transport Connector Network where
  create := Connector.create
  kind := Connector.kind
  descriptor := Connector.descriptor
  isConnected := Connector.isConnected
  connect := Connector.connect
  publish := Connector.publish
  fetch := Connector.fetch
  close c w := (.ok (), c.close, w)

end TaskQueue
