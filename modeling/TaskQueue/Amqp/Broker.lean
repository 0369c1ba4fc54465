import TaskQueue.Amqp.Method
import TaskQueue.Connection.Descriptor

/-!
# `TaskQueue.Amqp.Broker`: an AMQP broker

The broker keeps queues of results, in the order in which they were declared. Publications of
tasks are confirmed but go nowhere. It listens at one address, without TLS. Single methods can
be made to fail, and then the broker closes the channel, or the connection where there is no
channel yet. It can be told not to confirm publications, and it can be stopped. It logs every
method that it gets.

`Link` is the side of one client: its connection with its channel. A message that was taken
from a queue belongs to the channel until it is acknowledged or put back, and when the channel
ends, it goes back to the front of its queue.
-/

set_option autoImplicit false

namespace TaskQueue
namespace Amqp

/-- The queues with their messages. -/
abbrev Queues := List (String × List ResultMessage)

namespace Queues

/-- The messages of a queue. -/
def get? (queue : String) : Queues → Option (List ResultMessage)
  | [] => none
  | (q, ms) :: rest => if q = queue then some ms else get? queue rest

/-- Changes the messages of a queue, if it is there. -/
def modify (queue : String) (f : List ResultMessage → List ResultMessage) : Queues → Queues
  | [] => []
  | (q, ms) :: rest => if q = queue then (q, f ms) :: rest else (q, ms) :: modify queue f rest

/-- Makes sure that a queue is there. -/
def declare (queue : String) (qs : Queues) : Queues :=
  if (qs.get? queue).isSome then qs else qs ++ [(queue, [])]

/-- The queues without one. -/
def remove (queue : String) (qs : Queues) : Queues := qs.filter fun q => q.1 != queue

end Queues

/-- A message that was taken from a queue and is not settled. -/
structure Unsettled where
  queue : String
  delivery : Delivery
deriving DecidableEq, Repr

/-- An open channel. -/
structure Channel where
  lastTag : Nat := 0
  unsettled : List Unsettled := []
deriving DecidableEq, Repr

/-- The connection of a client, with its channel. -/
structure Link where
  isOpen : Bool := false
  channel : Option Channel := none
deriving DecidableEq, Repr

/-- The broker. -/
structure Broker where
  listening : Bool := true
  queues : Queues := []
  /-- Methods that fail; `unconfirmed` stands for publications that are not confirmed. -/
  failing : List String := []
  log : List Method := []
deriving Repr

namespace Broker

/-- Where the broker listens. -/
def host : String := "127.0.0.1"

/-- The port on which the broker listens. -/
def port : UInt16 := 5672

/-- Stands among the failing methods for publications that are not confirmed. -/
def unconfirmed : String := "nack"

/-- Appends a message to a queue, which is made if it is not there. -/
def put (b : Broker) (queue : String) (m : ResultMessage) : Broker :=
  { b with queues := (b.queues.declare queue).modify queue (· ++ [m]) }

/-- Makes a method fail, or no longer fail. -/
def setFailing (b : Broker) (name : String) (fails : Bool) : Broker :=
  let others := b.failing.filter (· != name)
  { b with failing := if fails then others ++ [name] else others }

/-- Ends all connections and takes no new ones. -/
def stop (b : Broker) : Broker := { b with listening := false }

/-- Whether a method fails. -/
def fails (b : Broker) (m : Method) : Bool := b.failing.contains m.name

/-- Logs a method. -/
def record (b : Broker) (m : Method) : Broker := { b with log := b.log ++ [m] }

/-- Puts a message back to the front of its queue. -/
def putBack (b : Broker) (u : Unsettled) : Broker :=
  { b with queues := b.queues.modify u.queue (u.delivery.message :: ·) }

/-- Puts back what a channel has not settled; what was taken first comes first again. -/
def putBackAll (b : Broker) (us : List Unsettled) : Broker := us.foldr (fun u b => b.putBack u) b

/-- The user name and password of a connection that brings none. -/
def guest : String := "guest"

/-- A credential, or that of a guest. -/
def orGuest (s : String) : String := if s.isEmpty then guest else s

/-- The methods with which a client introduces itself. -/
def introduction (url : Url) : Method × Method :=
  (.connectionStart (orGuest (Descriptor.decoded url.username))
      (orGuest (Descriptor.decoded url.password)),
    .connectionOpen (Descriptor.decoded (Descriptor.withoutSlash url.path)))

/-- Whether a URL leads here. A connection over TLS is not understood. -/
def isReachedBy (b : Broker) (url : Url) : Bool :=
  b.listening && url.scheme == "amqp" && url.host.map Descriptor.decoded == some host &&
    url.port == some port

/-- Takes a new connection, if the URL leads here. -/
def accept (b : Broker) (url : String) : Except String Unit × Link × Broker :=
  match Url.parse url with
  | .error f => (.error ("IO error: " ++ f.message), {}, b)
  | .ok u =>
    if !b.isReachedBy u then (.error "IO error: connection refused", {}, b)
    else
      let (start, connectionOpen) := introduction u
      let b := b.record start
      if b.fails start then (.error "connection closed", {}, b)
      else
        let b := b.record connectionOpen
        if b.fails connectionOpen then (.error "connection closed", {}, b)
        else (.ok (), { isOpen := true }, b)

/-- The channel ends, and what it has not settled goes back. -/
def endChannel (b : Broker) (c : Channel) : Broker := b.putBackAll c.unsettled

/-- Whether a client waits for an answer to a method. -/
def isAnswered : Method → Bool
  | .basicAck .. | .basicNack .. => false
  | _ => true

/-- Takes a message from a queue. -/
def take (b : Broker) (c : Channel) (queue : String) : Option Delivery × Channel × Broker :=
  match b.queues.get? queue with
  | some (m :: rest) =>
    let delivery : Delivery := ⟨c.lastTag + 1, m⟩
    (some delivery, ⟨c.lastTag + 1, c.unsettled ++ [⟨queue, delivery⟩]⟩,
      { b with queues := b.queues.modify queue fun _ => rest })
  | _ => (none, c, b)

/-- Executes a method on a channel. -/
def execute (b : Broker) (c : Channel) : (m : Method) → m.Reply × Channel × Broker
  | .queueDeclare queue _ _ => ((), c, { b with queues := b.queues.declare queue })
  | .queueDelete queue _ _ => ((), c, { b with queues := b.queues.remove queue })
  | .basicPublish .. => (if b.failing.contains unconfirmed then .nack else .ack, c, b)
  | .basicGet queue _ => b.take c queue
  | .basicAck tag _ =>
    ((), { c with unsettled := c.unsettled.filter fun u => u.delivery.tag != tag }, b)
  | .basicNack tag _ requeue =>
    let back := c.unsettled.filter fun u => u.delivery.tag == tag
    ((), { c with unsettled := c.unsettled.filter fun u => u.delivery.tag != tag },
      if requeue then b.putBackAll back else b)
  -- The others leave a trace in the log only.
  | .queueBind .. => ((), c, b)
  | .exchangeDeclare .. => ((), c, b)
  | .confirmSelect => ((), c, b)
  | .channelOpen => ((), c, b)
  | .channelClose .. => ((), c, b)
  | .connectionStart .. => ((), c, b)
  | .connectionOpen _ => ((), c, b)
  | .connectionClose .. => ((), c, b)

/-- Takes a method on a channel. One that fails ends the channel; a client that does not wait
for an answer learns of it later. -/
def callOn (b : Broker) (c : Channel) (m : Method) : Except String m.Reply × Link × Broker :=
  let b := b.record m
  if b.fails m then
    -- To a client that does not wait, it looks as if the method had been executed.
    let (reply, _, _) := b.execute c m
    (if isAnswered m then .error "channel closed" else .ok reply, { isOpen := true },
      b.endChannel c)
  else
    let (reply, c, b) := b.execute c m
    (.ok reply, { isOpen := true, channel := some c }, b)

/-- Takes a method on a connection. -/
def call (b : Broker) (l : Link) (m : Method) : Except String m.Reply × Link × Broker :=
  if !(b.listening && l.isOpen) then (.error "connection closed", {}, b)
  else
    match m, l.channel with
    | .channelOpen, _ =>
      let b := b.record .channelOpen
      if b.fails .channelOpen then (.error "connection closed", {}, b)
      else (.ok (), { isOpen := true, channel := some {} }, b)
    -- A channel that is open ends with its connection.
    | .connectionClose code text, c =>
      (.ok (), {}, (b.record (.connectionClose code text)).endChannel (c.getD {}))
    | .channelClose code text, some c =>
      (.ok (), { isOpen := true }, (b.record (.channelClose code text)).endChannel c)
    | m, some c => b.callOn c m
    | _, none => (.error "channel closed", l, b)

end Broker

/-- The broker as one client meets it: with the connection of this client, and the time. -/
structure Peer where
  broker : Broker
  link : Link
  clock : Nat
deriving Repr

namespace Peer

/-- The time that a method takes, in nanoseconds. -/
def methodTime : Nat := 1000

/-- Answers a request. -/
def answer : (q : Request) → Peer → Answer q × Peer
  | .dial url, p =>
    let (r, link, broker) := p.broker.accept url
    (r, ⟨broker, link, p.clock + methodTime⟩)
  | .lease url, p =>
    -- A connection that is still there is taken up without a method.
    if p.broker.listening && p.link.isOpen then (.ok (), p)
    else
      let (r, link, broker) := p.broker.accept url
      (r, ⟨broker, link, p.clock + methodTime⟩)
  | .call m, p =>
    let (r, link, broker) := p.broker.call p.link m
    (r, ⟨broker, link, p.clock + methodTime⟩)
  | .clock, p => (p.clock, p)
  | .sleep nanoseconds, p => ((), { p with clock := p.clock + nanoseconds })

end Peer
end Amqp
end TaskQueue
