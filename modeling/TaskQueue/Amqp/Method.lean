import TaskQueue.Dialogue
import TaskQueue.Result.Message

/-!
# `TaskQueue.Amqp.Method`: what is said to an AMQP broker

A connector dials a broker, or takes up a connection that it still has, opens a channel, and
calls methods on it. Each method has its type of reply. A failure comes with a reason.

A connector may also look at the clock and wait. Both are requests like the others, so that
whoever answers decides how long a method takes.
-/

set_option autoImplicit false

namespace TaskQueue
namespace Amqp

/-- A value in a table of arguments or headers. -/
inductive TableValue where
  | longString (s : String)
  | int64 (n : Int)
deriving DecidableEq, Repr

/-- A table of arguments or headers. -/
abbrev Table := List (String × TableValue)

/-- How a queue is declared. -/
structure QueueFlags where
  passive : Bool := false
  durable : Bool := false
  exclusive : Bool := false
  autoDelete : Bool := false
deriving DecidableEq, Repr

/-- What is published beside the body. -/
structure BasicProperties where
  contentType : Option String := none
  contentEncoding : Option String := none
  deliveryMode : Option UInt8 := none
  headers : Option Table := none
deriving DecidableEq, Repr

/-- A method. -/
inductive Method where
  | connectionStart (login password : String)
  | connectionOpen (vhost : String)
  | connectionClose (code : Nat) (text : String)
  | channelOpen
  | channelClose (code : Nat) (text : String)
  | queueDeclare (queue : String) (flags : QueueFlags) (arguments : Table)
  | queueBind (queue exchange routingKey : String)
  | queueDelete (queue : String) (ifUnused ifEmpty : Bool)
  | exchangeDeclare (exchange kind : String) (durable autoDelete : Bool)
  | confirmSelect
  | basicPublish (exchange routingKey : String) (properties : BasicProperties) (body : Bytes)
  | basicGet (queue : String) (noAck : Bool)
  | basicAck (tag : Nat) (multiple : Bool)
  | basicNack (tag : Nat) (multiple requeue : Bool)
deriving DecidableEq, Repr

/-- A message that was taken from a queue; `tag` names it on the channel. -/
structure Delivery where
  tag : Nat
  message : ResultMessage
deriving DecidableEq, Repr

/-- What the broker makes of a publication. -/
inductive Confirmation where
  | ack
  | nack
deriving DecidableEq, Repr

namespace Method

/-- The name of the method. -/
def name : Method → String
  | connectionStart .. => "connection.start"
  | connectionOpen _ => "connection.open"
  | connectionClose .. => "connection.close"
  | channelOpen => "channel.open"
  | channelClose .. => "channel.close"
  | queueDeclare .. => "queue.declare"
  | queueBind .. => "queue.bind"
  | queueDelete .. => "queue.delete"
  | exchangeDeclare .. => "exchange.declare"
  | confirmSelect => "confirm.select"
  | basicPublish .. => "basic.publish"
  | basicGet .. => "basic.get"
  | basicAck .. => "basic.ack"
  | basicNack .. => "basic.nack"

/-- What a method is replied with: a publication is confirmed or not, a queue gives a message
or has none, and of the others it is only known that they are done. -/
abbrev Reply : Method → Type
  | basicPublish .. => Confirmation
  | basicGet .. => Option Delivery
  | connectionStart .. => Unit
  | connectionOpen _ => Unit
  | connectionClose .. => Unit
  | channelOpen => Unit
  | channelClose .. => Unit
  | queueDeclare .. => Unit
  | queueBind .. => Unit
  | queueDelete .. => Unit
  | exchangeDeclare .. => Unit
  | confirmSelect => Unit
  | basicAck .. => Unit
  | basicNack .. => Unit

end Method

/-- What a connector asks for: a new connection to the broker of a URL, the connection that it
has or else a new one, a method, the time in nanoseconds, or a pause. -/
inductive Request where
  | dial (url : String)
  | lease (url : String)
  | call (m : Method)
  | clock
  | sleep (nanoseconds : Nat)
deriving DecidableEq, Repr

/-- The answers to a request. -/
abbrev Answer : Request → Type
  | .dial _ => Except String Unit
  | .lease _ => Except String Unit
  | .call m => Except String m.Reply
  | .clock => Nat
  | .sleep _ => Unit

/-- A dialogue with a broker that comes to something in any case. -/
abbrev Talk := Dialogue Request Answer

/-- A dialogue with a broker that may fail. -/
abbrev Try := Attempt Request Answer

/-- Makes a request; when it fails, `fault` makes the error out of the reason. -/
def demand {α : Type} (fault : String → ConnectorError) (t : Talk (Except String α)) : Try α :=
  ExceptT.mk (do
    match ← t with
    | .ok a => return .ok a
    | .error reason => return .error (fault reason))

/-- Dials a broker. -/
def dial (url : String) : Talk (Except String Unit) := .ask (.dial url) .done

/-- Takes up a connection. -/
def lease (url : String) : Talk (Except String Unit) := .ask (.lease url) .done

/-- Calls a method. -/
def call (m : Method) : Talk (Except String m.Reply) := .ask (.call m) .done

end Amqp
end TaskQueue
