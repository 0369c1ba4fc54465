import TaskQueue.Amqp.Method
import TaskQueue.Connection.Descriptor
import TaskQueue.Task.Id
import TaskQueue.Task.Properties

/-!
# `TaskQueue.Amqp.Exchange`: publishing and fetching on a channel

Both AMQP connectors do the same once they have a channel.

To publish, `publishEnvelope` declares the queue of tasks and the exchange, binds them, asks
for confirmations, and publishes. It says whether the broker took the envelope.

The result of a task arrives on a queue of its own. `declareResultQueue` declares it and binds
it to the exchange of results; `getOne` takes a message, if there is one; `settle` keeps or
removes it. A message that is kept goes back to its queue. One that is removed is acknowledged,
and its queue is deleted. Only then is the content type looked at.
-/

set_option autoImplicit false

namespace TaskQueue
namespace Amqp

/-- The exchange on which results arrive. -/
def resultsExchange : String := "celeryresults"

/-- The code with which channels and connections are closed. -/
def closeCode : Nat := 200

/-- The text with which channels and connections are closed. -/
def closeText : String := "OK"

/-- What is published beside an envelope. -/
def basicProperties (p : PublishProperties) : BasicProperties where
  contentType := some p.contentType
  contentEncoding := some p.contentEncoding
  deliveryMode := p.deliveryMode
  headers :=
    if p.headers.entries.isEmpty then none
    else some (p.headers.entries.map fun h => (h.1, .longString h.2))

/-- The queue of tasks outlives the broker. -/
def taskQueueFlags : QueueFlags := { durable := true }

/-- A queue of results goes away when nobody uses it; whether it outlives the broker is up to
the descriptor. -/
def resultQueueFlags (d : Descriptor) : QueueFlags :=
  { durable := d.durableResultQueue, autoDelete := true }

/-- The number that a field of 64 bits with a sign holds for `n`. -/
def toInt64 (n : Nat) : Int := (n : Int).bmod (Nat.pow 2 64)

/-- The arguments of a queue of results: how long it lives, if it does not live for ever. -/
def resultQueueArguments (d : Descriptor) : Table :=
  match d.resultTtl with
  | none => []
  | some ttl => [("x-expires", .int64 (toInt64 ttl.millis))]

/-- Publishes an envelope. -/
def publishEnvelope (d : Descriptor) (routingKey : String) (envelope : Bytes)
    (properties : PublishProperties) : Try Bool := do
  demand .publish (call (.queueDeclare d.binding taskQueueFlags []))
  demand .publish (call (.exchangeDeclare d.exchange "direct" true false))
  demand .publish (call (.queueBind d.binding d.exchange d.binding))
  -- Without this the broker would not say whether it takes the envelope.
  demand .publish (call .confirmSelect)
  let place : Fields := [("exchange", .shown d.exchange), ("routing_key", .text routingKey)]
  match ← demand .publish
    (call (.basicPublish d.exchange routingKey (basicProperties properties) envelope)) with
  | .nack =>
    Attempt.log (.message .warn "Broker rejected task envelope" place)
    return false
  | .ack =>
    Attempt.log (.message .debug "Published task envelope" place)
    return true

/-- Declares the queue on which a result arrives. -/
def declareResultQueue (d : Descriptor) (queue : String) : Try Unit := do
  demand .consume (call (.queueDeclare queue (resultQueueFlags d) (resultQueueArguments d)))
  demand .consume (call (.queueBind queue resultsExchange queue))

/-- Takes a message from a queue, if there is one. -/
def getOne (queue : String) : Try (Option Delivery) :=
  demand .consume (call (.basicGet queue false))

/-- Checks the content type of a result. -/
def checked (m : ResultMessage) : Except ConnectorError ResultMessage :=
  match m.validate with
  | .ok () => .ok m
  | .error e => .error (.malformed e.message)

/-- Removes a message or puts it back, and then checks it. -/
def settle (queue : String) (delivery : Delivery) (remove : Bool) : Try ResultMessage := do
  if remove then
    demand .ack (call (.basicAck delivery.tag false))
    demand .ack (call (.queueDelete queue false false))
  else
    demand .ack (call (.basicNack delivery.tag false true))
  -- By now a message of another content type is removed as well, if it was to be.
  Attempt.ofExcept (checked delivery.message)

/-- Notes that there is no result yet. -/
def notReady (id : TaskId) : Try (Option ResultMessage) := do
  Attempt.log (.message .debug "Result not ready" [("task_id", .shown id.text)])
  return none

/-- Asks for something to be closed; a failure is only logged. -/
def closing (what : String) (m : Method) : Talk Unit := do
  match ← call m with
  | .ok _ => return ()
  | .error reason => Dialogue.log (.message .debug (what ++ " close failed: " ++ reason) [])

/-- Closes the channel. -/
def closeChannel : Talk Unit := closing "Channel" (.channelClose closeCode closeText)

/-- Closes the connection. -/
def closeConnection : Talk Unit := closing "Connection" (.connectionClose closeCode closeText)

end Amqp
end TaskQueue
