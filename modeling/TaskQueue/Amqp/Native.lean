import TaskQueue.Amqp.Exchange

/-!
# `TaskQueue.Amqp.Native`: AMQP over a connection that is kept

The native connector dials when it connects and keeps the connection. Each operation opens a
channel of its own and closes it at its end. A fetch looks once.
-/

set_option autoImplicit false

namespace TaskQueue
namespace Amqp
namespace Native

/-- Why there is no connection. -/
def unavailable (reason : String) : String :=
  "Error occurred while creating a new object: " ++ reason

/-- Dials the broker. -/
def connect (d : Descriptor) : Try Unit := do
  demand (fun reason => .connection (unavailable reason)) (dial d.amqpUri)
  Attempt.log (.message .info ("Connected to AMQP broker at " ++ d.endpoint) [])

/-- Does something on a channel of its own. -/
def onChannel {α : Type} (d : Descriptor) (work : Try α) : Try α := do
  demand (fun reason => .pool (unavailable reason)) (lease d.amqpUri)
  demand .connection (call .channelOpen)
  ExceptT.mk (do
    -- The channel is closed whatever the work comes to.
    let outcome ← work.run
    closeChannel
    return outcome)

/-- Publishes an envelope. -/
def publish (d : Descriptor) (routingKey : String) (envelope : Bytes)
    (properties : PublishProperties) : Try Bool :=
  onChannel d (publishEnvelope d routingKey envelope properties)

/-- Looks for the result of a task on its queue. -/
def fetchOnce (d : Descriptor) (id : TaskId) (remove : Bool) : Try (Option ResultMessage) := do
  declareResultQueue d id.resultQueue
  match ← getOne id.resultQueue with
  | some delivery => return some (← settle id.resultQueue delivery remove)
  | none => notReady id

/-- Looks for the result of a task. -/
def fetch (d : Descriptor) (id : TaskId) (remove : Bool) : Try (Option ResultMessage) :=
  onChannel d (fetchOnce d id remove)

end Native
end Amqp
end TaskQueue
