import TaskQueue.Task.Envelope
import TaskQueue.Transport.Basic

/-!
# `TaskQueue.Client.Producer`: submitting tasks

A producer builds an envelope, connects if it has to, and publishes. Whatever is wrong with the
task shows before the connector is touched. What the broker does not accept is a failure.
-/

set_option autoImplicit false

namespace TaskQueue
namespace Producer

variable {κ β : Type}

/-- The delivery properties of the envelopes that go to a broker. -/
def properties (d : Descriptor) : PublishProperties :=
  PublishProperties.json.persistent d.persistentMessages

/-- The span of time between two readings of the clock, in seconds. -/
def secondsBetween (start finish : Nat) : Double :=
  Double.ofRatio false (finish - start) 1000000000

/-- The error when the broker does not accept a task. -/
def refusal (e : Envelope) : Error :=
  .publishFailed ("broker did not accept task " ++ e.task ++ "[" ++ e.id.text ++ "]")

/-- Counts and logs what a publication came to. -/
def settle (e : Envelope) (exchange backend : String) (started : Nat)
    (outcome : Except ConnectorError Bool) (w : World β) : Except Error Unit × World β :=
  match outcome with
  | .error fault => (.error fault.toError, w.count (·.publishFailed backend))
  | .ok false =>
    (.error (refusal e),
      (w.count (·.publishFailed backend)).note (.message .warn "Broker did not accept task"
        [("task_id", .shown e.id.text), ("task_name", .shown e.task)]))
  | .ok true =>
    let w := w.count fun m =>
      (m.taskSubmitted exchange e.task).latency (secondsBetween started w.clock)
    (.ok (), w.note (.taskSubmitted e.id.text e.task exchange))

/-- Publishes an envelope. Without a routing key, that of the descriptor's queue is taken. -/
def publish (t : Transport κ β) (c : κ) (e : Envelope) (routingKey : Option String)
    (w : World β) : Except Error Unit × κ × World β :=
  let d := t.descriptor c
  let backend := (t.kind c).name
  match t.connect c w with
  | (.error fault, c, w) => (.error fault.toError, c, w)
  | (.ok (), c, w) =>
    -- The latency begins here: the time that it takes to connect is no part of it.
    let w := w.note (.taskSpan e.id.text e.task d.exchange)
    match t.publish c (routingKey.getD d.binding) e.toBytes (properties d) w with
    | (outcome, c, v) =>
      let (r, v) := settle e d.exchange backend w.clock outcome v
      (r, c, v)

/-- Builds an envelope with a fresh id and publishes it. -/
def submit (t : Transport κ β) (c : κ) (task : String) (arguments : Json.Value) (o : TaskOptions)
    (w : World β) : Except Error Envelope × κ × World β :=
  let (id, w) := w.freshId
  match Envelope.build w.now id task arguments o with
  | .error e => (.error e, c, w)
  | .ok envelope =>
    match publish t c envelope o.routingKey w with
    | (.error e, c, w) => (.error e, c, w)
    | (.ok (), c, w) => (.ok envelope, c, w)

end Producer
end TaskQueue
