import TaskQueue.Amqp.Exchange
import TaskQueue.Files

/-!
# `TaskQueue.Amqp.Direct`: AMQP with a connection for each operation

The direct connector opens a connection and a channel for each operation, and closes both
before it returns, whatever happened in between. It connects only to see that it can.

A fetch looks again and again, at intervals of `retryInterval`, as long as the time that the
descriptor allows is not over.

The same connector works over TLS. Its options are checked when it is made, so that a mistake
shows before anything is dialled.
-/

set_option autoImplicit false

namespace TaskQueue
namespace Amqp

/-- A direct connector. -/
structure Direct where
  descriptor : Descriptor
  kind : BackendKind
  url : String
  caChain : Option String
  connected : Bool
deriving Repr

namespace Direct

/-- A plain connector. -/
def plain (d : Descriptor) : Direct := ⟨d, .amqp, d.amqpUri, none, false⟩

/-- What is logged when a connector over TLS is made: some options have no effect. -/
def secureEvents (d : Descriptor) (files : Files) : List Event :=
  match d.tls.validate files with
  | .error _ => []
  | .ok () =>
    if d.tls.isMutual then []
    else if d.tls.skipVerify || d.tls.serverName.isSome then
      [.message .warn "skip_verify and server_name are not applied by the amqp-tls backend" []]
    else []

/-- A connector over TLS. It cannot present a certificate of the client. -/
def secure (d : Descriptor) (files : Files) : Except Error Direct :=
  match d.tls.validate files with
  | .error f => .error f.toError
  | .ok () =>
    if d.tls.isMutual then
      .error (.configuration "client certificates are not supported by the amqp-tls backend")
    else
      match d.tls.caChain files with
      | .error f => .error f.toError
      | .ok chain => .ok ⟨d, .amqpTls, TlsOptions.applyToUrl d.amqpUri, chain, false⟩

/-- Opens a connection and closes it again. -/
def connect (c : Direct) : Try Unit :=
  if c.connected then pure ()
  else do
    demand .connection (dial c.url)
    -- Wrong credentials have shown by now, and not only at the first operation.
    ExceptT.lift closeConnection
    Attempt.log (.message .info ("Connected to AMQP broker at " ++ c.descriptor.endpoint)
      [("backend", .shown c.kind.name)])

/-- Does something on a channel of its own connection. -/
def inSession {α : Type} (c : Direct) (work : Try α) : Try α :=
  if !c.connected then Attempt.fail .notConnected
  else do
    demand .connection (dial c.url)
    ExceptT.mk (do
      match ← call .channelOpen with
      | .error reason =>
        closeConnection
        return .error (.connection reason)
      | .ok _ =>
        -- Both are closed whatever the work comes to.
        let outcome ← work.run
        closeChannel
        closeConnection
        return outcome)

/-- Publishes an envelope. -/
def publish (c : Direct) (routingKey : String) (envelope : Bytes)
    (properties : PublishProperties) : Try Bool :=
  c.inSession (publishEnvelope c.descriptor routingKey envelope properties)

/-- The time between two looks, in nanoseconds. -/
def retryInterval : Nat := (Duration.ofMillis 100).nanoseconds

/-- Looks at the clock. -/
def now : Try Nat := ExceptT.lift (.ask .clock .done)

/-- Waits. -/
def pause (nanoseconds : Nat) : Try Unit := ExceptT.lift (.ask (.sleep nanoseconds) .done)

/-- Looks for a result. Without one it gives up if the next look would come after the deadline,
and goes on with `again` otherwise. -/
def look (deadline : Nat) (id : TaskId) (remove : Bool) (again : Try (Option ResultMessage)) :
    Try (Option ResultMessage) := do
  match ← getOne id.resultQueue with
  | some delivery => return some (← settle id.resultQueue delivery remove)
  | none => if deadline < (← now) + retryInterval then notReady id else again

/-- Looks for a result, and up to `retries` times again. -/
def lookUntil (deadline : Nat) (id : TaskId) (remove : Bool) :
    (retries : Nat) → Try (Option ResultMessage)
  | 0 => look deadline id remove (notReady id)
  | retries + 1 =>
    look deadline id remove (do
      pause retryInterval
      lookUntil deadline id remove retries)

/-- The number of times that a fetch can look again: each time, an interval of the time that
the descriptor allows has passed. -/
def retries (d : Descriptor) : Nat := d.waitDuration.nanoseconds / retryInterval

/-- Looks for the result of a task. -/
def fetch (c : Direct) (id : TaskId) (remove : Bool) : Try (Option ResultMessage) :=
  c.inSession do
    -- The time that the declaration takes counts as well.
    let deadline := (← now) + c.descriptor.waitDuration.nanoseconds
    declareResultQueue c.descriptor id.resultQueue
    lookUntil deadline id remove (retries c.descriptor)

end Direct
end Amqp
end TaskQueue
