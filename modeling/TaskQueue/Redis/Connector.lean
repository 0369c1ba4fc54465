import TaskQueue.Redis.Command
import TaskQueue.Redis.Message
import TaskQueue.Task.Id

/-!
# `TaskQueue.Redis.Connector`: tasks and results on Redis

Tasks are pushed onto the list named by the exchange. A worker stores the result of a task as
text under the key made from its id. A fetch reads that key, makes sure that it holds a JSON
object, and deletes it if asked to. Reading and deleting are two commands.

Connections are kept: `connect` dials and tests one, and the other operations borrow it.
-/

set_option autoImplicit false

namespace TaskQueue
namespace Redis

/-- A connector to Redis. -/
structure Connector where
  descriptor : Descriptor
  connected : Bool
deriving Repr

namespace Connector

/-- Fails unless the connector is connected. -/
def demandConnected (c : Connector) : Talk Unit :=
  if c.connected then pure () else Attempt.fail .notConnected

/-- Dials the server and tests the connection. -/
def connect (c : Connector) : Talk Unit :=
  if c.connected then pure ()
  else do
    dial c.descriptor.redisUrl
    call .connection .ping
    Attempt.log (.message .info ("Connected to Redis at " ++ c.descriptor.endpoint) [])

/-- Pushes an envelope. It is wrapped before the connection is looked at. -/
def publish (c : Connector) (routingKey : String) (envelope : Bytes)
    (properties : PublishProperties) : Talk Bool := do
  let message ← Attempt.ofExcept (Message.ofEnvelope c.descriptor routingKey envelope properties)
  c.demandConnected
  lease
  let _ ← call .publish (.push c.descriptor.exchange message.text)
  Attempt.log (.message .debug "Pushed task envelope"
    [("list", .shown c.descriptor.exchange), ("routing_key", .text routingKey)])
  return true

/-- The result that a stored value holds; a value that is no text cannot be read, and one that
is not a JSON object is malformed. -/
def readValue (key : String) (value : Bytes) : Except ConnectorError String :=
  match Utf8.decode? value with
  | none => .error (.consume "the value is not UTF-8 text")
  | some s =>
    match Json.parse s with
    | .ok (.object _) => .ok s
    | _ => .error (.malformed ("value under " ++ key ++ " is not a JSON object"))

/-- Looks for the result of a task. -/
def fetch (c : Connector) (id : TaskId) (remove : Bool) : Talk (Option ResultMessage) := do
  c.demandConnected
  lease
  match ← call .consume (.get id.resultKey) with
  | none =>
    Attempt.log (.message .debug "Result not ready" [("task_id", .shown id.text)])
    return none
  | some value =>
    let s ← Attempt.ofExcept (readValue id.resultKey value)
    -- A value that cannot be read has not come this far, and it stays.
    if remove then
      let _ ← call .ack (.delete id.resultKey)
    return some (.ofJsonText s)

end Connector
end Redis
end TaskQueue
