import TaskQueue.Connection.Descriptor
import TaskQueue.Task.Properties
import TaskQueue.Text.Base64

/-!
# `TaskQueue.Redis.Message`: envelopes on a list

On Redis an envelope is wrapped in a message before it is pushed onto the list of tasks. The
message holds the envelope in base 64, with the properties that AMQP would carry beside it.
The id of the task serves as delivery tag and as reply address, so the envelope must have one.
-/

set_option autoImplicit false

namespace TaskQueue
namespace Redis

/-- An envelope with what is needed to deliver it. -/
structure Message where
  body : Bytes
  headers : Members String
  contentType : String
  contentEncoding : String
  taskId : String
  routingKey : String
  exchange : String
  deliveryMode : UInt8
deriving DecidableEq, Repr

namespace Message

/-- The delivery mode of messages that do not ask for one. -/
def defaultMode : UInt8 := PublishProperties.persistentMode

/-- The id in an envelope. -/
def idOf (envelope : Bytes) : Except String String :=
  match Json.parseBytes envelope with
  | .error f => .error f.message
  | .ok document =>
    match (document.get? "id").bind Json.text? with
    | some id => .ok id
    | none => .error "envelope has no task id"

/-- The message for an envelope. -/
def ofEnvelope (d : Descriptor) (routingKey : String) (envelope : Bytes)
    (properties : PublishProperties) : Except ConnectorError Message :=
  match idOf envelope with
  | .error reason => .error (.publish reason)
  | .ok taskId => .ok {
      body := envelope
      headers := properties.headers
      contentType := properties.contentType
      contentEncoding := Text.lower properties.contentEncoding
      taskId := taskId
      routingKey := routingKey
      exchange := d.exchange
      deliveryMode := properties.deliveryMode.getD defaultMode }

/-- The message as a value. -/
def toJson (m : Message) : Json :=
  .object [
    ("body", .string (Base64.encode m.body)),
    ("headers", .object (m.headers.entries.map fun h => (h.1, .string h.2))),
    ("content-type", .string m.contentType),
    ("content-encoding", .string m.contentEncoding),
    ("properties", .object [
      ("body_encoding", .string "base64"),
      ("reply_to", .string m.taskId),
      ("delivery_info", .object [
        ("priority", .int 0),
        ("routing_key", .string m.routingKey),
        ("exchange", .string m.exchange)]),
      ("delivery_mode", .int m.deliveryMode.toNat),
      ("delivery_tag", .string m.taskId)])]

/-- The message as it is pushed. -/
def text (m : Message) : String := m.toJson.text

end Message
end Redis
end TaskQueue
