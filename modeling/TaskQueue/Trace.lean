import TaskQueue.Amqp.Method
import TaskQueue.Redis.Command
import TaskQueue.Session
import TaskQueue.Transport.Memory
import TaskQueue.Transport.Script

/-!
# `TaskQueue.Trace`: what a run leaves behind, as JSON

Whoever looks into a run sees what the steps came to, the events, and what the brokers logged:
published envelopes, calls, commands and methods. Here they are as JSON values. Bytes are shown
as text, and as hexadecimal digits if they are no text.
-/

set_option autoImplicit false

namespace TaskQueue

/-- Bytes as a value. -/
def Json.ofBytes (bs : Bytes) : Json :=
  match Utf8.decode? bs with
  | some s => .string s
  | none =>
    .object [("hex", .string (String.ofList (bs.flatMap fun b =>
      [Json.hexChar (b.toNat / 16), Json.hexChar (b.toNat % 16)])))]

/-- A value that may be absent. -/
def Json.ofOption {α : Type} (f : α → Json) : Option α → Json
  | some a => f a
  | none => .null

/-- A text that may be absent. -/
def Json.ofText? : Option String → Json := .ofOption .string

/-- A number that may be absent. -/
def Json.ofNat? : Option Nat → Json := .ofOption fun n => .int n

/-- Delivery properties as a value. -/
def PublishProperties.toJson (p : PublishProperties) : Json :=
  .object [("content_type", .string p.contentType), ("content_encoding", .string p.contentEncoding),
    ("delivery_mode", .ofNat? (p.deliveryMode.map UInt8.toNat)),
    ("headers", .object (p.headers.entries.map fun h => (h.1, .string h.2)))]

/-- A result message as a value. -/
def ResultMessage.toJson (m : ResultMessage) : Json :=
  .object [("content_type", .ofText? m.contentType), ("body", .ofBytes m.body)]

/-- A state as a value. -/
def TaskState.toJson (s : TaskState) : Json :=
  .object [("variant", .string s.title), ("display", .string s.text),
    ("terminal", .bool s.isTerminal)]

/-- A body with all that follows from it. -/
def ResultBody.summary (b : ResultBody) : Json :=
  .object [("status", .string b.status), ("result", b.result),
    ("traceback", .ofText? b.traceback), ("extra", .object b.extra), ("success", .bool b.isSuccess),
    ("state", b.state.toJson), ("json", .string b.toJson.text)]

/-- A descriptor with all that follows from it. -/
def Descriptor.summary (d : Descriptor) : Json :=
  .object [("descriptor", .object (Members.sort d.members)),
    ("explicit_backend", .ofText? d.explicitBackend), ("wants_tls", .bool d.wantsTls),
    ("result_ttl_ms", .ofNat? (d.resultTtl.map (·.millis))),
    ("wait_ms", .int d.waitDuration.millis),
    ("remove_after_read", .bool d.removesResults), ("amqp_uri", .string d.amqpUri),
    ("redis_url", .string d.redisUrl), ("endpoint", .string d.endpoint)]

/-- What came of a step that succeeded. -/
def Session.Answer.value? : Session.Answer → Option Json
  | done => some (.bool true)
  | flag b => some (.bool b)
  | text s => some (.string s)
  | optionalText s => some (.ofText? s)
  | value v => some v
  | optionalValue v => some (.ofOption (fun v => .object [("some", v)]) v)
  | state s => some s.toJson
  | info id name host =>
    some (.object [("id", .string id.text), ("name", .string name), ("host", .string host)])
  | message m => some (.ofOption (·.toJson) m)
  | submitted withHandle id =>
    some (.object [("kind", .string (if withHandle then "Result" else "Sent")),
      ("id", .string id.text)])
  | client debug broker backend =>
    some (.object [("debug", .string debug), ("broker", .string broker),
      ("backend", .string backend)])
  | connector kind connected =>
    some (.object [("kind", .string kind.name), ("connected", .bool connected)])
  | envelope e => some (.ofBytes e.toBytes)
  | failed _ => none
  | refused _ => none
  | unreadable _ => none
  | unfinished => none
  | missing _ => none

/-! ## Events -/

/-- The value of a field. -/
def FieldValue.toJson : FieldValue → Json
  | shown s => .string s
  | text s => .string s
  | flag b => .bool b

/-- The fields of an event. -/
def Fields.toJson (fs : Fields) : Json := .object (fs.map fun f => (f.1, f.2.toJson))

/-- An event. -/
def Event.toJson : Event → Json
  | message level text fields =>
    .object [("level", .string level.name), ("message", .string text), ("fields", fields.toJson)]
  | span level name fields =>
    .object [("span", .string name), ("level", .string level.name), ("fields", fields.toJson)]

/-! ## Brokers without a network -/

/-- A published envelope, with the name of its task if it can be read. -/
def Memory.Published.toJson (p : Memory.Published) : Json :=
  .object [("exchange", .string p.exchange), ("routing_key", .string p.routingKey),
    ("body", .ofBytes p.body),
    ("decoded_task", match Envelope.ofBytes p.body with
      | .ok e => .string e.task
      | .error _ => .null),
    ("properties", p.properties.toJson)]

/-- What an in-memory broker has seen. -/
def Memory.Broker.toJson (b : Memory.Broker) : Json :=
  .object [("published", .array (b.published.map (·.toJson))), ("fetches", .int b.fetches),
    ("connects", .int b.connects), ("opened_for", .array (b.openedFor.map .string))]

/-- A call on a scripted broker. -/
def Script.Call.toJson : Script.Call → Json
  | create host => .array [.string "create", .string host]
  | connect host => .array [.string "connect", .string host]
  | publish key body p => .array [.string "publish", .string key, .ofBytes body, p.toJson]
  | fetch id remove => .array [.string "fetch", .string id.text, .bool remove]
  | close host => .array [.string "close", .string host]

/-! ## Commands and methods -/

/-- A command to Redis. -/
def Redis.Command.toJson (c : Redis.Command) : Json :=
  .object [("cmd", .string c.name), ("args", .array (c.arguments.map .string))]

namespace Amqp

/-- A value in a table, with its type. -/
def TableValue.toJson : TableValue → Json
  | longString s => .array [.string "longstr", .string s]
  | int64 n => .array [.string "int64", .int n]

/-- A table. -/
def tableJson (t : Table) : Json := .object (t.map fun e => (e.1, e.2.toJson))

/-- The arguments of a method. -/
def Method.members : Method → List (String × Json)
  | connectionStart login password => [("login", .string login), ("password", .string password)]
  | connectionOpen vhost => [("vhost", .string vhost)]
  | connectionClose code text => [("code", .int code), ("text", .string text)]
  | channelOpen => []
  | channelClose code text => [("code", .int code), ("text", .string text)]
  | queueDeclare queue f arguments =>
    [("queue", .string queue), ("passive", .bool f.passive), ("durable", .bool f.durable),
      ("exclusive", .bool f.exclusive), ("auto_delete", .bool f.autoDelete),
      ("arguments", tableJson arguments)]
  | queueBind queue exchange key =>
    [("queue", .string queue), ("exchange", .string exchange), ("routing_key", .string key)]
  | queueDelete queue ifUnused ifEmpty =>
    [("queue", .string queue), ("if_unused", .bool ifUnused), ("if_empty", .bool ifEmpty)]
  | exchangeDeclare exchange kind durable autoDelete =>
    [("exchange", .string exchange), ("type", .string kind), ("durable", .bool durable),
      ("auto_delete", .bool autoDelete)]
  | confirmSelect => []
  | basicPublish exchange key p body =>
    [("exchange", .string exchange), ("routing_key", .string key),
      ("content_type", .ofText? p.contentType), ("content_encoding", .ofText? p.contentEncoding),
      ("delivery_mode", .ofNat? (p.deliveryMode.map UInt8.toNat)),
      ("headers", .ofOption tableJson p.headers), ("body", .ofBytes body)]
  | basicGet queue noAck => [("queue", .string queue), ("no_ack", .bool noAck)]
  | basicAck _ multiple => [("multiple", .bool multiple)]
  | basicNack _ multiple requeue => [("multiple", .bool multiple), ("requeue", .bool requeue)]

/-- A method. The connection is started by the broker, and the client answers. -/
def Method.toJson (m : Method) : Json :=
  let suffix := match m with
    | connectionStart .. => "-ok"
    | _ => ""
  .object (("method", .string (m.name ++ suffix)) :: m.members)

end Amqp
end TaskQueue
