import TaskQueue.Connection.Backend
import TaskQueue.Connection.Tls
import TaskQueue.Url.Basic

/-!
# `TaskQueue.Connection.Descriptor`: where a broker is and how it is used

A descriptor holds everything that is known about one broker. It can be read from a URL, and
it renders the URLs that the transports dial: `amqpUri` and `redisUrl`. Credentials and
virtual host are escaped in them.
-/

set_option autoImplicit false

namespace TaskQueue

/-- The parameters of a connection to a broker. -/
structure Descriptor where
  host : String := ""
  login : String := ""
  password : String := ""
  vhost : String := ""
  exchange : String := "celery"
  binding : String := "celery"
  port : UInt16 := 5672
  backend : String := "auto"
  persistentMessages : Bool := false
  resultExpire : UInt64 := 0
  keepMessages : Bool := false
  durableResultQueue : Bool := true
  waitTimeoutMillis : UInt64 := 1000
  tls : TlsOptions := {}
deriving Repr, Inhabited

namespace Descriptor

instance : BEq Descriptor where
  beq a b := a.host == b.host && a.login == b.login && a.password == b.password &&
    a.vhost == b.vhost && a.exchange == b.exchange && a.binding == b.binding &&
    a.port == b.port && a.backend == b.backend &&
    a.persistentMessages == b.persistentMessages && a.resultExpire == b.resultExpire &&
    a.keepMessages == b.keepMessages && a.durableResultQueue == b.durableResultQueue &&
    a.waitTimeoutMillis == b.waitTimeoutMillis && a.tls == b.tls

/-- The backend name that leaves the choice open. -/
def auto : String := "auto"

/-- A descriptor with credentials. -/
def withCredentials (host login password vhost : String) : Descriptor :=
  { host, login, password, vhost }

/-- Sets how long a fetch may wait, as far as 64 bits hold it in milliseconds. -/
def waitTimeout (d : Descriptor) (t : Duration) : Descriptor :=
  { d with waitTimeoutMillis := .ofNat (min t.millis (Nat.pow 2 64 - 1)) }

/-- The backend that is asked for by name, if any is. -/
def explicitBackend (d : Descriptor) : Option String :=
  let name := Text.trim d.backend
  if name.isEmpty || Text.sameIgnoringAsciiCase name auto then none else some name

/-- Whether an encrypted connection is asked for. -/
def wantsTls (d : Descriptor) : Bool := !d.tls.isEmpty

/-- How long result queues live, if they expire. -/
def resultTtl (d : Descriptor) : Option Duration :=
  if d.resultExpire = 0 then none else some (.ofMillis d.resultExpire.toNat)

/-- How long a fetch may wait. -/
def waitDuration (d : Descriptor) : Duration := .ofMillis d.waitTimeoutMillis.toNat

/-- Whether a result is removed once it has been fetched. -/
def removesResults (d : Descriptor) : Bool := !d.keepMessages

/-- Host, port and virtual host, without credentials. -/
def endpoint (d : Descriptor) : String :=
  d.host ++ ":" ++ toString d.port ++ "/" ++ d.vhost

/-! ## URLs -/

/-- Backend name and port of a URL scheme. -/
def scheme? (s : String) : Option (String × UInt16) :=
  if s = "amqp" then some (auto, 5672)
  else if s = "amqps" then some (BackendKind.amqpTls.name, 5671)
  else if s = "redis" then some (BackendKind.redis.name, 6379)
  else none

/-- The text that a part of a URL stands for. -/
def decoded (cs : List Char) : String := Utf8.decodeLossy (Percent.decodeChars cs)

/-- A path without its first slash. -/
def withoutSlash : List Char → List Char
  | '/' :: cs => cs
  | cs => cs

/-- Reads the URL of a broker. -/
def ofUrl (raw : String) : Except Error Descriptor :=
  match Url.parse raw with
  | .error e => .error (.configuration ("invalid broker URL " ++ raw ++ ": " ++ e.message))
  | .ok url =>
    match scheme? url.scheme with
    | none => .error (.configuration ("unsupported broker URL scheme: " ++ url.scheme))
    | some (backend, port) =>
      match url.host with
      | none => .error (.configuration ("broker URL has no host: " ++ raw))
      | some host => .ok {
          host := String.ofList host
          login := decoded url.username
          password := decoded url.password
          vhost := decoded (withoutSlash url.path)
          port := url.port.getD port
          backend := backend }

/-- The AMQP URL. -/
def amqpUri (d : Descriptor) : String :=
  let scheme := if d.wantsTls then "amqps" else "amqp"
  let vhost := if d.vhost.isEmpty then "/" else d.vhost
  let place := d.host ++ ":" ++ toString d.port ++ "/" ++ Percent.encode vhost
  if d.login.isEmpty then scheme ++ "://" ++ place
  else scheme ++ "://" ++ Percent.encode d.login ++ ":" ++ Percent.encode d.password ++ "@" ++ place

/-- The number that a text writes in decimal, with an optional plus sign, if it is below
`2 ^ 32`. -/
def index? (cs : List Char) : Option Nat :=
  let ds : List Char := match cs with
    | '+' :: rest => rest
    | cs => cs
  let n : Nat := ds.foldl (fun n c => n * 10 + (c.toNat - 0x30)) 0
  if ds.isEmpty ∨ !ds.all Char.isDigit ∨ Nat.pow 2 32 ≤ n then none else some n

/-- The database that the virtual host names on Redis; what is no number names the first. -/
def database (d : Descriptor) : Nat :=
  (index? (d.vhost.toList.dropWhile (· == '/'))).getD 0

/-- The credentials in a Redis URL. -/
def redisCredentials (d : Descriptor) : String :=
  if d.login.isEmpty && d.password.isEmpty then ""
  else if d.login.isEmpty then ":" ++ Percent.encode d.password ++ "@"
  else Percent.encode d.login ++ ":" ++ Percent.encode d.password ++ "@"

/-- The Redis URL. -/
def redisUrl (d : Descriptor) : String :=
  "redis://" ++ d.redisCredentials ++ d.host ++ ":" ++ toString d.port ++ "/" ++
    toString d.database

/-! ## Text -/

/-- The members in the order in which they are written. -/
def members (d : Descriptor) : List (String × Json) :=
  [("host", .string d.host), ("login", .string d.login), ("password", .string d.password),
    ("vhost", .string d.vhost), ("exchange", .string d.exchange), ("binding", .string d.binding),
    ("port", .int d.port.toNat), ("backend", .string d.backend),
    ("persistent_messages", .bool d.persistentMessages),
    ("result_expire", .int d.resultExpire.toNat),
    ("keep_messages_in_queue", .bool d.keepMessages),
    ("durable_result_queue", .bool d.durableResultQueue),
    ("wait_timeout_ms", .int d.waitTimeoutMillis.toNat)] ++
    (if d.tls.isEmpty then [] else [("ssl_options", d.tls.toJson)])

/-- The descriptor as a value. -/
def toJson (d : Descriptor) : Json := .object d.members

open Decode in
/-- Reads a descriptor; whatever is left out has its default. -/
def decode : Decoder Descriptor :=
  record "ConnectionDescriptor"
    [("host", check text), ("login", check text), ("password", check text),
      ("vhost", check text), ("exchange", check text), ("binding", check text),
      ("port", check uint16), ("backend", check text),
      ("persistent_messages", check bool), ("result_expire", check uint64),
      ("keep_messages_in_queue", check bool), ("durable_result_queue", check bool),
      ("wait_timeout_ms", check uint64), ("ssl_options", check TlsOptions.decode)]
    fun p => do
      let d : Descriptor := {}
      .ok {
        host := ← p.field "host" text d.host
        login := ← p.field "login" text d.login
        password := ← p.field "password" text d.password
        vhost := ← p.field "vhost" text d.vhost
        exchange := ← p.field "exchange" text d.exchange
        binding := ← p.field "binding" text d.binding
        port := ← p.field "port" uint16 d.port
        backend := ← p.field "backend" text d.backend
        persistentMessages := ← p.field "persistent_messages" bool d.persistentMessages
        resultExpire := ← p.field "result_expire" uint64 d.resultExpire
        keepMessages := ← p.field "keep_messages_in_queue" bool d.keepMessages
        durableResultQueue := ← p.field "durable_result_queue" bool d.durableResultQueue
        waitTimeoutMillis := ← p.field "wait_timeout_ms" uint64 d.waitTimeoutMillis
        tls := ← p.field "ssl_options" TlsOptions.decode d.tls }

end Descriptor
end TaskQueue
