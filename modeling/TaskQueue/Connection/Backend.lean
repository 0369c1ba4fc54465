import TaskQueue.Error
import TaskQueue.Text.Lowercase

/-!
# `TaskQueue.Connection.Backend`: the kinds of connectors

There are four kinds of connectors. Each has a canonical name; in configuration the name may be
written in any case, and `amqps` is another name for `amqp-tls`.
-/

set_option autoImplicit false

namespace TaskQueue

/-- A kind of connector: AMQP over pooled connections, AMQP with a connection per operation,
the same over TLS, and Redis. -/
inductive BackendKind where
  | native
  | amqp
  | amqpTls
  | redis
deriving DecidableEq, Repr, Inhabited

namespace BackendKind

/-- All kinds. -/
def all : List BackendKind := [native, amqp, amqpTls, redis]

/-- The canonical name. -/
def name : BackendKind → String
  | native => "native"
  | amqp => "amqp"
  | amqpTls => "amqp-tls"
  | redis => "redis"

/-- The name in diagnostics. -/
def title : BackendKind → String
  | native => "Native"
  | amqp => "Amqp"
  | amqpTls => "AmqpTls"
  | redis => "Redis"

/-- Whether connections can be encrypted. -/
def supportsTls : BackendKind → Bool
  | amqpTls => true
  | _ => false

/-- The kind with a name in small letters. -/
def ofLower? (s : String) : Option BackendKind :=
  if s = "native" then some native
  else if s = "amqp" then some amqp
  else if s = "amqp-tls" ∨ s = "amqps" then some amqpTls
  else if s = "redis" then some redis
  else none

/-- The kind with a name in any case. -/
def ofName (s : String) : Except Error BackendKind :=
  match ofLower? (Text.lower s) with
  | some kind => .ok kind
  | none => .error (.unknownBackend s)

end BackendKind
end TaskQueue
