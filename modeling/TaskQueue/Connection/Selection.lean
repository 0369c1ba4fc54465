import TaskQueue.Connection.Descriptor
import TaskQueue.Telemetry.Event

/-!
# `TaskQueue.Connection.Selection`: choosing a backend

A backend asked for by name has to be known and usable. Without a name, an encrypted connection
takes the TLS backend, and a plain one the first usable of native, AMQP and Redis. Nothing but
the descriptor and the capabilities counts.
-/

set_option autoImplicit false

namespace TaskQueue

/-- The backends that can be used. -/
structure Capabilities where
  native : Bool
  amqp : Bool
  amqpTls : Bool
  redis : Bool
deriving DecidableEq, Repr

namespace Capabilities

/-- No backend. -/
def empty : Capabilities := ⟨false, false, false, false⟩

/-- Every backend. -/
def all : Capabilities := ⟨true, true, true, true⟩

/-- Says whether a backend can be used. -/
def set (c : Capabilities) (kind : BackendKind) (b : Bool) : Capabilities :=
  match kind with
  | .native => { c with native := b }
  | .amqp => { c with amqp := b }
  | .amqpTls => { c with amqpTls := b }
  | .redis => { c with redis := b }

/-- Adds a backend. -/
def add (c : Capabilities) (kind : BackendKind) : Capabilities := c.set kind true

/-- Takes a backend away. -/
def remove (c : Capabilities) (kind : BackendKind) : Capabilities := c.set kind false

/-- Exactly these backends. -/
def ofList (kinds : List BackendKind) : Capabilities := kinds.foldl add empty

/-- Whether a backend can be used. -/
def supports (c : Capabilities) : BackendKind → Bool
  | .native => c.native
  | .amqp => c.amqp
  | .amqpTls => c.amqpTls
  | .redis => c.redis

/-- The backends that can be used. -/
def toList (c : Capabilities) : List BackendKind := BackendKind.all.filter c.supports

/-- The backends for plain connections, the preferred one first. -/
def plainPreference : List BackendKind := [.native, .amqp, .redis]

/-- Chooses a backend. -/
def select (c : Capabilities) (explicit : Option String) (wantsTls : Bool) :
    Except Error BackendKind :=
  match explicit with
  | some name =>
    match BackendKind.ofName name with
    | .error e => .error e
    | .ok kind => if c.supports kind then .ok kind else .error (.backendUnavailable kind.name)
  | none =>
    if wantsTls then
      if c.supports .amqpTls then .ok .amqpTls else .error .noBackendAvailable
    else
      match plainPreference.find? c.supports with
      | some kind => .ok kind
      | none => .error .noBackendAvailable

/-- What is logged about a choice: a backend asked for by name may be unable to encrypt. -/
def selectionEvents (explicit : Option String) (wantsTls : Bool) :
    Except Error BackendKind → List Event
  | .ok kind =>
    if explicit.isSome && wantsTls && !kind.supportsTls then
      [.message .warn "TLS options are ignored by the requested backend"
        [("backend", .shown kind.name)]]
    else []
  | .error _ => []

/-- The backend for a descriptor. -/
def resolve (c : Capabilities) (d : Descriptor) : Except Error BackendKind :=
  c.select d.explicitBackend d.wantsTls

/-- What is logged when the backend for a descriptor is chosen. -/
def resolutionEvents (c : Capabilities) (d : Descriptor) : List Event :=
  selectionEvents d.explicitBackend d.wantsTls (c.resolve d) ++
    match c.resolve d with
    | .ok kind =>
      [.message .debug "Selected backend"
        [("backend", .shown kind.name), ("endpoint", .shown d.endpoint)]]
    | .error _ => []

end Capabilities
end TaskQueue
