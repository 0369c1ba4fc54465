import TaskQueue.Connection.Descriptor
import TaskQueue.Task.Properties
import TaskQueue.World

/-!
# `TaskQueue.Transport.Basic`: ways to a broker

A transport opens connectors and works with them. A connector belongs to one descriptor and is
connected before it is used; each operation returns the connector after it, whether it
succeeded or not.

* `publish` hands one envelope to the broker and says whether the broker accepted it.
* `fetch` looks once for the result of a task. It finds a message or nothing; it removes the
  message if asked to.

Connectors come from the source that a client was given, from the registry of backends, or from
a backend that is named outright.
-/

set_option autoImplicit false

namespace TaskQueue

/-- Where a connector comes from. -/
inductive Source where
  | given
  | registry
  | kind (k : BackendKind)
deriving DecidableEq, Repr

/-- A way to a broker, with connectors `κ` to a broker in state `β`. -/
structure Transport (κ β : Type) where
  create : Source → Descriptor → World β → Except Error κ × World β
  kind : κ → BackendKind
  descriptor : κ → Descriptor
  isConnected : κ → Bool
  connect : κ → World β → Except ConnectorError Unit × κ × World β
  publish : κ → String → Bytes → PublishProperties → World β →
    Except ConnectorError Bool × κ × World β
  fetch : κ → TaskId → Bool → World β →
    Except ConnectorError (Option ResultMessage) × κ × World β
  close : κ → World β → Except ConnectorError Unit × κ × World β

end TaskQueue
