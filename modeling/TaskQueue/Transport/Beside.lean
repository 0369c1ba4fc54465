import TaskQueue.Transport.Network

/-!
# `TaskQueue.Transport.Beside`: a broker with the network beside it

A client that was given a transport of its own can still lose it: a handle that is restored
without it takes its connectors from the registry, and these lead to the network.
`Transport.beside` is the given transport together with the network.
-/

set_option autoImplicit false

namespace TaskQueue
namespace Transport

variable {κ β : Type}

/-- The world as a given broker meets it. -/
def nearWorld (w : World (β × Network)) : World β := w.around w.broker.1

/-- The world as the network meets it. -/
def farWorld (w : World (β × Network)) : World Network := w.around w.broker.2

/-- The world after a given broker has changed it. -/
def withNear (w : World (β × Network)) (v : World β) : World (β × Network) :=
  v.around (v.broker, w.broker.2)

/-- The world after the network has changed it. -/
def withFar (w : World (β × Network)) (v : World Network) : World (β × Network) :=
  v.around (w.broker.1, v.broker)

/-- Does something with a connector of either side. -/
def onSide {α : Type} (w : World (β × Network)) (c : κ ⊕ Connector)
    (near : κ → World β → α × κ × World β)
    (far : Connector → World Network → α × Connector × World Network) :
    α × (κ ⊕ Connector) × World (β × Network) :=
  match c with
  | .inl c =>
    let (a, c, v) := near c (nearWorld w)
    (a, .inl c, withNear w v)
  | .inr c =>
    let (a, c, v) := far c (farWorld w)
    (a, .inr c, withFar w v)

/-- Connectors of a given transport, and of the network when they come from anywhere else. -/
def beside (t : Transport κ β) : Transport (κ ⊕ Connector) (β × Network) where
  create s d w :=
    match s with
    | .given =>
      let (r, v) := t.create s d (nearWorld w)
      (r.map .inl, withNear w v)
    | s =>
      let (r, v) := Network.transport.create s d (farWorld w)
      (r.map .inr, withFar w v)
  kind := Sum.elim t.kind Network.transport.kind
  descriptor := Sum.elim t.descriptor Network.transport.descriptor
  isConnected := Sum.elim t.isConnected Network.transport.isConnected
  connect c w := onSide w c t.connect Network.transport.connect
  publish c routingKey body properties w :=
    onSide w c (fun c => t.publish c routingKey body properties)
      fun c => Network.transport.publish c routingKey body properties
  fetch c id remove w :=
    onSide w c (fun c => t.fetch c id remove) fun c => Network.transport.fetch c id remove
  close c w := onSide w c t.close Network.transport.close

end Transport
end TaskQueue
