import TaskQueue.Error
import TaskQueue.Telemetry.Event

/-!
# `TaskQueue.Dialogue`: what is said to a broker

A connector that talks to a broker sends requests and goes on by the answers. `Dialogue` keeps
this apart from any broker: it is the tree of everything the connector may say. Each request
`q` has a type of answers `A q`, and the connector must be ready for all of them.

`run` holds the dialogue with somebody who answers, and returns the outcome with the events
that were logged. An answering party has a state, so it may be a broker, a broker shared with
others, or any sequence of successes and failures.
-/

set_option autoImplicit false

namespace TaskQueue

/-- A dialogue with requests `Q` and answers `A`, which comes to an `α`. -/
inductive Dialogue (Q : Type) (A : Q → Type) (α : Type) where
  | done (a : α)
  | note (e : Event) (next : Dialogue Q A α)
  | ask (q : Q) (next : A q → Dialogue Q A α)

namespace Dialogue

variable {Q : Type} {A : Q → Type} {α β σ : Type}

/-- Goes on with another dialogue. -/
def bind : Dialogue Q A α → (α → Dialogue Q A β) → Dialogue Q A β
  | done a, f => f a
  | note e d, f => note e (bind d f)
  | ask q k, f => ask q fun a => bind (k a) f

instance : Monad (Dialogue Q A) where
  pure := done
  bind := bind

/-- Logs an event. -/
def log (e : Event) : Dialogue Q A Unit := note e (done ())

/-- Holds the dialogue with a party that answers. -/
def run (answer : (q : Q) → σ → A q × σ) : Dialogue Q A α → σ → α × List Event × σ
  | done a, s => (a, [], s)
  | note e d, s =>
    let (a, events, s) := run answer d s
    (a, e :: events, s)
  | ask q k, s =>
    let (reply, s) := answer q s
    run answer (k reply) s

end Dialogue

/-- A dialogue that may fail. -/
abbrev Attempt (Q : Type) (A : Q → Type) (α : Type) := ExceptT ConnectorError (Dialogue Q A) α

namespace Attempt

variable {Q : Type} {A : Q → Type} {α : Type}

/-- Logs an event. -/
def log (e : Event) : Attempt Q A Unit := ExceptT.lift (Dialogue.log e)

/-- Fails. -/
def fail (e : ConnectorError) : Attempt Q A α := ExceptT.mk (.done (.error e))

/-- Takes a result. -/
def ofExcept (r : Except ConnectorError α) : Attempt Q A α := ExceptT.mk (.done r)

end Attempt
end TaskQueue
