import TaskQueue.Task.Id
import TaskQueue.Telemetry.Event
import TaskQueue.Telemetry.Metrics
import TaskQueue.Time.Calendar

/-!
# `TaskQueue.World`: what surrounds a client

A client acts on a broker, takes time, makes ids, logs and counts. `World` holds all of this,
with the state of the broker left open. Every operation takes a world and returns the world
after it.

The clock counts nanoseconds. It moves when somebody sleeps, and a broker may take time for its
answers. Fresh ids come from a number that grows with each of them, so no id is made twice.
-/

set_option autoImplicit false

namespace TaskQueue

/-- The surroundings of a client. -/
structure World (β : Type) where
  broker : β
  clock : Nat
  /-- The time of day when the clock stood at zero. -/
  origin : Instant
  nextId : Nat
  journal : List Event
  metrics : Metrics
deriving Repr

namespace World

variable {β γ : Type}

/-- A world in which nothing has happened yet. -/
def start (broker : β) (origin : Instant) (firstId : Nat) : World β :=
  ⟨broker, 0, origin, firstId, [], {}⟩

/-- The same world around another broker. -/
def around (w : World β) (broker : γ) : World γ :=
  ⟨broker, w.clock, w.origin, w.nextId, w.journal, w.metrics⟩

/-- The time of day. -/
def now (w : World β) : Instant :=
  let nanos := w.origin.nanos + w.clock
  ⟨w.origin.seconds + (nanos / 1000000000 : Nat), nanos % 1000000000⟩

/-- Time passes. -/
def sleep (w : World β) (nanoseconds : Nat) : World β := { w with clock := w.clock + nanoseconds }

/-- Something is logged. -/
def note (w : World β) (e : Event) : World β := { w with journal := w.journal ++ [e] }

/-- Several things are logged. -/
def noteAll (w : World β) (es : List Event) : World β := { w with journal := w.journal ++ es }

/-- Something is counted. -/
def count (w : World β) (f : Metrics → Metrics) : World β := { w with metrics := f w.metrics }

/-- The broker changes. -/
def setBroker (w : World β) (broker : β) : World β := { w with broker }

/-- Makes an id. -/
def freshId (w : World β) : TaskId × World β :=
  (TaskId.fresh w.nextId, { w with nextId := w.nextId + 1 })

/-! ## What stays as it is

Sleeping, logging and counting leave the broker alone, and only sleeping takes time. -/

/-- Time passing does not change the broker. -/
@[simp] theorem broker_sleep (w : World β) (n : Nat) : (w.sleep n).broker = w.broker := rfl

/-- Neither does a log entry. -/
@[simp] theorem broker_note (w : World β) (e : Event) : (w.note e).broker = w.broker := rfl

/-- Nor do several. -/
@[simp] theorem broker_noteAll (w : World β) (es : List Event) :
    (w.noteAll es).broker = w.broker := rfl

/-- Nor does counting. -/
@[simp] theorem broker_count (w : World β) (f : Metrics → Metrics) :
    (w.count f).broker = w.broker := rfl

/-- A world whose broker was replaced has that broker. -/
@[simp] theorem broker_setBroker (w : World β) (b : β) : (w.setBroker b).broker = b := rfl

/-- A world around a broker has that broker. -/
@[simp] theorem broker_around (w : World β) (b : γ) : (w.around b).broker = b := rfl

/-- Sleeping moves the clock on by as much. -/
@[simp] theorem clock_sleep (w : World β) (n : Nat) : (w.sleep n).clock = w.clock + n := rfl

/-- A log entry takes no time. -/
@[simp] theorem clock_note (w : World β) (e : Event) : (w.note e).clock = w.clock := rfl

/-- Neither do several. -/
@[simp] theorem clock_noteAll (w : World β) (es : List Event) :
    (w.noteAll es).clock = w.clock := rfl

/-- Counting takes no time. -/
@[simp] theorem clock_count (w : World β) (f : Metrics → Metrics) :
    (w.count f).clock = w.clock := rfl

/-- Replacing the broker takes no time. -/
@[simp] theorem clock_setBroker (w : World β) (b : β) : (w.setBroker b).clock = w.clock := rfl

/-- The world around another broker keeps its clock. -/
@[simp] theorem clock_around (w : World β) (b : γ) : (w.around b).clock = w.clock := rfl

end World
end TaskQueue
