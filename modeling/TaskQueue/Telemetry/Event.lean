/-!
# `TaskQueue.Telemetry.Event`: what is logged

An event is a message at some level with named fields. A span marks a stretch of work; it is
recorded when it begins.
-/

set_option autoImplicit false

namespace TaskQueue

/-- How important an event is. -/
inductive Level where
  | trace
  | debug
  | info
  | warn
  | error
deriving DecidableEq, Repr

namespace Level

/-- The name of the level. -/
def name : Level → String
  | trace => "TRACE"
  | debug => "DEBUG"
  | info => "INFO"
  | warn => "WARN"
  | error => "ERROR"

/-- Levels in order of importance. -/
def rank : Level → Nat
  | trace => 0
  | debug => 1
  | info => 2
  | warn => 3
  | error => 4

end Level

/-- The value of a field: something shown as it is, a text shown between quotes, or a flag. -/
inductive FieldValue where
  | shown (s : String)
  | text (s : String)
  | flag (b : Bool)
deriving DecidableEq, Repr

/-- The fields of an event, in the order given. -/
abbrev Fields := List (String × FieldValue)

/-- Something that is logged. -/
inductive Event where
  | message (level : Level) (text : String) (fields : Fields)
  | span (level : Level) (name : String) (fields : Fields)
deriving DecidableEq, Repr

namespace Event

/-- The span around the publication of a task. -/
def taskSpan (id name exchange : String) : Event :=
  .span .info "task"
    [("task_id", .shown id), ("task_name", .shown name), ("exchange", .shown exchange)]

/-- A task was published. -/
def taskSubmitted (id name exchange : String) : Event :=
  .message .info "Task submitted"
    [("task_id", .shown id), ("task_name", .shown name), ("exchange", .shown exchange),
      ("event", .text "task.submitted")]

/-- The result of a task was fetched. -/
def resultReady (id status : String) : Event :=
  .message .debug "Task result received"
    [("task_id", .shown id), ("status", .shown status), ("event", .text "result.ready")]

/-- The result of a task did not arrive in time. `limit` is the time in words. -/
def pollTimeout (id name limit : String) : Event :=
  .message .warn "Task result did not arrive in time"
    [("task_id", .shown id), ("task_name", .shown name), ("timeout", .shown limit),
      ("event", .text "result.timeout")]

end Event
end TaskQueue
