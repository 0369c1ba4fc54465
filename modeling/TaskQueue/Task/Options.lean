import TaskQueue.Json.Value
import TaskQueue.Task.Time

/-!
# `TaskQueue.Task.Options`: options of one submission

Every option has a default. Extensions are members that go into the envelope beside its own;
they are kept in a map. Some well-known extensions have setters of their own.
-/

set_option autoImplicit false

namespace TaskQueue

/-- The options of one submission. -/
structure TaskOptions where
  routingKey : Option String := none
  retries : Int := 0
  eta : Option TaskTime := none
  countdown : Option Nat := none
  expires : Option TaskTime := none
  extensions : Json.Map := .empty
deriving Repr, Inhabited

namespace TaskOptions

/-- Sets a member of the envelope. -/
def extension (o : TaskOptions) (key : String) (value : Json.Value) : TaskOptions :=
  { o with extensions := o.extensions.set key value }

/-- Says whether times are in UTC. -/
def utc (o : TaskOptions) (b : Bool) : TaskOptions := o.extension "utc" (.bool b)

/-- Links the task to a task set. -/
def taskset (o : TaskOptions) (id : String) : TaskOptions := o.extension "taskset" (.string id)

/-- Links the task to a chord. -/
def chord (o : TaskOptions) (id : String) : TaskOptions := o.extension "chord" (.string id)

/-- Names the tasks to run when the task succeeds. -/
def callbacks (o : TaskOptions) (names : List String) : TaskOptions :=
  o.extension "callbacks" (.array (names.map .string))

/-- Names the tasks to run when the task fails. -/
def errbacks (o : TaskOptions) (names : List String) : TaskOptions :=
  o.extension "errbacks" (.array (names.map .string))

end TaskOptions
end TaskQueue
