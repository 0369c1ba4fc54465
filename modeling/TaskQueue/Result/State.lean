/-!
# `TaskQueue.Result.State`: states of a task

A worker reports the state of a task as a text. Seven texts are known; any other is a state of
the application.
-/

set_option autoImplicit false

namespace TaskQueue

/-- The state of a task. -/
inductive TaskState where
  | pending
  | received
  | started
  | success
  | failure
  | retry
  | revoked
  | custom (status : String)
deriving DecidableEq, Repr, Inhabited

namespace TaskState

/-- The status of a task that succeeded. -/
def successStatus : String := "SUCCESS"

/-- The state that a status reports. -/
def ofStatus (status : String) : TaskState :=
  if status = "PENDING" then pending
  else if status = "RECEIVED" then received
  else if status = "STARTED" then started
  else if status = successStatus then success
  else if status = "FAILURE" then failure
  else if status = "RETRY" then retry
  else if status = "REVOKED" then revoked
  else custom status

/-- The status that reports a state. -/
def text : TaskState → String
  | pending => "PENDING"
  | received => "RECEIVED"
  | started => "STARTED"
  | success => successStatus
  | failure => "FAILURE"
  | retry => "RETRY"
  | revoked => "REVOKED"
  | custom status => status

/-- The status that a state was read from reports it. -/
@[simp] theorem text_ofStatus (status : String) : (ofStatus status).text = status := by
  unfold ofStatus
  repeat' split
  all_goals simp_all [text]

/-- The name of the state in diagnostics, without the status of a custom one. -/
def title : TaskState → String
  | pending => "Pending"
  | received => "Received"
  | started => "Started"
  | success => "Success"
  | failure => "Failure"
  | retry => "Retry"
  | revoked => "Revoked"
  | custom _ => "Custom"

/-- Whether the task has ended. -/
def isTerminal : TaskState → Bool
  | success | failure | revoked => true
  | _ => false

end TaskState
end TaskQueue
