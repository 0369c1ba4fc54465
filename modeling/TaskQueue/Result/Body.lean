import TaskQueue.Json.Decode
import TaskQueue.Result.State

/-!
# `TaskQueue.Result.Body`: what a worker reports

The body of a result is an object with a status, a result, a traceback, and further members
that are kept.
-/

set_option autoImplicit false

namespace TaskQueue

/-- A report of a worker. -/
structure ResultBody where
  status : String
  result : Json
  traceback : Option String
  extra : List (String × Json)
deriving Repr, Inhabited

namespace ResultBody

instance : BEq ResultBody where
  beq a b := a.status == b.status && a.result == b.result && a.traceback == b.traceback &&
    Json.beqMembers a.extra b.extra

/-- Whether the task succeeded. -/
def isSuccess (b : ResultBody) : Bool := b.status == TaskState.successStatus

/-- The state that the body reports. -/
def state (b : ResultBody) : TaskState := .ofStatus b.status

/-- The members in the order in which they are written. -/
def toJson (b : ResultBody) : Json :=
  .object ([("status", .string b.status), ("result", b.result),
    ("traceback", match b.traceback with
      | some s => .string s
      | none => .null)] ++ b.extra)

open Decode in
/-- Reads a body. -/
def decode : Decoder ResultBody :=
  openRecord "ResultBody"
    [("status", check text), ("result", check json), ("traceback", check (optional text))]
    fun p extra => do
      .ok {
        status := ← p.required "status" text
        result := ← p.field "result" json .null
        traceback := ← p.field "traceback" (optional text) none
        extra := extra.entries }

end ResultBody
end TaskQueue
