import TaskQueue.Text.Quoted
import TaskQueue.Transport.Basic

/-!
# `TaskQueue.Client.Handle`: handles of submitted tasks

A handle stands for the result of one task. It opens a connector when it first needs one, and
asks the broker for the result until it gets it. From then on the result is kept in the handle,
and the broker is not asked again.

`Handle.isReady` asks at most once. `Handle.get` asks again and again, until the result is there
or a time limit is over. How often it asks at most is up to the caller; without a limit it might
ask for ever.

A handle can be written down and read back. Its connector is left out.
-/

set_option autoImplicit false

namespace TaskQueue

/-- The result of a task, to be awaited. -/
structure Handle (κ : Type) where
  id : TaskId
  taskName : String
  /-- The arguments as text. -/
  arguments : String
  /-- Where the result arrives. -/
  descriptor : Descriptor
  body : Option ResultBody
  connector : Option κ
  source : Source
deriving Repr

namespace Handle

variable {κ β : Type}

/-- A handle that has not asked yet. -/
def new (id : TaskId) (taskName arguments : String) (descriptor : Descriptor) (source : Source) :
    Handle κ :=
  ⟨id, taskName, arguments, descriptor, none, none, source⟩

/-! ## What is known -/

/-- The body, which an accessor needs. -/
def cached (h : Handle κ) (accessor : String) : Except Error ResultBody :=
  match h.body with
  | some b => .ok b
  | none => .error (.prematureAccess accessor)

/-- The status that the worker reported. -/
def status (h : Handle κ) : Except Error String := (h.cached "status").map (·.status)

/-- The result of the task. -/
def result (h : Handle κ) : Except Error Json := (h.cached "result").map (·.result)

/-- The traceback of the task, if it failed with one. -/
def traceback (h : Handle κ) : Except Error (Option String) :=
  (h.cached "traceback").map (·.traceback)

/-- The state of the task, as far as it is known. -/
def state (h : Handle κ) : TaskState :=
  match h.body with
  | some b => b.state
  | none => .pending

/-! ## Asking -/

/-- Opens a connector, unless there is one. -/
def opened (t : Transport κ β) (h : Handle κ) (w : World β) : Except Error κ × World β :=
  match h.connector with
  | some c => (.ok c, w)
  | none => t.create h.source h.descriptor w

/-- Sees to it that there is a connector and that it is connected. -/
def connected (t : Transport κ β) (h : Handle κ) (w : World β) :
    Except Error κ × Handle κ × World β :=
  match h.opened t w with
  | (.error e, w) => (.error e, h, w)
  | (.ok c, w) =>
    match t.connect c w with
    -- A connector that could not be connected is kept, and connected at the next look.
    | (.error e, c, w) => (.error e.toError, { h with connector := some c }, w)
    | (.ok (), c, w) => (.ok c, { h with connector := some c }, w)

/-- Takes in what a fetch found. -/
def receive (h : Handle κ) (backend : String)
    (found : Except ConnectorError (Option ResultMessage)) (w : World β) :
    Except Error Bool × Handle κ × World β :=
  match found with
  | .ok none => (.ok false, h, w.count (·.resultFetched backend .notReady))
  | .error (.malformed reason) =>
    (.error (.malformedResult reason), h, w.count (·.resultFetched backend .malformed))
  | .error e => (.error e.toError, h, w)
  | .ok (some message) =>
    match message.decode with
    | .error e => (.error e, h, w.count (·.resultFetched backend .malformed))
    | .ok body =>
      (.ok true, { h with body := some body },
        (w.count (·.resultFetched backend .ready)).note (.resultReady h.id.text body.status))

/-- Asks the broker once for the result. -/
def ask (t : Transport κ β) (h : Handle κ) (w : World β) :
    Except Error Bool × Handle κ × World β :=
  match h.connected t w with
  | (.error e, h, w) => (.error e, h, w)
  | (.ok c, h, w) =>
    match t.fetch c h.id h.descriptor.removesResults w with
    | (found, c', w) => { h with connector := some c' }.receive (t.kind c).name found w

/-- Whether the result is there. The broker is asked only if the result is not known. -/
def isReady (t : Transport κ β) (h : Handle κ) (w : World β) :
    Except Error Bool × Handle κ × World β :=
  match h.body with
  | some _ => (.ok true, h, w)
  | none => h.ask t w

/-- The result if it is there. -/
def resultIfReady (t : Transport κ β) (h : Handle κ) (w : World β) :
    Except Error (Option Json) × Handle κ × World β :=
  match h.isReady t w with
  | (.error e, h, w) => (.error e, h, w)
  | (.ok true, h, w) => (.ok (h.body.map (·.result)), h, w)
  | (.ok false, h, w) => (.ok none, h, w)

/-- Whether the result is there and meets a condition. -/
def isReadyAnd (t : Transport κ β) (condition : ResultBody → Bool) (h : Handle κ) (w : World β) :
    Except Error Bool × Handle κ × World β :=
  match h.isReady t w with
  | (.error e, h, w) => (.error e, h, w)
  | (.ok true, h, w) => ((h.cached "status").map condition, h, w)
  | (.ok false, h, w) => (.ok false, h, w)

/-- Whether the task has succeeded. -/
def isSuccess (t : Transport κ β) (h : Handle κ) (w : World β) :
    Except Error Bool × Handle κ × World β :=
  h.isReadyAnd t (·.isSuccess) w

/-- Whether the task has reported anything else than success. -/
def failed (t : Transport κ β) (h : Handle κ) (w : World β) :
    Except Error Bool × Handle κ × World β :=
  h.isReadyAnd t (fun b => !b.isSuccess) w

/-! ## Waiting -/

/-- The first time, in nanoseconds, that the clock cannot show. -/
def endOfTime : Nat := Nat.pow 2 63 * 1000000000

/-- When a time limit is over. What the clock cannot show never comes. -/
def deadline? (now : Nat) (limit : Duration) : Option Nat :=
  if now + limit.nanoseconds < endOfTime then some (now + limit.nanoseconds) else none

/-- The error when a time limit is over. -/
def timeoutError (h : Handle κ) (limit : Duration) : Error :=
  .timeout h.taskName h.arguments limit

/-- The world after a time limit was over. -/
def timedOut (h : Handle κ) (limit : Duration) (w : World β) : World β :=
  (w.count (·.pollTimedOut h.taskName)).note (.pollTimeout h.id.text h.taskName limit.text)

/-- Asks up to so many times for the result, with pauses between. The last pause ends at the
deadline. There is no outcome if the result did not come and the deadline was not reached. -/
def poll (t : Transport κ β) (limit interval : Duration) (deadline : Option Nat) :
    (tries : Nat) → Handle κ → World β → Option (Except Error Json) × Handle κ × World β
  | 0, h, w => (none, h, w)
  | tries + 1, h, w =>
    match h.isReady t w with
    | (.error e, h, w) => (some (.error e), h, w)
    | (.ok true, h, w) => (some h.result, h, w)
    | (.ok false, h, w) =>
      match deadline with
      | none => poll t limit interval deadline tries h (w.sleep interval.nanoseconds)
      | some end_ =>
        -- The time is asked for after the look, so there is one even if no time is left.
        if end_ ≤ w.clock then (some (.error (h.timeoutError limit)), h, h.timedOut limit w)
        else
          poll t limit interval deadline tries h
            (w.sleep (min interval.nanoseconds (end_ - w.clock)))

/-- Waits for the result until a time limit is over, asking at intervals. -/
def get (t : Transport κ β) (tries : Nat) (limit interval : Duration) (h : Handle κ)
    (w : World β) : Option (Except Error Json) × Handle κ × World β :=
  poll t limit interval (deadline? w.clock limit) tries h w

/-- The usual time limit. -/
def usualLimit : Duration := .ofSeconds 10

/-- The usual interval. -/
def usualInterval : Duration := .ofMillis 500

/-! ## The rest -/

/-- Does nothing: results expire at the broker. -/
def forget (h : Handle κ) (w : World β) : World β :=
  w.note (.message .debug "forget is a no-op" [("task_id", .shown h.id.text)])

/-- Does nothing: workers are not reached from here. -/
def revoke (h : Handle κ) (w : World β) : World β :=
  w.note (.message .debug "revoke is a no-op" [("task_id", .shown h.id.text)])

/-- Lets go of the connector, if there is one. -/
def close (t : Transport κ β) (h : Handle κ) (w : World β) :
    Except Error Unit × Handle κ × World β :=
  match h.connector with
  | none => (.ok (), h, w)
  | some c =>
    match t.close c w with
    -- The connector is let go of even if it cannot be closed.
    | (.error e, _, w) => (.error e.toError, { h with connector := none }, w)
    | (.ok (), _, w) => (.ok (), { h with connector := none }, w)

/-! ## Text -/

/-- A state in diagnostics. -/
def stateText : TaskState → String
  | .custom status => "Custom(" ++ Text.quoted status ++ ")"
  | s => s.title

/-- Whether there is a connector, and whether it is connected. -/
def connectionText (t : Transport κ β) (h : Handle κ) : String :=
  match h.connector with
  | none => "None"
  | some c => if t.isConnected c then "Some(true)" else "Some(false)"

/-- The handle in diagnostics. -/
def debugText (t : Transport κ β) (h : Handle κ) : String :=
  "AsyncResult \x7b task_id: TaskId(" ++ Text.quoted h.id.text ++ "), task_name: " ++
    Text.quoted h.taskName ++ ", state: " ++ stateText h.state ++ ", connected: " ++
    h.connectionText t ++ " \x7d"

/-- The members in the order in which they are written. -/
def members (h : Handle κ) : List (String × Json) :=
  [("task_id", .string h.id.text), ("task_name", .string h.taskName),
    ("args", .string h.arguments), ("descriptor", h.descriptor.toJson)] ++
    match h.body with
    | some b => [("body", b.toJson)]
    | none => []

/-- The handle as a value. -/
def toJson (h : Handle κ) : Json := .object h.members

/-- The handle as text. -/
def serialized (h : Handle κ) : String := h.toJson.text

open Decode in
/-- Reads a handle, which takes its connectors from a source. -/
def decode (source : Source) : Decoder (Handle κ) :=
  record "AsyncResult"
    [("task_id", check text), ("task_name", check text), ("args", check text),
      ("descriptor", check Descriptor.decode), ("body", check (optional ResultBody.decode))]
    fun p => do
      .ok {
        id := ⟨← p.required "task_id" text⟩
        taskName := ← p.required "task_name" text
        arguments := ← p.required "args" text
        descriptor := ← p.required "descriptor" Descriptor.decode
        body := ← p.field "body" (optional ResultBody.decode) none
        connector := none
        source := source }

/-- Reads the text of a handle. -/
def ofText (source : Source) (s : String) : Except Fault (Handle κ) :=
  Decode.string (decode source) s

/-- Reads the bytes of a handle's text. -/
def ofBytes (source : Source) (bs : Bytes) : Except Fault (Handle κ) :=
  Decode.bytes (decode source) bs

end Handle
end TaskQueue
