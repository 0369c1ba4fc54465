import TaskQueue.Client.Handle
import TaskQueue.Client.Producer

/-!
# `TaskQueue.Client.Basic`: clients

A client has one connector to the broker of tasks and one to the backend of results. Both are
made when the client is, and connected when they are first needed.
-/

set_option autoImplicit false

namespace TaskQueue

/-- A client. -/
structure Client (κ : Type) where
  broker : κ
  backend : κ
deriving Repr

/-- A task that was submitted, with a handle if one was asked for. -/
inductive Submitted (κ : Type) where
  | result (h : Handle κ)
  | sent (id : TaskId)
deriving Repr

/-- The id of the task. -/
def Submitted.id {κ : Type} : Submitted κ → TaskId
  | result h => h.id
  | sent id => id

namespace Client

variable {κ β : Type}

/-- What is logged when a client is made. -/
def createdEvent (t : Transport κ β) (c : Client κ) : Event :=
  .message .info ("Celery client created for " ++ (t.descriptor c.broker).endpoint)
    [("broker", .shown (t.kind c.broker).name), ("backend", .shown (t.kind c.backend).name)]

/-- Makes a client. -/
def create (t : Transport κ β) (broker backend : Descriptor) (w : World β) :
    Except Error (Client κ) × World β :=
  match t.create .given broker w with
  | (.error e, w) => (.error e, w)
  | (.ok broker, w) =>
    match t.create .given backend w with
    | (.error e, w) => (.error e, w)
    | (.ok backend, w) =>
      let c : Client κ := ⟨broker, backend⟩
      (.ok c, w.note (c.createdEvent t))

/-- Connects to the broker of tasks. -/
def connect (t : Transport κ β) (c : Client κ) (w : World β) :
    Except Error Unit × Client κ × World β :=
  match t.connect c.broker w with
  | (r, broker, w) => (r.mapError ConnectorError.toError, { c with broker }, w)

/-- Why arguments that cannot be written as JSON are refused. -/
def unrepresentable (reason : String) : Error :=
  .invalidArguments ("arguments are not JSON-representable: " ++ reason)

/-- Submits a task. Arguments that have no JSON form come as the reason why. -/
def post (t : Transport κ β) (c : Client κ) (task : String) (arguments : Except String Json.Value)
    (o : TaskOptions) (wantResult : Bool) (w : World β) :
    Except Error (Submitted κ) × Client κ × World β :=
  match arguments with
  | .error reason => (.error (unrepresentable reason), c, w)
  | .ok arguments =>
    match Producer.submit t c.broker task arguments o w with
    | (.error e, broker, w) => (.error e, { c with broker }, w)
    | (.ok e, broker, w) =>
      let submitted : Submitted κ :=
        if wantResult then
          .result (.new e.id e.task e.argumentsText (t.descriptor c.backend) .given)
        else .sent e.id
      (.ok submitted, { c with broker }, w)

/-- Asks once for the result of a task and hands over the message as it is. -/
def fetchMessage (t : Transport κ β) (c : Client κ) (taskName : String) (id : TaskId)
    (remove : Bool) (w : World β) : Except Error (Option ResultMessage) × Client κ × World β :=
  match t.connect c.backend w with
  | (.error e, backend, w) => (.error e.toError, { c with backend }, w)
  | (.ok (), backend, w) =>
    match t.fetch backend id remove w with
    | (.error e, backend, w) => (.error e.toError, { c with backend }, w)
    | (.ok found, backend, w) =>
      (.ok found, { c with backend }, w.note (.message .debug "Fetched result message"
        [("task_id", .shown id.text), ("task_name", .text taskName),
          ("ready", .flag found.isSome)]))

/-- Closes both connectors; the second only if the first could be closed. -/
def close (t : Transport κ β) (c : Client κ) (w : World β) :
    Except Error Unit × Client κ × World β :=
  match t.close c.broker w with
  | (.error e, broker, w) => (.error e.toError, { c with broker }, w)
  | (.ok (), broker, w) =>
    match t.close c.backend w with
    | (r, backend, w) => (r.mapError ConnectorError.toError, ⟨broker, backend⟩, w)

/-- The client in diagnostics. -/
def debugText (t : Transport κ β) (c : Client κ) : String :=
  "Celery \x7b broker: " ++ (t.kind c.broker).title ++ ", backend: " ++
    (t.kind c.backend).title ++ " \x7d"

end Client
end TaskQueue
