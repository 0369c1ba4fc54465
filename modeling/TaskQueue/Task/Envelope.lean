import TaskQueue.Json.Decode
import TaskQueue.Task.Arguments
import TaskQueue.Task.Id
import TaskQueue.Task.Options
import TaskQueue.Text.Lowercase

/-!
# `TaskQueue.Task.Envelope`: the document that submits a task

An envelope is an object with seven members of its own and any number of extensions beside
them. `Envelope.build` makes one from what a caller gives. It looks at the name, the
arguments, the extensions in the order of their keys, the countdown and the two times, in this
order, and the first fault decides.
-/

set_option autoImplicit false

namespace TaskQueue

/-- A task to be run by a worker. -/
structure Envelope where
  id : TaskId
  task : String
  args : List Json
  kwargs : List (String × Json)
  retries : UInt32
  eta : Option String
  expires : Option String
  extensions : List (String × Json)
deriving Repr, Inhabited

namespace Envelope

instance : BEq Envelope where
  beq a b := a.id == b.id && a.task == b.task && Json.beqItems a.args b.args &&
    Json.beqMembers a.kwargs b.kwargs && a.retries == b.retries && a.eta == b.eta &&
    a.expires == b.expires && Json.beqMembers a.extensions b.extensions

/-! ## Extensions -/

/-- Members of the envelope that no extension may set. -/
def reservedKeys : List String := ["id", "task", "args", "kwargs"]

/-- The greatest number of retries. -/
def maxRetries : Nat := Nat.pow 2 32 - 1

/-- An id given loosely: a text is taken as it is, `null` is no id, and any other value is
written out. -/
def looseId : Json → Option String
  | .null => none
  | .string s => some s
  | other => some other.text

/-- Whether a loosely given flag is set. -/
def isTruthy : Json → Bool
  | .null => false
  | .bool b => b
  | .int n => n != 0
  | .float x => !x.isZero
  | .string s => !(s == "" || s == "0" || Text.sameIgnoringAsciiCase s "false")
  | .array items => !items.isEmpty
  | .object members => !members.isEmpty

/-- A list of task names, if there is one. -/
def taskNames (field : String) : Json → Except Error (Option Json)
  | .null => .ok none
  | .array items =>
    match items.find? fun x => !x.isString with
    | some bad => .error (.invalidCallback field ("expected task names, found " ++ bad.text))
    | none => .ok (some (.array items))
  | other => .error (.invalidCallback field ("expected a list of task names, got " ++ other.text))

/-- What the extensions leave behind: they may set the retries and the times, and the others go
into the envelope. -/
structure Settings where
  retries : Int
  eta : Option TaskTime
  expires : Option TaskTime
  extensions : List (String × Json)

/-- Adds a member to the extensions. -/
def Settings.keep (s : Settings) (key : String) (value : Json) : Settings :=
  { s with extensions := s.extensions ++ [(key, value)] }

/-- A time that an extension gives counts only if there is none yet. -/
def lateTime (field : String) (value : Json) : Option TaskTime → Except Error (Option TaskTime)
  | some t => .ok (some t)
  | none => (TaskTime.ofJson field value).map some

/-- Takes one extension in. -/
def Settings.apply (s : Settings) (key : String) (value : Json) : Except Error Settings :=
  if reservedKeys.contains key then
    .error (.invalidArguments
      ("extension " ++ Error.ticked key ++ " would overwrite an envelope field"))
  else if key = "retries" then
    match value with
    | .int n =>
      if -(Nat.pow 2 63 : Int) ≤ n ∧ n < Nat.pow 2 63 then .ok { s with retries := n }
      else .error (.invalidArguments ("retries must be an integer, got " ++ value.text))
    | _ => .error (.invalidArguments ("retries must be an integer, got " ++ value.text))
  else if key = "eta" then (lateTime key value s.eta).map fun t => { s with eta := t }
  else if key = "expires" then (lateTime key value s.expires).map fun t => { s with expires := t }
  else if key = "taskset" ∨ key = "chord" then
    match looseId value with
    | some id => .ok (s.keep key (.string id))
    | none => .ok s
  else if key = "utc" then .ok (s.keep key (.bool (isTruthy value)))
  else if key = "callbacks" ∨ key = "errbacks" then
    match taskNames key value with
    | .ok (some names) => .ok (s.keep key names)
    | .ok none => .ok s
    | .error e => .error e
  else .ok (s.keep key value)

/-- Takes the extensions in, one after the other. -/
def Settings.applyAll (s : Settings) : List (String × Json) → Except Error Settings
  | [] => .ok s
  | (key, value) :: rest =>
    match s.apply key value with
    | .ok s' => s'.applyAll rest
    | .error e => .error e

/-! ## Building -/

/-- The time before which the task does not run: one that was given, or else the end of the
countdown. -/
def startTime (now : Instant) (eta : Option TaskTime) (countdown : Option Nat) :
    Except Error (Option TaskTime) :=
  match eta, countdown with
  | none, some seconds => (TaskTime.countdown now seconds).map fun t => some (.at t)
  | eta, _ => .ok eta

/-- Writes a time out, if there is one. -/
def writtenTime (field : String) : Option TaskTime → Except Error (Option String)
  | none => .ok none
  | some t => (t.normalize field).map some

/-- The number of retries, brought into its range. -/
def clampRetries (n : Int) : UInt32 := .ofNat (min n.toNat maxRetries)

/-- Builds the envelope of a task with a given id. -/
def build (now : Instant) (id : TaskId) (task : String) (arguments : Json.Value) (o : TaskOptions) :
    Except Error Envelope :=
  if Text.trimChars task.toList = [] then
    .error (.invalidArguments "task name must not be empty")
  else do
    let arguments ← Arguments.classify arguments.json
    let s ← Settings.applyAll ⟨o.retries, o.eta, o.expires, []⟩ o.extensions.entries
    let eta ← startTime now s.eta o.countdown
    let eta ← writtenTime "eta" eta
    let expires ← writtenTime "expires" s.expires
    .ok ⟨id, task, arguments.items, arguments.members, clampRetries s.retries, eta, expires,
      s.extensions⟩

/-! ## Text -/

/-- A member that is left out when there is no value. -/
def optionalMember (key : String) : Option String → List (String × Json)
  | none => []
  | some s => [(key, .string s)]

/-- The members in the order in which they are written. -/
def members (e : Envelope) : List (String × Json) :=
  [("id", .string e.id.text), ("task", .string e.task), ("args", .array e.args),
    ("kwargs", .object e.kwargs), ("retries", .int e.retries.toNat)] ++
    optionalMember "eta" e.eta ++ optionalMember "expires" e.expires ++ e.extensions

/-- The envelope as a value. -/
def toJson (e : Envelope) : Json := .object e.members

/-- The envelope as it is published. -/
def toBytes (e : Envelope) : Bytes := Utf8.encode e.toJson.text

open Decode in
/-- Reads an envelope. -/
def decode : Decoder Envelope :=
  openRecord "TaskEnvelope"
    [("id", check text), ("task", check text), ("args", check jsonList),
      ("kwargs", check jsonObject), ("retries", check uint32),
      ("eta", check (optional text)), ("expires", check (optional text))]
    fun p extensions => do
      .ok {
        id := ⟨← p.required "id" text⟩
        task := ← p.required "task" text
        args := ← p.field "args" jsonList []
        kwargs := ← p.field "kwargs" jsonObject []
        retries := ← p.field "retries" uint32 0
        eta := ← p.field "eta" (optional text) none
        expires := ← p.field "expires" (optional text) none
        extensions := extensions.entries }

/-- Reads a published envelope. -/
def ofBytes (bs : Bytes) : Except Error Envelope :=
  match Decode.bytes decode bs with
  | .ok e => .ok e
  | .error f => .error (.serialization f.message)

/-- The arguments as text. -/
def argumentsText (e : Envelope) : String :=
  if e.kwargs.isEmpty then (Json.array e.args).text else (Json.object e.kwargs).text

end Envelope
end TaskQueue
