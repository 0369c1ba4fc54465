import TaskQueue.Connection.Descriptor
import TaskQueue.Toml.Document

/-!
# `TaskQueue.Config`: configuration of a client

A configuration names the broker, perhaps another result backend, and how to log. It is read
from a file, from the environment, or from both, and then the environment wins.
-/

set_option autoImplicit false

namespace TaskQueue

/-- How a client logs. -/
structure LoggingSettings where
  level : String := "info"
  format : String := "compact"
deriving DecidableEq, Repr, Inhabited

namespace LoggingSettings

/-- The settings as a value. -/
def toJson (s : LoggingSettings) : Json :=
  .object [("level", .string s.level), ("format", .string s.format)]

open Decode in
/-- Reads settings. -/
def decode : Decoder LoggingSettings :=
  record "LoggingSettings" [("level", check text), ("format", check text)] fun p => do
    let s : LoggingSettings := {}
    .ok { level := ← p.field "level" text s.level, format := ← p.field "format" text s.format }

end LoggingSettings

/-- The variables of an environment. -/
abbrev Environment := List (String × Bytes)

namespace Environment

/-- The value of a variable, if it is set to a text. -/
def get? (env : Environment) (name : String) : Option String :=
  (env.find? fun v => v.1 == name).bind fun v => Utf8.decode? v.2

end Environment

/-- The configuration of a client. -/
structure Config where
  broker : Descriptor := {}
  backend : Option Descriptor := none
  logging : LoggingSettings := {}
deriving Repr, Inhabited

namespace Config

/-- Where results are read: the backend, or else the broker. -/
def resultBackend (c : Config) : Descriptor := c.backend.getD c.broker

/-- The configuration as a value. -/
def toJson (c : Config) : Json :=
  .object [("broker", c.broker.toJson),
    ("backend", match c.backend with
      | some d => d.toJson
      | none => .null),
    ("logging", c.logging.toJson)]

open Decode in
/-- Reads a configuration. -/
def decode : Decoder Config :=
  record "Config"
    [("broker", check Descriptor.decode), ("backend", check (optional Descriptor.decode)),
      ("logging", check LoggingSettings.decode)]
    fun p => do
      .ok {
        broker := ← p.field "broker" Descriptor.decode {}
        backend := ← p.field "backend" (optional Descriptor.decode) none
        logging := ← p.field "logging" LoggingSettings.decode {} }

/-- Reads a configuration file. -/
def ofFile (files : Files) (path : String) : Except Error Config :=
  match files.readText path with
  | .error e => .error (.configuration ("Failed to read config file: " ++ e.message))
  | .ok s =>
    match Toml.decode decode s with
    | .ok c => .ok c
    | .error e => .error (.configuration ("Failed to parse config: " ++ e.message))

/-- The variables that count. -/
def brokerUrlVariable : String := "CELERIAC_BROKER_URL"

@[inherit_doc brokerUrlVariable]
def brokerBackendVariable : String := "CELERIAC_BROKER_BACKEND"

@[inherit_doc brokerUrlVariable]
def backendUrlVariable : String := "CELERIAC_BACKEND_URL"

@[inherit_doc brokerUrlVariable]
def logLevelVariable : String := "CELERIAC_LOG_LEVEL"

/-- A change that a variable makes if it is set. -/
def applyVariable (env : Environment) (name : String)
    (change : String → Config → Except Error Config) (c : Config) : Except Error Config :=
  match env.get? name with
  | some value => change value c
  | none => .ok c

/-- Takes the environment in. The broker URL comes before the backend name, which can so
change the backend of either. -/
def applyEnvironment (env : Environment) (c : Config) : Except Error Config := do
  let c ← applyVariable env brokerUrlVariable
    (fun url c => (Descriptor.ofUrl url).map fun d => { c with broker := d }) c
  let c ← applyVariable env brokerBackendVariable
    (fun name c => .ok { c with broker := { c.broker with backend := name } }) c
  let c ← applyVariable env backendUrlVariable
    (fun url c => (Descriptor.ofUrl url).map fun d => { c with backend := some d }) c
  applyVariable env logLevelVariable
    (fun level c => .ok { c with logging := { c.logging with level := level } }) c

/-- The configuration that the environment gives. -/
def ofEnvironment (env : Environment) : Except Error Config := applyEnvironment env {}

/-- The configuration of a file, if one is named, and of the environment. -/
def load (files : Files) (env : Environment) (path : Option String) : Except Error Config :=
  match path with
  | some p => do applyEnvironment env (← ofFile files p)
  | none => applyEnvironment env {}

end Config
end TaskQueue
