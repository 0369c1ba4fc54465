import TaskQueue.Config
import TaskQueue.Telemetry.Filter

/-!
# `TaskQueue.Telemetry.Logging`: logging of a process

Logging is configured by a level or a filter, by one of three formats, and by what a line shows
besides its message. It is installed once per process; a second installation fails.
-/

set_option autoImplicit false

namespace TaskQueue

/-- How events are written. -/
inductive LogFormat where
  | json
  | pretty
  | compact
deriving DecidableEq, Repr, Inhabited

/-- What is wrong with a configuration of logging, or with its installation. -/
inductive LoggingFault where
  | unknownFormat (name : String)
  | refused
deriving DecidableEq, Repr

/-- The fault in words. -/
def LoggingFault.message : LoggingFault → String
  | unknownFormat name => "Configuration error: unknown log format: " ++ name
  | refused => "Logging error"

namespace LogFormat

/-- The formats by name. -/
def names : List (String × LogFormat) :=
  [("json", json), ("pretty", pretty), ("compact", compact)]

/-- The name of the format. -/
def name : LogFormat → String
  | json => "json"
  | pretty => "pretty"
  | compact => "compact"

/-- The name in diagnostics. -/
def title : LogFormat → String
  | json => "Json"
  | pretty => "Pretty"
  | compact => "Compact"

/-- The format with a name in any case. -/
def ofName (s : String) : Except LoggingFault LogFormat :=
  let lower := Text.lower s
  match names.find? fun n => n.1 == lower with
  | some n => .ok n.2
  | none => .error (.unknownFormat lower)

end LogFormat

/-- The configuration of logging. -/
structure LoggingConfig where
  enabled : Bool := true
  level : String := "info"
  format : LogFormat := .compact
  showsLocation : Bool := false
  showsTarget : Bool := true
  filter : Option String := none
deriving DecidableEq, Repr, Inhabited

namespace LoggingConfig

/-- The configuration that the settings of a client ask for. -/
def ofSettings (s : LoggingSettings) : Except LoggingFault LoggingConfig :=
  (LogFormat.ofName s.format).map fun f => { level := s.level, format := f }

/-- The configuration as a value. -/
def toJson (c : LoggingConfig) : Json :=
  .object [("enabled", .bool c.enabled), ("level", .string c.level),
    ("format", .string c.format.name), ("include_location", .bool c.showsLocation),
    ("include_target", .bool c.showsTarget),
    ("env_filter", match c.filter with
      | some s => .string s
      | none => .null)]

open Decode in
/-- Reads a configuration. -/
def decode : Decoder LoggingConfig :=
  record "LoggingConfig"
    [("enabled", check bool), ("level", check text), ("format", check (choice LogFormat.names)),
      ("include_location", check bool), ("include_target", check bool),
      ("env_filter", check (optional text))]
    fun p => do
      .ok {
        enabled := ← p.required "enabled" bool
        level := ← p.required "level" text
        format := ← p.required "format" (choice LogFormat.names)
        showsLocation := ← p.required "include_location" bool
        showsTarget := ← p.required "include_target" bool
        filter := ← p.field "env_filter" (optional text) none }

/-- The filter that is used: the one given, or else the level. -/
def activeFilter? (c : LoggingConfig) : Option LogFilter :=
  LogFilter.parse? (c.filter.getD c.level)

end LoggingConfig

/-- The logging of a process: what is installed, if anything is. -/
abbrev Logging := Option (LoggingConfig × LogFilter)

namespace Logging

/-- Installs logging. A configuration that is not enabled changes nothing. -/
def install (installed : Logging) (c : LoggingConfig) : Except LoggingFault Logging :=
  if !c.enabled then .ok installed
  else
    match c.activeFilter? with
    | none => .error .refused
    | some f =>
      match installed with
      | some _ => .error .refused
      | none => .ok (some (c, f))

/-- Where the event about the installation comes from. -/
def target : String := "celeriac_telemetry::logging"

/-- What is logged once logging is installed. -/
def installedEvent (c : LoggingConfig) : Event :=
  .message .info
    ("Logging initialized with level: " ++ c.level ++ ", format: " ++ c.format.title) []

/-- When and where an event arose. -/
structure Origin where
  time : String
  file : String
  line : String
  target : String

/-- A level filled up to five columns. -/
def paddedLevel (l : Level) : String :=
  String.ofList (List.replicate (5 - l.name.length) ' ') ++ l.name

/-- A field value on a line of text. -/
def shownValue : FieldValue → String
  | .shown s => s
  | .text s => Text.quoted s
  | .flag b => toString b

/-- A field value in JSON. -/
def jsonValue : FieldValue → Json
  | .shown s => .string s
  | .text s => .string s
  | .flag b => .bool b

/-- An event in JSON. -/
def jsonLine (c : LoggingConfig) (o : Origin) (l : Level) (text : String) (fields : Fields) :
    String :=
  Json.text (.object (
    [("timestamp", .string o.time), ("level", .string l.name),
      ("fields", .object (("message", .string text) ::
        fields.map fun f => (f.1, jsonValue f.2)))] ++
    (if c.showsTarget then [("target", .string o.target)] else []) ++
    (if c.showsLocation then [("filename", .string o.file), ("line_number", .string o.line)]
      else [])))

/-- An event on one line. -/
def compactLine (c : LoggingConfig) (o : Origin) (l : Level) (text : String) (fields : Fields) :
    String :=
  o.time ++ " " ++ paddedLevel l ++ " " ++
    (if c.showsTarget then o.target ++ ": " else "") ++
    (if c.showsLocation then o.file ++ ":" ++ o.line ++ ": " else "") ++
    text ++ String.join (fields.map fun f => " " ++ f.1 ++ "=" ++ shownValue f.2)

/-- An event on several lines, the last of them empty. -/
def prettyLines (c : LoggingConfig) (o : Origin) (l : Level) (text : String) (fields : Fields) :
    List String :=
  ["  " ++ o.time ++ " " ++ paddedLevel l ++ " " ++
    (if c.showsTarget then o.target ++ ": " else " ") ++
    text ++ String.join (fields.map fun f => ", " ++ f.1 ++ ": " ++ shownValue f.2)] ++
  (if c.showsLocation then ["    at " ++ o.file ++ ":" ++ o.line] else []) ++ [""]

/-- The lines written for an event. -/
def lines (logging : Logging) (o : Origin) : Event → List String
  | .message level text fields =>
    match logging with
    | none => []
    | some (c, f) =>
      if f.shows o.target level then
        match c.format with
        | .json => [jsonLine c o level text fields]
        | .compact => [compactLine c o level text fields]
        | .pretty => prettyLines c o level text fields
      else []
  | .span .. => []

end Logging
end TaskQueue
