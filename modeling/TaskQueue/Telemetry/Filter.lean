import TaskQueue.Telemetry.Event
import TaskQueue.Text.Lowercase

/-!
# `TaskQueue.Telemetry.Filter`: which events are shown

A filter is a list of directives with commas between them. A directive is a level, or a target
with an optional level. The directive with the longest target that an event's target begins
with decides; without one the bare level does, and without that nothing is shown.
-/

set_option autoImplicit false

namespace TaskQueue

/-- The least importance that is shown; `none` shows nothing. -/
abbrev Threshold := Option Level

/-- A directive: a target, or the empty text for every target, and a threshold. -/
structure Directive where
  target : List Char
  threshold : Threshold
deriving Repr

namespace Directive

/-- The thresholds by name. -/
def names : List (String × Threshold) :=
  [("trace", some .trace), ("debug", some .debug), ("info", some .info), ("warn", some .warn),
    ("error", some .error), ("off", none), ("0", none), ("1", some .error), ("2", some .warn),
    ("3", some .info), ("4", some .debug), ("5", some .trace)]

/-- The threshold with a name in any case. -/
def threshold? (cs : List Char) : Option Threshold :=
  (names.find? fun n => Text.sameIgnoringAsciiCase n.1 (String.ofList cs)).map (·.2)

/-- Whether the character may stand in a target. -/
def isTargetChar (c : Char) : Bool :=
  c.isAlphanum || c == '_' || c == ':' || c == '-' || 0x80 ≤ c.toNat

/-- Reads a directive. -/
def parse? (cs : List Char) : Option Directive :=
  match threshold? cs with
  | some t => some ⟨[], t⟩
  | none =>
    let target := cs.takeWhile isTargetChar
    if target.isEmpty then none
    else
      match cs.dropWhile isTargetChar with
      | [] => some ⟨target, some .trace⟩
      | '=' :: [] => some ⟨target, some .trace⟩
      | '=' :: level => (threshold? level).map fun t => ⟨target, t⟩
      | _ => none

end Directive

/-- The directives of a filter. -/
abbrev LogFilter := List Directive

namespace LogFilter

/-- Splits a text at commas. -/
def splitCommas : List Char → List (List Char)
  | [] => [[]]
  | c :: cs =>
    if c = ',' then [] :: splitCommas cs
    else
      match splitCommas cs with
      | [] => [[c]]
      | s :: rest => (c :: s) :: rest

/-- Reads a filter; empty directives do not count, and without any only errors are shown. -/
def parse? (s : String) : Option LogFilter :=
  let parts := (splitCommas s.toList).filter fun p => !p.isEmpty
  if parts.isEmpty then some [⟨[], some .error⟩] else parts.mapM Directive.parse?

/-- The directive that decides about a target: the longest that fits, and of several for the
same target the last. -/
def deciding? (f : LogFilter) (target : String) : Option Directive :=
  f.foldl
    (fun best d =>
      if d.target.isPrefixOf target.toList then
        match best with
        | some b => if b.target.length ≤ d.target.length then some d else some b
        | none => some d
      else best)
    none

/-- Whether an event of some level from some target is shown. -/
def shows (f : LogFilter) (target : String) (level : Level) : Bool :=
  match f.deciding? target with
  | some ⟨_, some least⟩ => least.rank ≤ level.rank
  | _ => false

end LogFilter
end TaskQueue
