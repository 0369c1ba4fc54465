import TaskQueue.Error
import TaskQueue.Json.Printer
import TaskQueue.Time.DateText

/-!
# `TaskQueue.Task.Time`: times of a task

A task may have a time before which it does not run, and one after which it is discarded. Such
a time is given as seconds since the start of 1970, as text, or as an exact instant. Text is
sent as it was given, provided that it names a date. The other two are written to the
microsecond.
-/

set_option autoImplicit false

namespace TaskQueue

/-- A time that a caller gives. -/
inductive TaskTime where
  | timestamp (seconds : Double)
  | text (text : String)
  | at (instant : Instant)
deriving DecidableEq, Repr

namespace TaskTime

/-- The error for a time that a field cannot take. -/
def invalid (field reason : String) : Error := .invalidDate field reason

/-- The time that a loosely typed value stands for. -/
def ofJson (field : String) : Json → Except Error TaskTime
  | .int n => .ok (.timestamp (Double.ofInt n))
  | .float x => .ok (.timestamp x)
  | .string s => .ok (.text s)
  | other => .error (invalid field ("expected timestamp, got " ++ other.text))

/-- A billion. -/
def billion : Double := Double.ofNat 1000000000

/-- The nanoseconds in `part / den` of a second, where the fraction is first rounded to the
format of the timestamp, and so is the product. They stay below a full second. -/
def nanosOf (part den : Nat) : Nat :=
  match ((Double.ofRatio false part den).mul billion).value? with
  | some (num, d) => min (Double.roundHalfUp num.toNat d) 999999999
  | none => 0

/-- The instant of a timestamp: whole seconds, rounded down, and the rest in nanoseconds. -/
def instantOf (field : String) (seconds : Double) : Except Error Instant :=
  match seconds.value? with
  | none => .error (invalid field "timestamp is not finite")
  | some (num, den) =>
    let whole := num / (den : Int)
    let part := (num % (den : Int)).toNat
    match Instant.ofSeconds? whole (nanosOf part den) with
    | some t => .ok t
    | none => .error (invalid field "timestamp out of range")

/-- The time as it stands in an envelope. -/
def normalize (field : String) : TaskTime → Except Error String
  | timestamp seconds => (instantOf field seconds).map Instant.text
  | text s =>
    if DateText.isValid s then .ok s
    else .error (invalid field (Error.ticked s ++ " is not a valid date"))
  | «at» t => .ok t.text

/-- Seconds that a delay may have at most. -/
def longestDelay : Nat := (Nat.pow 2 63 - 1) / 1000

/-- The instant so many seconds from now. -/
def countdown (now : Instant) (seconds : Nat) : Except Error Instant :=
  match if seconds ≤ longestDelay then now.after? seconds else none with
  | some t => .ok t
  | none => .error (invalid "countdown" (toString seconds ++ " seconds from now is out of range"))

end TaskTime
end TaskQueue
