import TaskQueue.Members
import TaskQueue.Result.Message

/-!
# `TaskQueue.Task.Properties`: how an envelope is delivered

Properties travel with a published envelope: its content type and encoding, whether the broker
has to persist it, and headers sorted by name.
-/

set_option autoImplicit false

namespace TaskQueue

/-- The delivery properties of a publication. -/
structure PublishProperties where
  contentType : String
  contentEncoding : String
  deliveryMode : Option UInt8
  headers : Members String
deriving DecidableEq, Repr, Inhabited

namespace PublishProperties

/-- The delivery mode of persistent messages. -/
def persistentMode : UInt8 := 2

/-- The properties of a JSON envelope. -/
def json : PublishProperties := ⟨jsonContentType, "UTF-8", none, .empty⟩

/-- Asks for persistence, or no longer asks for it. -/
def persistent (p : PublishProperties) (b : Bool) : PublishProperties :=
  { p with deliveryMode := if b then some persistentMode else none }

/-- Sets a header. -/
def header (p : PublishProperties) (key value : String) : PublishProperties :=
  { p with headers := p.headers.set key value }

end PublishProperties
end TaskQueue
