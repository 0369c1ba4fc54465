import TaskQueue.Error
import TaskQueue.Json.Printer

/-!
# `TaskQueue.Task.Arguments`: positional and keyword arguments

Arguments are given as one JSON value. An array is positional, and so is `null` and an object
whose keys are just the indices `0` to `n - 1`; any other object is keyword. What is no
container is refused.
-/

set_option autoImplicit false

namespace TaskQueue

/-- The arguments of a task. -/
inductive Arguments where
  | positional (items : List Json)
  | keyword (members : List (String × Json))
deriving Repr, Inhabited

namespace Arguments

/-- The key of an index. -/
def indexKey (i : Nat) : String := String.ofList (Json.natChars i)

/-- The values under the indices below `n`, if each index has one. -/
def indexed? (members : List (String × Json)) (n : Nat) : Option (List Json) :=
  (List.range n).mapM fun i => Members.lookup (indexKey i) members

/-- Tells positional from keyword arguments. -/
def classify : Json → Except Error Arguments
  | .null => .ok (.positional [])
  | .array items => .ok (.positional items)
  | .object members =>
    match indexed? members members.length with
    | some items => .ok (.positional items)
    | none => .ok (.keyword members)
  | other =>
    .error (.invalidArguments ("args should be an array or an object, got " ++ other.text))

/-- The positional arguments. -/
def items : Arguments → List Json
  | positional xs => xs
  | keyword _ => []

/-- The keyword arguments. -/
def members : Arguments → List (String × Json)
  | positional _ => []
  | keyword ms => ms

end Arguments
end TaskQueue
