import TaskQueue.Members
import TaskQueue.Number.Double

/-!
# `TaskQueue.Json.Basic`: JSON values

Arguments, results and extension fields are arbitrary JSON. A number is an integer or a
binary64 number, and the two are told apart: `1` and `1.0` are different values.

An object is a list of members. Values that were read, or that a caller hands over, keep
their members sorted by key with no key twice (`TaskQueue.Json.Value`). Documents with a fixed
layout, such as an envelope, list their members in the order of the layout.
-/

set_option autoImplicit false

namespace TaskQueue

/-- A JSON value. -/
inductive Json where
  | null
  | bool (b : Bool)
  | int (n : Int)
  | float (x : Double)
  | string (s : String)
  | array (items : List Json)
  | object (members : List (String × Json))
deriving Repr, Inhabited

namespace Json

/-- A floating-point number as a value; what is not finite has no form in JSON. -/
def ofDouble (x : Double) : Json := if x.isFinite then .float x else .null

/-- The value of a member of an object. -/
def get? : Json → String → Option Json
  | .object ms, key => Members.lookup key ms
  | _, _ => none

/-- The text of a string value. -/
def text? : Json → Option String
  | .string s => some s
  | _ => none

/-- Whether the value is a string. -/
def isString : Json → Bool
  | .string _ => true
  | _ => false

mutual

/-- Equality of values, member by member in the order listed. -/
def beq : Json → Json → Bool
  | .null, .null => true
  | .bool a, .bool b => a == b
  | .int a, .int b => a == b
  | .float a, .float b => a == b
  | .string a, .string b => a == b
  | .array xs, .array ys => beqItems xs ys
  | .object xs, .object ys => beqMembers xs ys
  | _, _ => false

/-- Equality of item lists. -/
def beqItems : List Json → List Json → Bool
  | [], [] => true
  | x :: xs, y :: ys => beq x y && beqItems xs ys
  | _, _ => false

/-- Equality of member lists. -/
def beqMembers : List (String × Json) → List (String × Json) → Bool
  | [], [] => true
  | (k, x) :: xs, (l, y) :: ys => k == l && beq x y && beqMembers xs ys
  | _, _ => false

end

instance : BEq Json := ⟨beq⟩

end Json
end TaskQueue
