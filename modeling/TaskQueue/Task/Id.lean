import TaskQueue.Json.Printer

/-!
# `TaskQueue.Task.Id`: task ids

An id is any text. Fresh ids are version 4 UUIDs made from a number. The worker replies to the
result queue named by the id without its dashes, or stores the result under the key made of
`resultKeyStart` and the id.
-/

set_option autoImplicit false

namespace TaskQueue

/-- The id of a task. -/
structure TaskId where
  text : String
deriving DecidableEq, Repr, Inhabited

namespace TaskId

/-- The queue on which the result of the task arrives. -/
def resultQueue (id : TaskId) : String := String.ofList (id.text.toList.filter (· != '-'))

/-- What the keys of stored results begin with. -/
def resultKeyStart : String := "celery-task-meta-"

/-- The key under which the result of the task is stored. -/
def resultKey (id : TaskId) : String := resultKeyStart ++ id.text

/-- The hexadecimal digits of the `width` lowest places of `n`. -/
def hexDigits : (width : Nat) → Nat → List Char
  | 0, _ => []
  | width + 1, n => Json.hexChar (n / Nat.pow 16 width % 16) :: hexDigits width n

/-- The id for a number below `2 ^ 122`: 32 hexadecimal digits in five groups, with the version
in the first digit of the third group and the variant in the first digit of the fourth. -/
def fresh (n : Nat) : TaskId :=
  ⟨String.ofList
    (hexDigits 8 (n / Nat.pow 2 90) ++ '-' :: (hexDigits 4 (n / Nat.pow 2 74) ++
      '-' :: '4' :: (hexDigits 3 (n / Nat.pow 2 62) ++
      '-' :: Json.hexChar (8 + n / Nat.pow 2 60 % 4) :: (hexDigits 3 (n / Nat.pow 2 48) ++
      '-' :: hexDigits 12 n))))⟩

end TaskId
end TaskQueue
