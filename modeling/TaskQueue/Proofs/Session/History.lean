import Mathlib.Data.List.Induction
import TaskQueue.Session

/-!
# `TaskQueue.Proofs.Session.History`: a run, moment by moment

What a program has done so far is more than its session shows. `Session.history` keeps all of it:
one `Moment` for each step of a run, with the session before it, its answer and the session after
it. `Session.history_induction` is how an invariant between the history and the session is proved:
it holds when nothing has happened, and one more moment preserves it.

`since p` is the part of a history that begins with the last moment which meets `p`.
-/

set_option autoImplicit false

namespace TaskQueue

/-- The part of a list that begins with the last element which meets the condition; the whole list
if none does. -/
def since {α : Type} (p : α → Bool) : List α → List α
  | [] => []
  | a :: rest => if rest.any p then since p rest else a :: rest

/-- A further element makes a new beginning, or it is added to what there is. -/
theorem since_concat {α : Type} (p : α → Bool) (as : List α) (a : α) :
    since p (as ++ [a]) = if p a then [a] else since p as ++ [a] := by
  induction as with
  | nil => simp [since]
  | cons b rest ih =>
    cases ha : p a with
    | true => simp [since, ha, ih]
    | false =>
      rw [ha] at ih
      cases hrest : rest.any p with
      | true => simpa [since, ha, hrest] using ih
      | false => simp [since, ha, hrest]

/-- What counts anew begins with the last one, if that is a new beginning. -/
theorem since_concat_of_pos {α : Type} {p : α → Bool} {a : α} (ha : p a = true) (as : List α) :
    since p (as ++ [a]) = [a] := by rw [since_concat, if_pos ha]

/-- If it is not, it counts with those since the last beginning. -/
theorem since_concat_of_neg {α : Type} {p : α → Bool} {a : α} (ha : p a = false) (as : List α) :
    since p (as ++ [a]) = since p as ++ [a] := by
  rw [since_concat, if_neg (Bool.eq_false_iff.1 ha)]

namespace Session

variable {κ β ε : Type}

/-- One step of a run: the session before it, the answer, and the session after it. -/
structure Moment (κ β ε : Type) where
  before : Session κ β
  step : Step ε
  answer : Answer
  after : Session κ β

section
variable (t : Transport κ β) (react : ε → World β → World β)

/-- The moment in which a session takes a step. -/
def moment (s : Session κ β) (step : Step ε) : Moment κ β ε :=
  ⟨s, step, (s.step t react step).1, (s.step t react step).2⟩

/-- The moments of a run, in order. -/
def history (s : Session κ β) : List (Step ε) → List (Moment κ β ε)
  | [] => []
  | step :: rest => moment t react s step :: history (s.step t react step).2 rest

variable {t react}

/-- The history has the steps of the run. -/
theorem history_steps (s : Session κ β) (steps : List (Step ε)) :
    (history t react s steps).map (·.step) = steps := by
  induction steps generalizing s with
  | nil => rfl
  | cons step rest ih => simp [history, moment, ih]

/-- A run of two parts ends where the second part ends. -/
theorem run_append (s : Session κ β) (xs ys : List (Step ε)) :
    (run t react s (xs ++ ys)).2 = (run t react (run t react s xs).2 ys).2 := by
  induction xs generalizing s with
  | nil => rfl
  | cons step rest ih => exact ih _

/-- The history of a run of two parts is that of the first and then that of the second. -/
theorem history_append (s : Session κ β) (xs ys : List (Step ε)) :
    history t react s (xs ++ ys) =
      history t react s xs ++ history t react (run t react s xs).2 ys := by
  induction xs generalizing s with
  | nil => rfl
  | cons step rest ih => exact congrArg (_ :: ·) (ih _)

/-- What holds when nothing has happened, and is preserved by one more moment, holds of the history
and the session of every run. -/
theorem history_induction {P : List (Moment κ β ε) → Session κ β → Prop} {s : Session κ β}
    (start : P [] s)
    (next : ∀ ms s step, P ms s → P (ms ++ [moment t react s step]) (s.step t react step).2)
    (steps : List (Step ε)) : P (history t react s steps) (run t react s steps).2 := by
  -- The history grows at its end, so the induction takes the last step off.
  induction steps using List.reverseRecOn with
  | nil => exact start
  | append_singleton rest step ih =>
    rw [history_append, run_append]
    exact next _ _ step ih

end

end Session
end TaskQueue
