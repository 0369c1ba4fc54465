import TaskQueue.Dialogue

/-!
# `TaskQueue.Proofs.Dialogue.Turns`: dialogues one request at a time

`Dialogue.run` holds a dialogue from its beginning to its end, so nobody else gets a word in.
When several dialogues are held with one party at the same time, they take turns, and between two
requests of one of them the others may have made theirs. `turn` is one such step: it has the next
request answered and stops before the one after it. `next?` is the request that comes next, and
`outcome?` is what a dialogue has come to when there is none.

A dialogue that is held alone comes to the same either way (`run_turn`), also where it is one of
several and the others do nothing (`run_of_turns`).
-/

set_option autoImplicit false

namespace TaskQueue
namespace Dialogue

variable {Q : Type} {A : Q → Type} {α σ : Type}

/-- The request that the dialogue makes next. -/
def next? : Dialogue Q A α → Option Q
  | done _ => none
  | note _ d => next? d
  | ask q _ => some q

/-- What the dialogue has come to, if there is nothing left to be asked. -/
def outcome? : Dialogue Q A α → Option α
  | done a => some a
  | note _ d => outcome? d
  | ask .. => none

/-- Has the next request answered. A dialogue that is over stays as it is. -/
def turn (answer : (q : Q) → σ → A q × σ) : Dialogue Q A α → σ → Dialogue Q A α × σ
  | done a, s => (done a, s)
  | note _ d, s => turn answer d s
  | ask q k, s =>
    let (reply, s) := answer q s
    (k reply, s)

variable (answer : (q : Q) → σ → A q × σ)

/-- A dialogue that is over has no turn to take. -/
theorem turn_of_outcome {d : Dialogue Q A α} {a : α} (h : d.outcome? = some a) (s : σ) :
    (d.turn answer s).1.outcome? = some a ∧ (d.turn answer s).2 = s := by
  induction d with
  | done b => exact ⟨h, rfl⟩
  | note e d ih => exact ih h
  | ask q k => cases h

/-- A dialogue is over, or there is a request to be made. -/
theorem next?_of_outcome {d : Dialogue Q A α} {a : α} (h : d.outcome? = some a) :
    d.next? = none := by
  induction d with
  | done b => rfl
  | note e d ih => exact ih h
  | ask q k => cases h

/-- What a dialogue is over with is what it comes to. -/
theorem run_of_outcome {d : Dialogue Q A α} {a : α} (h : d.outcome? = some a) (s : σ) :
    (d.run answer s).1 = a ∧ (d.run answer s).2.2 = s := by
  induction d with
  | done b =>
    cases h
    exact ⟨rfl, rfl⟩
  | note e d ih => exact ih h
  | ask q k => cases h

/-- Taking a turn first changes neither what a dialogue comes to nor the party after it. -/
theorem run_turn (d : Dialogue Q A α) (s : σ) :
    ((d.turn answer s).1.run answer (d.turn answer s).2).1 = (d.run answer s).1 ∧
      ((d.turn answer s).1.run answer (d.turn answer s).2).2.2 = (d.run answer s).2.2 := by
  induction d with
  | done a => exact ⟨rfl, rfl⟩
  | note e d ih => exact ih
  | ask q k => exact ⟨rfl, rfl⟩

/-- Where one move gives a dialogue its turn, any number of such moves leaves it on the way to what
it comes to when it is held in one go. `R s d x` says where the dialogue and its party stand. -/
theorem run_of_turns {S M : Type} {f : S → M → S} {m : M} {R : S → Dialogue Q A α → σ → Prop}
    (hstep : ∀ {s d x}, R s d x → R (f s m) (d.turn answer x).1 (d.turn answer x).2)
    {s : S} {d : Dialogue Q A α} {x : σ} (h : R s d x) (n : Nat) :
    ∃ d' x', R ((List.replicate n m).foldl f s) d' x' ∧
      (d'.run answer x').1 = (d.run answer x).1 := by
  induction n generalizing s d x with
  | zero => exact ⟨d, x, h, rfl⟩
  | succ n ih =>
    obtain ⟨d', x', hat, hrun⟩ := ih (hstep h)
    exact ⟨d', x', hat, hrun.trans (run_turn answer d x).1⟩

end Dialogue
end TaskQueue
