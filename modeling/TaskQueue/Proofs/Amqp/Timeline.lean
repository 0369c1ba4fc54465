import TaskQueue.Amqp.Broker
import TaskQueue.Proofs.Dialogue.Transcript

/-!
# `TaskQueue.Proofs.Amqp.Timeline`: when things are said

A `Stamped` is a request with its answer, and with the times at which it was made and answered.
`Elapses` says of a list of them that one follows on the other. The clock is read at once and goes
right, and a pause takes exactly as long as it should. How long a method takes is left open.

`timeline` are the requests of a talk with a party that has a clock. If the clock goes by these
rules (`KeepsTime`), the talk elapses from one reading of it to another (`elapses_timeline`). The
broker and its clock do (`Peer.keepsTime`).
-/

set_option autoImplicit false

namespace TaskQueue

open Dialogue (Heard Course)

namespace Amqp

variable {α σ : Type}

/-- A request with its answer, and when it was made and answered, in nanoseconds. -/
structure Stamped where
  said : (q : Request) × Answer q
  start : Nat
  stop : Nat

/-- What is known of the time that a request takes. -/
def Stamped.Lasts (x : Stamped) : Prop :=
  match x.said with
  | ⟨.clock, now⟩ => now = x.start ∧ x.stop = x.start
  | ⟨.sleep nanoseconds, _⟩ => x.stop = x.start + nanoseconds
  | _ => x.start ≤ x.stop

/-- One request follows on the other, from one time to another. -/
inductive Elapses : Nat → List Stamped → Nat → Prop
  | nil (t : Nat) : Elapses t [] t
  | cons {x : Stamped} {rest : List Stamped} {stop : Nat} : x.Lasts → Elapses x.stop rest stop →
    Elapses x.start (x :: rest) stop

namespace Stamped.Lasts

variable {x : Stamped} (h : x.Lasts)
include h

/-- The clock is read in no time, and tells when. -/
theorem clock {now : Nat} (hx : x.said = ⟨.clock, now⟩) : now = x.start ∧ x.stop = x.start := by
  rw [Lasts, hx] at h
  exact h

/-- A sleep takes the time that it was given. -/
theorem sleep {nanoseconds : Nat} (hx : x.said = ⟨.sleep nanoseconds, ()⟩) :
    x.stop = x.start + nanoseconds := by
  rw [Lasts, hx] at h
  exact h

/-- Nothing is answered before it was asked. -/
theorem le : x.start ≤ x.stop := by
  unfold Lasts at h
  split at h <;> omega

end Stamped.Lasts

namespace Elapses

variable {start stop : Nat}

/-- The first request begins at the beginning, and the others when it is over. -/
theorem of_cons {x : Stamped} {rest : List Stamped} (h : Elapses start (x :: rest) stop) :
    x.start = start ∧ x.Lasts ∧ Elapses x.stop rest stop := by
  cases h with
  | cons hx hrest => exact ⟨rfl, hx, hrest⟩

/-- What elapses may be cut anywhere. -/
theorem of_append {first second : List Stamped} (h : Elapses start (first ++ second) stop) :
    ∃ t, Elapses start first t ∧ Elapses t second stop := by
  induction first generalizing start with
  | nil => exact ⟨start, .nil start, h⟩
  | cons x first ih =>
    obtain ⟨rfl, hx, hrest⟩ := h.of_cons
    obtain ⟨t, hfirst, hsecond⟩ := ih hrest
    exact ⟨t, .cons hx hfirst, hsecond⟩

/-- Time does not go back. -/
theorem le {timeline : List Stamped} (h : Elapses start timeline stop) : start ≤ stop := by
  induction h with
  | nil t => exact Nat.le_refl t
  | cons hx _ ih => exact Nat.le_trans hx.le ih

end Elapses

/-! ## Talks with a party that has a clock -/

variable (answer : (q : Request) → σ → Answer q × σ) (clock : σ → Nat)

/-- What is said to the party, with the times that its clock shows. -/
def timeline : Talk α → σ → List Stamped
  | .done _, _ => []
  | .note _ t, s => timeline t s
  | .ask q k, s =>
    ⟨⟨q, (answer q s).1⟩, clock s, clock (answer q s).2⟩ ::
      timeline (k (answer q s).1) (answer q s).2

/-- The party reads the time from its clock and sleeps as long as it is asked to. The clock never
goes back. -/
structure KeepsTime : Prop where
  reads (s : σ) : (answer .clock s).1 = clock s ∧ clock (answer .clock s).2 = clock s
  sleeps (nanoseconds : Nat) (s : σ) :
    clock (answer (.sleep nanoseconds) s).2 = clock s + nanoseconds
  forward (q : Request) (s : σ) : clock s ≤ clock (answer q s).2

variable {answer clock}

/-- The timeline is the transcript, with the times. -/
theorem said_timeline (t : Talk α) (s : σ) :
    (timeline answer clock t s).map Stamped.said = t.transcript answer s := by
  induction t generalizing s with
  | done a => rfl
  | note e t ih => exact ih s
  | ask q k ih => exact congrArg (_ :: ·) (ih (answer q s).1 (answer q s).2)

/-- Every request takes the time that is known of it. -/
theorem KeepsTime.lasts (h : KeepsTime answer clock) (q : Request) (s : σ) :
    Stamped.Lasts ⟨⟨q, (answer q s).1⟩, clock s, clock (answer q s).2⟩ := by
  cases q with
  | clock => exact h.reads s
  | sleep nanoseconds => exact h.sleeps nanoseconds s
  | dial url => exact h.forward (.dial url) s
  | lease url => exact h.forward (.lease url) s
  | call m => exact h.forward (.call m) s

/-- A talk with the party elapses from the time before it to the time after it. -/
theorem elapses_timeline (h : KeepsTime answer clock) (t : Talk α) (s : σ) :
    Elapses (clock s) (timeline answer clock t s) (clock (t.run answer s).2.2) := by
  induction t generalizing s with
  | done a => exact .nil _
  | note e t ih => exact ih s
  | ask q k ih => exact .cons (h.lasts q s) (ih (answer q s).1 (answer q s).2)

/-- The broker of this model keeps time. -/
theorem Peer.keepsTime : KeepsTime Peer.answer Peer.clock where
  reads _ := ⟨rfl, rfl⟩
  sleeps _ _ := rfl
  forward q p := by
    cases q with
    | dial url => exact Nat.le_add_right p.clock methodTime
    | call m => exact Nat.le_add_right p.clock methodTime
    | clock => exact Nat.le_refl p.clock
    | sleep nanoseconds => exact Nat.le_add_right p.clock nanoseconds
    | lease url =>
      rw [answer]
      split
      · exact Nat.le_refl p.clock
      · exact Nat.le_add_right p.clock methodTime

end Amqp
end TaskQueue
