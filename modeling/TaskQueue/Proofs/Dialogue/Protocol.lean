import TaskQueue.Proofs.Dialogue
import TaskQueue.Proofs.Dialogue.Turns

/-!
# `TaskQueue.Proofs.Dialogue.Protocol`: dialogues that keep to a protocol

A protocol says what may be asked for next. It goes by an account of the answers so far, which
`Protocol.next` keeps. `Dialogue.Follows` says that a dialogue keeps to a protocol whatever it is
answered, and what it comes to then. Nothing is known of the party that answers, and the answers
need not fit together: a party that others talk to as well may have changed in between.

`Follows.turn` is what this is for. If a party and the account agree, and every request that the
protocol allows leaves them in agreement, then a turn of the dialogue does.
-/

set_option autoImplicit false

namespace TaskQueue

variable {Q : Type} {A : Q → Type} {α β σ S : Type}

/-- What may be asked for, by an account of the answers so far. -/
structure Protocol (Q : Type) (A : Q → Type) (S : Type) where
  allows : S → Q → Prop
  next : S → (q : Q) → A q → S

namespace Dialogue

/-- Whatever it is answered, the dialogue asks for what is allowed, and it comes to something that
meets `R`. -/
inductive Follows (p : Protocol Q A S) (R : α → S → Prop) : S → Dialogue Q A α → Prop where
  | done {s : S} {a : α} (meets : R a s) : Follows p R s (.done a)
  | note {s : S} {e : Event} {d : Dialogue Q A α} (next : Follows p R s d) :
      Follows p R s (.note e d)
  | ask {s : S} {q : Q} {k : A q → Dialogue Q A α} (allowed : p.allows s q)
      (next : ∀ a, Follows p R (p.next s q a) (k a)) : Follows p R s (.ask q k)

namespace Follows

variable {p : Protocol Q A S} {R R' : α → S → Prop} {s : S} {d : Dialogue Q A α}

/-- What is said of the end of a dialogue may be weakened. -/
theorem mono (hd : Follows p R s d) (hR : ∀ a s, R a s → R' a s) : Follows p R' s d := by
  induction hd with
  | done meets => exact .done (hR _ _ meets)
  | note _ ih => exact .note ih
  | ask allowed _ ih => exact .ask allowed ih

/-- One dialogue after the other. -/
theorem bind {R' : β → S → Prop} {f : α → Dialogue Q A β} (hd : Follows p R s d)
    (hf : ∀ a s, R a s → Follows p R' s (f a)) : Follows p R' s (d.bind f) := by
  induction hd with
  | done meets => exact hf _ _ meets
  | note _ ih => exact .note ih
  | ask allowed _ ih => exact .ask allowed ih

/-- What the dialogue has come to meets `R`. -/
theorem outcome (hd : Follows p R s d) {a : α} (h : d.outcome? = some a) : R a s := by
  induction hd with
  | done meets =>
    cases h
    exact meets
  | note _ ih => exact ih h
  | ask => cases h

/-- After a turn the rest of the dialogue keeps to the protocol, and the party agrees with the
account. -/
theorem turn {answer : (q : Q) → σ → A q × σ} {I : S → σ → Prop}
    (hI : ∀ s q x, p.allows s q → I s x → I (p.next s q (answer q x).1) (answer q x).2)
    (hd : Follows p R s d) {x : σ} (hx : I s x) :
    ∃ s', Follows p R s' (d.turn answer x).1 ∧ I s' (d.turn answer x).2 := by
  induction hd with
  | done meets => exact ⟨_, .done meets, hx⟩
  | note _ ih => exact ih hx
  | ask allowed next => exact ⟨_, next _, hI _ _ x allowed hx⟩

end Follows
end Dialogue

namespace Attempt

/-- The same for an attempt: a success meets `R` and a failure meets `E`. -/
def Follows (p : Protocol Q A S) (R : α → S → Prop) (E : ConnectorError → S → Prop) (s : S)
    (t : Attempt Q A α) : Prop :=
  Dialogue.Follows p (Outcome R E) s t.run

namespace Follows

variable {p : Protocol Q A S} {R : α → S → Prop} {E : ConnectorError → S → Prop} {s : S}

/-- An attempt that succeeds at once follows every protocol. -/
theorem pure {a : α} (h : R a s) : Follows p R E s (Pure.pure a) := .done h

/-- So does an outcome that is known at once. -/
theorem ofExcept {r : Except ConnectorError α} (h : Outcome R E r s) :
    Follows p R E s (Attempt.ofExcept r) := .done h

/-- So does a log entry. -/
theorem log {e : Event} {R : Unit → S → Prop} (h : R () s) :
    Follows p R E s (Attempt.log e) := .note (.done h)

/-- One attempt after the other; the second is made only if the first succeeds. -/
theorem bind {R' : β → S → Prop} {t : Attempt Q A α} {f : α → Attempt Q A β}
    (ht : Follows p R E s t) (hf : ∀ a s, R a s → Follows p R' E s (f a)) :
    Follows p R' E s (t >>= f) := by
  refine Dialogue.Follows.bind ht fun r s h => ?_
  cases r with
  | ok a => exact hf a s h
  | error e => exact .done h

end Follows
end Attempt
end TaskQueue
