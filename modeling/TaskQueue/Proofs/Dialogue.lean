import TaskQueue.Dialogue

/-!
# `TaskQueue.Proofs.Dialogue`: what a dialogue comes to

`Dialogue.Triple answer P d R` says that the dialogue `d`, held with the party `answer` from a
state in which `P` holds, comes to an outcome and a state of which `R` holds. A dialogue always
ends, so this is total. There is one rule for each way to make a dialogue, and `Triple.ask` is
where the party comes in. `Attempt.Triple` is the same for dialogues that may fail, with one
condition for success and one for failure.

`Dialogue.Asks` says of a dialogue which requests it may come to make, whatever it is answered. What
no such request disturbs holds throughout (`Dialogue.Asks.triple`).
-/

set_option autoImplicit false

namespace TaskQueue

variable {Q : Type} {A : Q → Type} {α β σ : Type}

namespace Dialogue

/-- What is asked for when the dialogue is held with a party, in order. -/
def asked (answer : (q : Q) → σ → A q × σ) : Dialogue Q A α → σ → List Q
  | done _, _ => []
  | note _ d, s => asked answer d s
  | ask q k, s => q :: asked answer (k (answer q s).1) (answer q s).2

variable {answer : (q : Q) → σ → A q × σ} {P P' : σ → Prop} {R R' : α → σ → Prop}
  {S : β → σ → Prop}

/-- From a state in which `P` holds, the outcome and the state after it meet `R`. -/
structure Triple (answer : (q : Q) → σ → A q × σ) (P : σ → Prop) (d : Dialogue Q A α)
    (R : α → σ → Prop) : Prop where
  holds : ∀ s, P s → R (d.run answer s).1 (d.run answer s).2.2

namespace Triple

/-- A dialogue that is over ensures what its start already does. -/
theorem done {a : α} (h : ∀ s, P s → R a s) : Triple answer P (.done a) R := ⟨h⟩

/-- A log entry changes nothing about what a dialogue ensures. -/
theorem note {e : Event} {d : Dialogue Q A α} (hd : Triple answer P d R) :
    Triple answer P (.note e d) R := ⟨hd.holds⟩

/-- What the party answers has to be enough for what is said next. -/
theorem ask {q : Q} {k : A q → Dialogue Q A α} {M : A q → σ → Prop}
    (hq : ∀ s, P s → M (answer q s).1 (answer q s).2)
    (hk : ∀ a, Triple answer (M a) (k a) R) : Triple answer P (.ask q k) R :=
  ⟨fun s hs => (hk (answer q s).1).holds (answer q s).2 (hq s hs)⟩

/-- What holds may be weakened and what is assumed strengthened. -/
theorem mono {d : Dialogue Q A α} (hd : Triple answer P d R) (hP : ∀ s, P' s → P s)
    (hR : ∀ a s, R a s → R' a s) : Triple answer P' d R' :=
  ⟨fun s hs => hR _ _ (hd.holds s (hP s hs))⟩

/-- What does not depend on the state stays true. -/
theorem frame {d : Dialogue Q A α} {F : Prop} (hd : Triple answer P d R) :
    Triple answer (fun s => P s ∧ F) d fun a s => R a s ∧ F :=
  ⟨fun s hs => ⟨hd.holds s hs.1, hs.2⟩⟩

/-- One dialogue after the other. -/
theorem bind {d : Dialogue Q A α} {f : α → Dialogue Q A β} (hd : Triple answer P d R)
    (hf : ∀ a, Triple answer (R a) (f a) S) : Triple answer P (d.bind f) S := by
  induction d generalizing P with
  | done a => exact ⟨fun s hs => (hf a).holds s (hd.holds s hs)⟩
  | note e d ih => exact .note (ih ⟨hd.holds⟩)
  | ask q k ih =>
    -- What holds after the answer is that some state before it was answered so.
    refine .ask (M := fun a s' => ∃ s, P s ∧ answer q s = (a, s')) (fun s hs => ⟨s, hs, rfl⟩)
      fun a => ih a ⟨?_⟩
    rintro s' ⟨s, hs, hanswer⟩
    have h := hd.holds s hs
    rw [run, hanswer] at h
    exact h

end Triple
end Dialogue

namespace Attempt

variable {answer : (q : Q) → σ → A q × σ} {P P' : σ → Prop} {R R' : α → σ → Prop}
  {S : β → σ → Prop} {E E' : ConnectorError → σ → Prop}

/-- What a success or a failure has to meet. -/
def Outcome (R : α → σ → Prop) (E : ConnectorError → σ → Prop) :
    Except ConnectorError α → σ → Prop
  | .ok a => R a
  | .error e => E e

/-- From a state in which `P` holds, a success meets `R` and a failure meets `E`. -/
def Triple (answer : (q : Q) → σ → A q × σ) (P : σ → Prop) (t : Attempt Q A α)
    (R : α → σ → Prop) (E : ConnectorError → σ → Prop) : Prop :=
  Dialogue.Triple answer P t.run (Outcome R E)

namespace Triple

/-- An attempt that succeeds at once ensures what its start already does. -/
theorem pure {a : α} (h : ∀ s, P s → R a s) : Triple answer P (Pure.pure a) R E := .done h

/-- An outcome that is known at once ensures what its start does for it. -/
theorem ofExcept {r : Except ConnectorError α} (h : ∀ s, P s → Outcome R E r s) :
    Triple answer P (Attempt.ofExcept r) R E := .done h

/-- A log entry alone ensures what its start already does. -/
theorem log {e : Event} {R : Unit → σ → Prop} (h : ∀ s, P s → R () s) :
    Triple answer P (Attempt.log e) R E := .note (.done h)

/-- What holds of a success and of an error may be weakened, and what is assumed strengthened. -/
theorem mono {t : Attempt Q A α} (ht : Triple answer P t R E) (hP : ∀ s, P' s → P s)
    (hR : ∀ a s, R a s → R' a s) (hE : ∀ e s, E e s → E' e s) : Triple answer P' t R' E' := by
  refine Dialogue.Triple.mono ht hP fun r s h => ?_
  cases r with
  | ok a => exact hR a s h
  | error e => exact hE e s h

/-- What the states to begin with say about no state may be used throughout. -/
theorem assuming {C : Prop} {t : Attempt Q A α} (hC : ∀ s, P s → C)
    (ht : C → Triple answer P t R E) : Triple answer P t R E :=
  ⟨fun s hs => (ht (hC s hs)).holds s hs⟩

/-- One attempt after the other; the second is made only if the first succeeds. -/
theorem bind {t : Attempt Q A α} {f : α → Attempt Q A β} (ht : Triple answer P t R E)
    (hf : ∀ a, Triple answer (R a) (f a) S E) : Triple answer P (t >>= f) S E := by
  refine Dialogue.Triple.bind ht fun r => ?_
  cases r with
  | ok a => exact hf a
  | error e => exact Dialogue.Triple.done fun _ h => h

end Triple
end Attempt

/-! ## What a dialogue asks for -/

section
variable {P : Q → Prop}

namespace Dialogue

/-- Whatever it is answered, the dialogue makes such requests only. -/
inductive Asks (P : Q → Prop) : Dialogue Q A α → Prop where
  | done (a : α) : Asks P (.done a)
  | note {e : Event} {d : Dialogue Q A α} (next : Asks P d) : Asks P (.note e d)
  | ask {q : Q} {k : A q → Dialogue Q A α} (here : P q) (next : ∀ a, Asks P (k a)) :
      Asks P (.ask q k)

namespace Asks

/-- What goes on by a dialogue of the same kind is of that kind. -/
theorem bind {d : Dialogue Q A α} {f : α → Dialogue Q A β} (hd : Asks P d)
    (hf : ∀ a, Asks P (f a)) : Asks P (d.bind f) := by
  induction hd with
  | done a => exact hf a
  | note _ ih => exact .note ih
  | ask here _ ih => exact .ask here ih

/-- Requests of a narrower kind are requests of a wider one. -/
theorem mono {P' : Q → Prop} {d : Dialogue Q A α} (hd : Asks P d) (h : ∀ q, P q → P' q) :
    Asks P' d := by
  induction hd with
  | done a => exact .done a
  | note _ ih => exact .note ih
  | ask here _ ih => exact .ask (h _ here) ih

/-- What no such request disturbs holds throughout. -/
theorem triple {d : Dialogue Q A α} (hd : Asks P d) {answer : (q : Q) → σ → A q × σ}
    {I : σ → Prop} (hI : ∀ q, P q → ∀ s, I s → I (answer q s).2) :
    Triple answer I d fun _ => I := by
  induction hd with
  | done a => exact .done fun _ h => h
  | note _ ih => exact .note ih
  | @ask q k here _ ih => exact .ask (M := fun _ => I) (hI q here) ih

end Asks
end Dialogue

namespace Attempt

/-- An attempt makes such requests only if its first part does and what follows on a success does.
-/
theorem asks_bind {t : Attempt Q A α} {f : α → Attempt Q A β} (ht : t.run.Asks P)
    (hf : ∀ a, (f a).run.Asks P) : (t >>= f).run.Asks P := by
  refine Dialogue.Asks.bind ht fun r => ?_
  cases r with
  | ok a => exact hf a
  | error e => exact .done _

end Attempt
end
end TaskQueue
