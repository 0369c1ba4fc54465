import TaskQueue.Proofs.Dialogue

/-!
# `TaskQueue.Proofs.Dialogue.Transcript`: what was said and answered

`Dialogue.transcript` is what a party hears and answers when a dialogue is held with it: each
request with its answer, in order. `Dialogue.asked` are the requests alone.

`Dialogue.Course` are all transcripts that a dialogue can have, with what it then comes to. It knows
of no party, so any answer may follow any other. What is held with a party takes one of these
courses (`course_transcript`). The lemmas after that say which courses a dialogue has by the way in
which it was made: `Course.bind` splits a course in two, and `Attempt.course_bind` knows that the
second part is missing if the first failed.
-/

set_option autoImplicit false

namespace TaskQueue

variable {Q : Type} {A : Q → Type} {α β σ : Type}

namespace Dialogue

/-- Requests with their answers, in order. -/
abbrev Heard (Q : Type) (A : Q → Type) := List ((q : Q) × A q)

/-- What the party hears and answers when the dialogue is held with it. -/
def transcript (answer : (q : Q) → σ → A q × σ) : Dialogue Q A α → σ → Heard Q A
  | done _, _ => []
  | note _ d, s => transcript answer d s
  | ask q k, s => ⟨q, (answer q s).1⟩ :: transcript answer (k (answer q s).1) (answer q s).2

/-- The transcript has the requests that were made. -/
theorem asked_eq_map (answer : (q : Q) → σ → A q × σ) (d : Dialogue Q A α) (s : σ) :
    d.asked answer s = (d.transcript answer s).map Sigma.fst := by
  induction d generalizing s with
  | done a => rfl
  | note e d ih => exact ih s
  | ask q k ih => exact congrArg (q :: ·) (ih (answer q s).1 (answer q s).2)

/-- With these answers the dialogue comes to this. -/
inductive Course : Dialogue Q A α → Heard Q A → α → Prop where
  | done (a : α) : Course (.done a) [] a
  | note {e : Event} {d : Dialogue Q A α} {heard : Heard Q A} {a : α} :
    Course d heard a → Course (.note e d) heard a
  | ask {q : Q} {k : A q → Dialogue Q A α} {heard : Heard Q A} {a : α} (reply : A q) :
    Course (k reply) heard a → Course (.ask q k) (⟨q, reply⟩ :: heard) a

/-- What is held with a party takes a course. -/
theorem course_transcript (answer : (q : Q) → σ → A q × σ) (d : Dialogue Q A α) (s : σ) :
    Course d (d.transcript answer s) (d.run answer s).1 := by
  induction d generalizing s with
  | done a => exact .done a
  | note e d ih => exact .note (ih s)
  | ask q k ih => exact .ask (answer q s).1 (ih (answer q s).1 (answer q s).2)

/-- A single request has one answer, which the dialogue comes to. -/
theorem Course.of_ask {q : Q} {heard : Heard Q A} {a : A q} (h : Course (.ask q .done) heard a) :
    heard = [⟨q, a⟩] := by
  cases h with
  | ask reply h =>
    cases h
    rfl

/-- It may be any answer. -/
theorem course_ask (q : Q) (a : A q) : Course (.ask q .done : Dialogue Q A (A q)) [⟨q, a⟩] a :=
  .ask a (.done a)

/-- What is only noted is not heard. -/
theorem Course.of_note {e : Event} {a b : α} {heard : Heard Q A}
    (h : Course (.note e (.done a)) heard b) : heard = [] ∧ b = a := by
  cases h with
  | note h =>
    cases h
    exact ⟨rfl, rfl⟩

/-- One dialogue after the other can take a course of the first and then one of the second. -/
theorem Course.append {d : Dialogue Q A α} {f : α → Dialogue Q A β} {first second : Heard Q A}
    {a : α} {b : β} (hfirst : Course d first a) (hsecond : Course (f a) second b) :
    Course (d.bind f) (first ++ second) b := by
  induction hfirst with
  | done a => exact hsecond
  | note _ ih => exact .note (ih hsecond)
  | ask reply _ ih => exact .ask reply (ih hsecond)

/-- The course of one dialogue after the other is the course of the first and that of the second. -/
theorem Course.bind {d : Dialogue Q A α} {f : α → Dialogue Q A β} {heard : Heard Q A} {b : β}
    (h : Course (d.bind f) heard b) :
    ∃ first second a, heard = first ++ second ∧ Course d first a ∧ Course (f a) second b := by
  induction d generalizing heard with
  | done a => exact ⟨[], heard, a, rfl, .done a, h⟩
  | note e d ih =>
    cases h with
    | note h =>
      obtain ⟨first, second, a, heq, hfirst, hsecond⟩ := ih h
      exact ⟨first, second, a, heq, .note hfirst, hsecond⟩
  -- The question belongs to the first part, and its answer decides how that part goes on.
  | ask q k ih =>
    cases h with
    | ask reply h =>
      obtain ⟨first, second, a, rfl, hfirst, hsecond⟩ := ih reply h
      exact ⟨⟨q, reply⟩ :: first, second, a, rfl, .ask reply hfirst, hsecond⟩

end Dialogue

namespace Attempt

open Dialogue (Heard Course)

/-- The second attempt is made only if the first succeeds. -/
theorem course_bind {t : Attempt Q A α} {f : α → Attempt Q A β} {heard : Heard Q A}
    {r : Except ConnectorError β} (h : Course (t >>= f).run heard r) :
    (∃ e, Course t.run heard (.error e) ∧ r = .error e) ∨
      ∃ first second a, heard = first ++ second ∧ Course t.run first (.ok a) ∧
        Course (f a).run second r := by
  obtain ⟨first, second, outcome, rfl, hfirst, hsecond⟩ := Course.bind h
  cases outcome with
  | error e =>
    cases hsecond
    exact .inl ⟨e, by rw [List.append_nil]; exact hfirst, rfl⟩
  | ok a => exact .inr ⟨first, second, a, rfl, hfirst, hsecond⟩

/-- An attempt that fails is the end of what follows it. -/
theorem course_error {t : Attempt Q A α} {f : α → Attempt Q A β} {heard : Heard Q A}
    {e : ConnectorError} (h : Course t.run heard (.error e)) :
    Course (t >>= f).run heard (.error e) := by
  rw [← List.append_nil heard]
  exact Course.append h (.done _)

/-- An attempt that succeeds is followed by the other. -/
theorem course_append {t : Attempt Q A α} {f : α → Attempt Q A β} {first second : Heard Q A}
    {a : α} {r : Except ConnectorError β} (h : Course t.run first (.ok a))
    (hnext : Course (f a).run second r) : Course (t >>= f).run (first ++ second) r :=
  Course.append h hnext

end Attempt
end TaskQueue
