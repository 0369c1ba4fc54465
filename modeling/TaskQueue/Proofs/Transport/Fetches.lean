import TaskQueue.Proofs.Client.Polling
import TaskQueue.Transport.Memory

/-!
# `TaskQueue.Proofs.Transport.Fetches`: what one fetch after the other finds

`Transport.recording` is a transport with a record of its fetches beside the broker: for which task,
whether the fetch removes, and what it found. Otherwise it acts as the transport that it records.

The rest is about the broker in memory. Whoever fetches the result of a task sees no more of the
broker than what is stored for that task, and `Memory.glance` says what a fetch makes of it.
`Memory.Reads` puts fetches in a row. `Memory.reads_stored` says in plain words what a row of
fetches finds of a result that was stored once (`Memory.Shared`): the first ones find nothing as
long as the result is hidden, then everybody finds it, up to the first who removes it, and then
nobody.
-/

set_option autoImplicit false

namespace TaskQueue

/-- A fetch that was made. -/
structure Fetch where
  id : TaskId
  remove : Bool
  found : Found

namespace Transport

variable {κ β ε : Type}

/-- The world as the broker meets it. -/
def unrecorded (w : World (β × List Fetch)) : World β := w.around w.broker.1

/-- The world after something changed it, with the fetches that this made. -/
def recorded (w : World (β × List Fetch)) (fs : List Fetch) (v : World β) :
    World (β × List Fetch) :=
  v.around (v.broker, w.broker.2 ++ fs)

/-- The transport with a record of its fetches. -/
def recording (t : Transport κ β) : Transport κ (β × List Fetch) where
  create s d w :=
    let (r, v) := t.create s d (unrecorded w)
    (r, recorded w [] v)
  kind := t.kind
  descriptor := t.descriptor
  isConnected := t.isConnected
  connect c w :=
    let (r, c, v) := t.connect c (unrecorded w)
    (r, c, recorded w [] v)
  publish c routingKey body properties w :=
    let (r, c, v) := t.publish c routingKey body properties (unrecorded w)
    (r, c, recorded w [] v)
  fetch c id remove w :=
    let (r, c, v) := t.fetch c id remove (unrecorded w)
    (r, c, recorded w [⟨id, remove, r⟩] v)
  close c w :=
    let (r, c, v) := t.close c (unrecorded w)
    (r, c, recorded w [] v)

/-- What happens outside of the program makes no fetch. -/
def recordingReact (react : ε → World β → World β) (e : ε) (w : World (β × List Fetch)) :
    World (β × List Fetch) :=
  recorded w [] (react e (unrecorded w))

/-- The fetches of a task that were made so far. -/
def fetchesOf (id : TaskId) (w : World (β × List Fetch)) : List Fetch :=
  w.broker.2.filter (·.id = id)

end Transport

namespace Memory

open Transport (recording recorded unrecorded fetchesOf)

/-! ## One fetch -/

namespace Results

/-- Storing a result changes what is kept under its own identifier, and under no other. -/
theorem get?_put (id other : TaskId) (s : Stored) (rs : Results) :
    (rs.put id s).get? other = if id = other then some s else rs.get? other := by
  induction rs with
  | nil => rfl
  | cons r rest ih =>
    by_cases hr : r.1 = id
    · subst hr
      by_cases h : r.1 = other <;> simp [put, get?, h]
    · by_cases h : r.1 = other
      · subst h
        simp [put, get?, hr, Ne.symm hr]
      · simp [put, get?, hr, h, ih]

/-- Removing a result does likewise. -/
theorem get?_remove (id other : TaskId) (rs : Results) :
    (rs.remove id).get? other = if id = other then none else rs.get? other := by
  induction rs with
  | nil => simp [remove, get?]
  | cons r rest ih =>
    by_cases hr : r.1 = id
    · subst hr
      by_cases h : r.1 = other <;> simpa [remove, get?, h] using ih
    · by_cases h : r.1 = other
      · subst h
        simp [remove, get?, hr, Ne.symm hr]
      · simpa [remove, get?, hr, h] using ih

end Results

/-- What a fetch finds of what is stored for its task, and what it leaves there. -/
def glance (remove : Bool) : Option Stored → Option ResultMessage × Option Stored
  | none => (none, none)
  | some ⟨m, n + 1⟩ => (none, some ⟨m, n⟩)
  | some ⟨m, 0⟩ => (some m, if remove then none else some ⟨m, 0⟩)

/-- A fetch finds what a glance at its task does. -/
theorem fetch_glance (b : Broker) (id : TaskId) (remove : Bool) :
    (b.fetch id remove).1 = (glance remove (b.results.get? id)).1 := by
  rcases hs : b.results.get? id with _ | ⟨m, _ | n⟩ <;> simp only [Broker.fetch, glance, hs]

/-- A fetch leaves of its task what a glance does, and of other tasks everything. -/
theorem stored_fetch (b : Broker) (id other : TaskId) (remove : Bool) :
    (b.fetch id remove).2.results.get? other =
      if id = other then (glance remove (b.results.get? id)).2 else b.results.get? other := by
  -- Nothing is stored, something that shows itself, or something that is still hidden.
  rcases hs : b.results.get? id with _ | ⟨m, _ | n⟩
  · by_cases h : id = other
    · subst h
      simp [Broker.fetch, glance, hs]
    · simp [Broker.fetch, hs, h]
  · cases remove with
    | true => simp [Broker.fetch, glance, hs, Results.get?_remove]
    | false =>
      by_cases h : id = other
      · subst h
        simp [Broker.fetch, glance, hs]
      · simp [Broker.fetch, hs, h]
  · simp [Broker.fetch, glance, hs, Results.get?_put]

/-! ## Several fetches -/

/-- These are fetches of one task in a row, from what is stored for it before to what is stored
after. -/
def Reads : Option Stored → List Fetch → Option Stored → Prop
  | before, [], after => after = before
  | before, f :: fs, after =>
    f.found = .ok (glance f.remove before).1 ∧ Reads (glance f.remove before).2 fs after

/-- Two stretches of fetches, of which the second begins with what the first left, are one. -/
theorem Reads.append {before between after : Option Stored} {fs gs : List Fetch}
    (h : Reads before fs between) (h' : Reads between gs after) :
    Reads before (fs ++ gs) after := by
  induction fs generalizing before with
  | nil =>
    cases h
    exact h'
  | cons f fs ih => exact ⟨h.1, ih h.2⟩

/-- What the fetches of a result come to that is not hidden any more. Either everybody found it and
kept it, or one was the first to remove it; whoever came before that one found and kept it, and
whoever came after found nothing. -/
inductive Served (m : ResultMessage) : List Fetch → Option Stored → Prop
  | kept {fs : List Fetch} : (∀ f ∈ fs, f.remove = false ∧ f.found = .ok (some m)) →
    Served m fs (some ⟨m, 0⟩)
  | removed {before after : List Fetch} {f : Fetch} :
    (∀ g ∈ before, g.remove = false ∧ g.found = .ok (some m)) →
    f.remove = true → f.found = .ok (some m) → (∀ g ∈ after, g.found = .ok none) →
    Served m (before ++ f :: after) none

/-- What the fetches of a result come to that was stored once and was hidden from the first `n` of
them: these found nothing, and the others were served. -/
structure Shared (m : ResultMessage) (n : Nat) (fs : List Fetch) (left : Option Stored) :
    Prop where
  hidden : ∀ f ∈ fs.take n, f.found = .ok none
  waiting : fs.length < n → left = some ⟨m, n - fs.length⟩
  served : n ≤ fs.length → Served m (fs.drop n) left

/-- Where nothing is stored, nobody finds anything. -/
theorem reads_nothing {fs : List Fetch} {after : Option Stored} (h : Reads none fs after) :
    (∀ f ∈ fs, f.found = .ok none) ∧ after = none := by
  induction fs with
  | nil => exact ⟨nofun, h⟩
  | cons f fs ih =>
    obtain ⟨hrest, hafter⟩ := ih h.2
    refine ⟨fun g hg => ?_, hafter⟩
    rcases List.mem_cons.1 hg with rfl | hg
    · exact h.1
    · exact hrest g hg

/-- A result that is not hidden is served. -/
theorem reads_shown {m : ResultMessage} {fs : List Fetch} {after : Option Stored}
    (h : Reads (some ⟨m, 0⟩) fs after) : Served m fs after := by
  induction fs with
  | nil =>
    cases h
    exact .kept nofun
  | cons f fs ih =>
    obtain ⟨hfound, hrest⟩ := h
    -- The first fetch finds the result. If it removes it, the others find nothing.
    cases hf : f.remove with
    | true =>
      rw [hf] at hrest
      obtain ⟨hnone, rfl⟩ := reads_nothing hrest
      exact @Served.removed m [] fs f nofun hf hfound hnone
    | false =>
      rw [hf] at hrest
      have hfirst : f.remove = false ∧ f.found = .ok (some m) := ⟨hf, hfound⟩
      cases ih hrest with
      | kept hkept => exact .kept (List.forall_mem_cons.2 ⟨hfirst, hkept⟩)
      | @removed before after g hbefore hg hfoundg hafter =>
        exact @Served.removed m (f :: before) after g (List.forall_mem_cons.2 ⟨hfirst, hbefore⟩) hg
          hfoundg hafter

/-- A result that was stored once is shared. -/
theorem reads_stored {m : ResultMessage} {n : Nat} {fs : List Fetch} {after : Option Stored}
    (h : Reads (some ⟨m, n⟩) fs after) : Shared m n fs after := by
  -- Each of the first fetches brings the countdown one further.
  induction n generalizing fs with
  | zero => exact ⟨nofun, nofun, fun _ => reads_shown h⟩
  | succ n ih =>
    cases fs with
    | nil =>
      cases h
      exact ⟨nofun, fun _ => rfl, nofun⟩
    | cons f fs =>
      obtain ⟨hidden, waiting, served⟩ := ih h.2
      refine ⟨List.forall_mem_cons.2 ⟨h.1, hidden⟩, fun hlen => ?_, fun hlen => ?_⟩
      · rw [waiting (Nat.lt_of_succ_lt_succ hlen), List.length_cons, Nat.add_sub_add_right]
      · exact served (Nat.le_of_succ_le_succ hlen)

namespace Shared

variable {m : ResultMessage} {n : Nat} {fs : List Fetch} {left : Option Stored}

/-- Whatever is left is the message that was stored. -/
theorem message (h : Shared m n fs left) {s : Stored} (hs : left = some s) : s.message = m := by
  rcases Nat.lt_or_ge fs.length n with hlen | hlen
  · cases (h.waiting hlen).symm.trans hs
    rfl
  · have hserved := h.served hlen
    generalize fs.drop n = late at hserved
    cases hserved with
    | kept =>
      cases hs
      rfl
    | removed => cases hs

/-- What is left can be found if and only if the hidden fetches are over and none since has
removed it. -/
theorem shown_iff (h : Shared m n fs left) :
    left = some ⟨m, 0⟩ ↔ n ≤ fs.length ∧ ∀ f ∈ fs.drop n, f.remove = false := by
  -- With fewer fetches than it is hidden for, the result is there but not shown.
  rcases Nat.lt_or_ge fs.length n with hlen | hlen
  · rw [h.waiting hlen]
    constructor
    · intro heq
      have hzero : n - fs.length = 0 := congrArg Stored.hiddenFor (Option.some.inj heq)
      omega
    · rintro ⟨hle, -⟩
      omega
  · have hserved := h.served hlen
    generalize fs.drop n = late at hserved
    cases hserved with
    | kept hkept => exact ⟨fun _ => ⟨hlen, fun f hf => (hkept f hf).1⟩, fun _ => rfl⟩
    | @removed before after f hbefore hf hfound hafter =>
      refine ⟨nofun, fun ⟨_, hall⟩ => ?_⟩
      rw [hall f (by simp)] at hf
      cases hf

/-- At most one fetch that removes finds the result. -/
theorem removed_once (h : Shared m n fs left) :
    (fs.filter fun f => f.remove && f.found.toOption.join.isSome).length ≤ 1 := by
  -- Neither a fetch that finds nothing counts, nor one that keeps what it finds.
  have hquiet : ∀ gs : List Fetch, (∀ g ∈ gs, g.found = .ok none) →
      gs.filter (fun f => f.remove && f.found.toOption.join.isSome) = [] := by
    intro gs hgs
    refine List.filter_eq_nil_iff.2 fun g hg => ?_
    simp [hgs g hg, Except.toOption]
  have hkeepers : ∀ gs : List Fetch, (∀ g ∈ gs, g.remove = false ∧ g.found = .ok (some m)) →
      gs.filter (fun f => f.remove && f.found.toOption.join.isSome) = [] := by
    intro gs hgs
    refine List.filter_eq_nil_iff.2 fun g hg => ?_
    simp [(hgs g hg).1]
  rw [← List.take_append_drop n fs, List.filter_append, hquiet _ h.hidden, List.nil_append]
  rcases Nat.lt_or_ge fs.length n with hlen | hlen
  · rw [List.drop_of_length_le (Nat.le_of_lt hlen)]
    exact Nat.zero_le 1
  · have hserved := h.served hlen
    generalize fs.drop n = late at hserved ⊢
    cases hserved with
    | kept hkept => rw [hkeepers _ hkept]; exact Nat.zero_le 1
    | @removed before after f hbefore hf hfound hafter =>
      rw [List.filter_append, hkeepers _ hbefore, List.nil_append, List.filter_cons,
        hquiet _ hafter]
      split <;> simp

end Shared
end Memory
end TaskQueue
