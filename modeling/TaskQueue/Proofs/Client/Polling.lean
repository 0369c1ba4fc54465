import TaskQueue.Client.Handle

/-!
# `TaskQueue.Proofs.Client.Polling`: what one look for a result can do

`Handle.isReady` passes through four stages: it opens a connector, connects it, fetches, and
reads what the fetch found. `Handle.ask_cases` lists the ways this can end, one for each stage
at which it can stop. Every fact about polling is derived from it, so nothing else unfolds the
stages.

`Handle.verdict` says what a handle makes of what a fetch found, and `Handle.receive_verdict`
that `Handle.receive` acts on it; a timeout is never among its errors. From these:

* `Handle.isReady_same`: a look changes nothing of a handle but its connector and its body.
* `Handle.isReady_ready` and `Handle.isReady_not_ready`: the look says that the result is there
  exactly if the handle then has a body.
* `Handle.isReady_moves`: a look moves the world along any relation that the transport keeps to.
  So it does not turn the clock back if the transport does not (`Handle.le_clock_isReady`).

Some results are about fetches that are held one after the other, however one of them is held.
`fetchAll` is such a series, and `fetchAll_keeps` is the induction on it.
-/

set_option autoImplicit false

namespace TaskQueue

/-- The error says that a time limit was over. -/
def Error.IsTimeout : Error → Prop
  | timeout .. => True
  | _ => False

/-- What goes wrong in a connector is never reported as a timeout. -/
theorem ConnectorError.toError_not_timeout (e : ConnectorError) : ¬ e.toError.IsTimeout := by
  cases e <;> exact id

/-- What a fetch comes to. -/
abbrev Found := Except ConnectorError (Option ResultMessage)

/-! ## Fetches one after the other -/

/-- Several fetches, one after the other. `hold` tells what one of them comes to, and what it leaves
of the broker. -/
def fetchAll {ν σ : Type} (hold : ν → σ → Found × σ) : List ν → σ → List Found × σ
  | [], s => ([], s)
  | v :: vs, s =>
    let (r, s) := hold v s
    let (rs, s) := fetchAll hold vs s
    (r :: rs, s)

/-- An invariant of fetches in a row: what one fetch keeps, they all keep, and each of them comes to
what a fetch may come to while the invariant holds. -/
theorem fetchAll_keeps {ν σ : Type} {hold : ν → σ → Found × σ} {P : σ → Prop} {R : Found → Prop}
    (hstep : ∀ v s, P s → R (hold v s).1 ∧ P (hold v s).2) (vs : List ν) {s : σ} (hs : P s) :
    (∀ r ∈ (fetchAll hold vs s).1, R r) ∧ P (fetchAll hold vs s).2 := by
  induction vs generalizing s with
  | nil => exact ⟨nofun, hs⟩
  | cons v vs ih =>
    obtain ⟨hfirst, hkept⟩ := hstep v s hs
    obtain ⟨hlater, hend⟩ := ih hkept
    refine ⟨fun r hr => ?_, hend⟩
    rcases List.mem_cons.1 hr with rfl | hr
    · exact hfirst
    · exact hlater r hr

/-! ## Transports -/

/-- On this transport no operation of a look turns the clock back. -/
structure Transport.Forward {κ β : Type} (t : Transport κ β) : Prop where
  create : ∀ s d w, w.clock ≤ (t.create s d w).2.clock
  connect : ∀ c w, w.clock ≤ (t.connect c w).2.2.clock
  fetch : ∀ c id remove w, w.clock ≤ (t.fetch c id remove w).2.2.clock

/-- What this transport does in a look moves the world along a relation. The relation also holds
while the broker stays as it is and the clock is not turned back. -/
structure Transport.Moves {κ β : Type} (t : Transport κ β) (R : World β → World β → Prop) :
    Prop where
  still : ∀ w v, v.broker = w.broker → w.clock ≤ v.clock → R w v
  trans : ∀ w v u, R w v → R v u → R w u
  create : ∀ s d w, R w (t.create s d w).2
  connect : ∀ c w, R w (t.connect c w).2.2
  fetch : ∀ c id remove w, R w (t.fetch c id remove w).2.2

/-- That the clock is not turned back is a relation that such a transport keeps to. -/
theorem Transport.Forward.moves {κ β : Type} {t : Transport κ β} (ht : t.Forward) :
    t.Moves fun w v => w.clock ≤ v.clock where
  still _ _ _ h := h
  trans _ _ _ h₁ h₂ := Nat.le_trans h₁ h₂
  create := ht.create
  connect := ht.connect
  fetch := ht.fetch

namespace Handle

variable {κ β : Type}

/-! ## The stages of a look -/

/-- Once the connector has fetched, a look reads what was found. -/
theorem ask_of_fetch {t : Transport κ β} {h : Handle κ} {w w₁ w₂ w₃ : World β} {c c₂ c₃ : κ}
    {found : Except ConnectorError (Option ResultMessage)} (ho : h.opened t w = (.ok c, w₁))
    (hc : t.connect c w₁ = (.ok (), c₂, w₂))
    (hf : t.fetch c₂ h.id h.descriptor.removesResults w₂ = (found, c₃, w₃)) :
    h.ask t w = { h with connector := some c₃ }.receive (t.kind c₂).name found w₃ := by
  simp only [ask, connected, ho, hc, hf]

/-- A look at a result that is not known stops when no connector can be made, or when it cannot
be connected, or it goes on to what a fetch found. -/
theorem ask_cases (t : Transport κ β) (h : Handle κ) (w : World β) :
    (∃ e w₁, h.opened t w = (.error e, w₁) ∧ h.ask t w = (.error e, h, w₁)) ∨
    (∃ c w₁ e c₂ w₂, h.opened t w = (.ok c, w₁) ∧ t.connect c w₁ = (.error e, c₂, w₂) ∧
      h.ask t w = (.error e.toError, { h with connector := some c₂ }, w₂)) ∨
    (∃ c w₁ c₂ w₂ found c₃ w₃, h.opened t w = (.ok c, w₁) ∧
      t.connect c w₁ = (.ok (), c₂, w₂) ∧
      t.fetch c₂ h.id h.descriptor.removesResults w₂ = (found, c₃, w₃) ∧
      h.ask t w = { h with connector := some c₃ }.receive (t.kind c₂).name found w₃) := by
  -- Split in the order of the calls: a handle without a connector has nothing to connect, and one
  -- that is not connected fetches nothing.
  rcases ho : h.opened t w with ⟨_ | c, w₁⟩
  · refine .inl ⟨_, _, rfl, ?_⟩
    simp only [ask, connected, ho]
  · rcases hc : t.connect c w₁ with ⟨_ | ⟨⟩, c₂, w₂⟩
    · refine .inr (.inl ⟨_, _, _, _, _, rfl, hc, ?_⟩)
      simp only [ask, connected, ho, hc]
    · rcases hf : t.fetch c₂ h.id h.descriptor.removesResults w₂ with ⟨found, c₃, w₃⟩
      exact .inr (.inr ⟨_, _, _, _, _, _, _, rfl, hc, hf, ask_of_fetch ho hc hf⟩)

/-- Once the result is known, a look does nothing. -/
theorem isReady_of_body (t : Transport κ β) {h : Handle κ} {b : ResultBody}
    (hb : h.body = some b) (w : World β) : h.isReady t w = (.ok true, h, w) := by
  simp only [isReady, hb]

/-- As long as the result is not known, a look asks the broker. -/
theorem isReady_of_none (t : Transport κ β) {h : Handle κ} (hb : h.body = none) (w : World β) :
    h.isReady t w = h.ask t w := by
  simp only [isReady, hb]

/-! ## What was found -/

/-- What a handle makes of what a fetch found: a body, nothing, or an error. -/
def verdict : Found → Except Error (Option ResultBody)
  | .error e => .error e.toError
  | .ok none => .ok none
  | .ok (some m) => m.decode.map some

/-- What a verdict comes to for somebody who asks whether the result is there. -/
def readiness : Except Error (Option ResultBody) → Except Error Bool
  | .error e => .error e
  | .ok b => .ok b.isSome

/-- The body that a verdict brings, if it brings one. -/
def delivered : Except Error (Option ResultBody) → Option ResultBody
  | .error _ => none
  | .ok b => b

/-- Taking in what was found answers by the verdict, keeps the body that it brings, and neither
takes time nor touches the broker. -/
theorem receive_verdict (h : Handle κ) (hb : h.body = none) (backend : String) (found : Found)
    (w : World β) :
    (h.receive backend found w).1 = readiness (verdict found) ∧
      (h.receive backend found w).2.1 = { h with body := delivered (verdict found) } ∧
      (h.receive backend found w).2.2.broker = w.broker ∧
      (h.receive backend found w).2.2.clock = w.clock := by
  -- The handle that comes out is written with the body that it had.
  have keep : h = { h with body := none } := by cases h; cases hb; rfl
  rcases found with e | _ | m
  · cases e <;> exact ⟨rfl, keep, rfl, rfl⟩
  · exact ⟨rfl, keep, rfl, rfl⟩
  · rcases hd : m.decode with e | b
    · simp only [receive, verdict, hd]
      exact ⟨rfl, keep, rfl, rfl⟩
    · simp only [receive, verdict, hd]
      exact ⟨rfl, rfl, rfl, rfl⟩

/-- Reading what a fetch found never takes too long. -/
theorem verdict_not_timeout {found : Found} {e : Error}
    (h : verdict found = .error e) : ¬ e.IsTimeout := by
  rcases found with f | _ | m
  · cases h
    exact f.toError_not_timeout
  · cases h
  · rcases hm : m.decode with f | b
    · obtain ⟨reason, rfl⟩ := ResultMessage.decode_error hm
      simp only [verdict, hm] at h
      cases h
      exact fun h => h
    · simp only [verdict, hm] at h
      cases h

/-! ## What a look leaves alone -/

/-- The two handles differ at most in their connector and their body. -/
structure Same (h h' : Handle κ) : Prop where
  id : h'.id = h.id
  taskName : h'.taskName = h.taskName
  arguments : h'.arguments = h.arguments
  descriptor : h'.descriptor = h.descriptor
  source : h'.source = h.source

/-- A handle is about the same task as itself. -/
theorem Same.refl (h : Handle κ) : Same h h := ⟨rfl, rfl, rfl, rfl, rfl⟩

/-- What a handle is about stays the same through several changes. -/
theorem Same.trans {h₁ h₂ h₃ : Handle κ} (a : Same h₁ h₂) (b : Same h₂ h₃) : Same h₁ h₃ :=
  ⟨b.id.trans a.id, b.taskName.trans a.taskName, b.arguments.trans a.arguments,
    b.descriptor.trans a.descriptor, b.source.trans a.source⟩

/-- A handle with another connector and another body is the same. -/
theorem Same.of_fields (h : Handle κ) (c : Option κ) (b : Option ResultBody) :
    Same h { h with connector := c, body := b } := ⟨rfl, rfl, rfl, rfl, rfl⟩

/-- A look changes nothing of a handle but its connector and its body. -/
theorem isReady_same (t : Transport κ β) (h : Handle κ) (w : World β) :
    Same h (h.isReady t w).2.1 := by
  cases hb : h.body with
  | some b => rw [isReady_of_body t hb]; exact .refl h
  | none =>
    rw [isReady_of_none t hb]
    -- Connecting may change the connector, and only what was received changes the body.
    rcases ask_cases t h w with ⟨e, w₁, -, ha⟩ | ⟨c, w₁, e, c₂, w₂, -, -, ha⟩ |
      ⟨c, w₁, c₂, w₂, found, c₃, w₃, -, -, -, ha⟩
    · rw [ha]; exact .refl h
    · rw [ha]; exact .of_fields h _ _
    · rw [ha, (receive_verdict { h with connector := some c₃ } hb _ _ _).2.1]
      exact .of_fields h _ _

/-- After a look at an unknown result the handle has a body exactly if the look says so. -/
theorem isReady_body (t : Transport κ β) (h : Handle κ) (hb : h.body = none) (w : World β) :
    (h.isReady t w).1 = .ok true ↔ (h.isReady t w).2.1.body ≠ none := by
  rw [isReady_of_none t hb]
  rcases ask_cases t h w with ⟨e, w₁, -, ha⟩ | ⟨c, w₁, e, c₂, w₂, -, -, ha⟩ |
    ⟨c, w₁, c₂, w₂, found, c₃, w₃, -, -, -, ha⟩
  · simp [ha, hb]
  · simp [ha, hb]
  · obtain ⟨hr, hh, -, -⟩ := receive_verdict { h with connector := some c₃ } hb (t.kind c₂).name
      found w₃
    rw [ha, hr, hh]
    rcases verdict found with e | _ | b <;> simp [readiness, delivered]

/-- A look that finds the result leaves a handle that has it. -/
theorem isReady_ready {t : Transport κ β} {h h' : Handle κ} {w w' : World β}
    (hb : h.body = none) (hr : h.isReady t w = (.ok true, h', w')) : ∃ b, h'.body = some b := by
  have := (isReady_body t h hb w).1 (by rw [hr])
  rw [hr] at this
  exact Option.ne_none_iff_exists'.1 this

/-- A look that does not find the result leaves a handle without it. -/
theorem isReady_not_ready {t : Transport κ β} {h h' : Handle κ} {w w' : World β}
    {r : Except Error Bool} (hb : h.body = none) (hr : h.isReady t w = (r, h', w'))
    (hne : r ≠ .ok true) : h'.body = none := by
  have := mt (isReady_body t h hb w).2 (by rw [hr]; exact hne)
  rw [hr] at this
  exact Classical.not_not.1 this

/-! ## What a look does to the world -/

/-- A look whose transport keeps to a relation moves the world along it. -/
theorem opened_moves {t : Transport κ β} {R : World β → World β → Prop} (ht : t.Moves R)
    (h : Handle κ) (w : World β) : R w (h.opened t w).2 := by
  unfold opened
  split
  · exact ht.still _ _ rfl (Nat.le_refl _)
  · exact ht.create _ _ _

/-- A look whose transport keeps to a relation moves the world along it. -/
theorem isReady_moves {t : Transport κ β} {R : World β → World β → Prop} (ht : t.Moves R)
    (h : Handle κ) (w : World β) : R w (h.isReady t w).2.2 := by
  cases hb : h.body with
  | some b => rw [isReady_of_body t hb]; exact ht.still _ _ rfl (Nat.le_refl _)
  | none =>
    rw [isReady_of_none t hb]
    rcases ask_cases t h w with ⟨e, w₁, ho, ha⟩ | ⟨c, w₁, e, c₂, w₂, ho, hc, ha⟩ |
      ⟨c, w₁, c₂, w₂, found, c₃, w₃, ho, hc, hf, ha⟩
    · -- However far the look gets, each of its calls moves the world along the relation.
      have h₁ := opened_moves ht h w
      rw [ho] at h₁
      rw [ha]
      exact h₁
    · have h₁ := opened_moves ht h w
      have h₂ := ht.connect c w₁
      rw [ho] at h₁
      rw [hc] at h₂
      rw [ha]
      exact ht.trans _ _ _ h₁ h₂
    · have h₁ := opened_moves ht h w
      have h₂ := ht.connect c w₁
      have h₃ := ht.fetch c₂ h.id h.descriptor.removesResults w₂
      rw [ho] at h₁
      rw [hc] at h₂
      rw [hf] at h₃
      obtain ⟨-, -, hbroker, hclock⟩ :=
        receive_verdict { h with connector := some c₃ } hb (t.kind c₂).name found w₃
      rw [ha]
      exact ht.trans _ _ _ (ht.trans _ _ _ (ht.trans _ _ _ h₁ h₂) h₃)
        (ht.still _ _ hbroker (Nat.le_of_eq hclock.symm))

/-- Opening a connector does not turn the clock back. -/
theorem le_clock_opened {t : Transport κ β} (ht : t.Forward) (h : Handle κ) (w : World β) :
    w.clock ≤ (h.opened t w).2.clock := opened_moves ht.moves h w

/-- A look does not turn the clock back. -/
theorem le_clock_isReady {t : Transport κ β} (ht : t.Forward) (h : Handle κ) (w : World β) :
    w.clock ≤ (h.isReady t w).2.2.clock := isReady_moves ht.moves h w

end Handle
end TaskQueue
