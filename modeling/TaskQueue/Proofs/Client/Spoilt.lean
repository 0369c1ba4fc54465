import TaskQueue.Proofs.Client.Polling

/-!
# `TaskQueue.Proofs.Client.Spoilt`: results that cannot be read

A result is spoilt if a handle that gets it answers that it is malformed. The question is whether
such a result can ever look as if it was not there.

A `Shelf` says how the connectors of a transport look for results: which connectors look there,
what they find for a task, and which looks remove nothing. `Shelf.Guarded` is what a transport has
to keep to, call by call, and `Handle.look_guarded` derives what one look comes to.

`Shelf.Undisturbed` are the runs in which nobody removes or replaces the result of a task: handles
look or wait for it gently, and anything may happen elsewhere. `Shelf.Undisturbed.found` says that
a spoilt result stays where it is in such a run.

`Shelf.MalformedTold` puts this together, and `Shelf.Guarded.malformedTold` proves it of every
guarded transport. Whoever looks at a malformed result is told so, whether the look removes it or
not. Once a gentle look was told, everybody who looks later is told the same, on any handle that
has no body yet, and no wait for the result ends with a timeout. The only other answers are errors
of somebody whom the broker does not answer.
-/

set_option autoImplicit false

namespace TaskQueue

variable {κ β : Type}

namespace Error

/-- The error says that a result is malformed. -/
def IsMalformed : Error → Prop
  | malformedResult _ => True
  | _ => False

end Error

/-- The error says that a result is malformed. -/
def ConnectorError.IsMalformed : ConnectorError → Prop
  | malformed _ => True
  | _ => False

/-- An error with no reason why a result is malformed says nothing of the kind. -/
theorem ConnectorError.not_isMalformed (e : ConnectorError)
    (h : ∀ reason, e ≠ .malformed reason) : ¬ e.IsMalformed := by
  cases e with
  | malformed reason => exact (h reason rfl).elim
  | _ => exact fun h => h

/-- An error is reported as that of a malformed result exactly if it is one. -/
theorem ConnectorError.toError_isMalformed (e : ConnectorError) :
    e.toError.IsMalformed ↔ e.IsMalformed := by
  cases e <;> exact .rfl

/-- Somebody who fetches this is told that the result is malformed. -/
def Spoilt (found : Found) : Prop :=
  ∃ reason, Handle.verdict found = .error (.malformedResult reason)

/-- There is nothing to read where nothing is found. -/
theorem not_spoilt_none : ¬ Spoilt (.ok none) := by
  rintro ⟨reason, h⟩
  cases h

/-- Where results are kept: the connectors that look there, what they find for a task, the looks
that remove nothing, given what they find, and the brokers that answer a connector. -/
structure Shelf (κ β : Type) where
  serves : κ → Prop
  found : TaskId → β → Found
  gentle : Bool → Found → Prop
  calm : κ → β → Prop

namespace Shelf

/-- What connecting has to come to: nothing moves on the shelf, and only a broker that does not
answer makes it fail. -/
structure Connecting (S : Shelf κ β) (t : Transport κ β) (c : κ) (w : World β)
    (r : Except ConnectorError Unit) (c' : κ) (w' : World β) : Prop where
  serves : S.serves c'
  found : ∀ id, S.found id w'.broker = S.found id w.broker
  calm : S.calm c w.broker → S.calm c' w'.broker
  ok : r = .ok () → t.isConnected c' = true
  error : ∀ e, r = .error e → ¬ e.IsMalformed ∧ ¬ S.calm c w.broker

/-- What a fetch has to come to: it reports what is on the shelf, or the broker does not answer,
and if it is gentle, a spoilt result stays where it is. -/
structure Fetching (S : Shelf κ β) (c : κ) (id : TaskId) (remove : Bool) (w : World β)
    (r : Found) (c' : κ) (w' : World β) : Prop where
  serves : S.serves c'
  answer : r = S.found id w.broker ∨
    ∃ e, r = .error e ∧ ¬ e.IsMalformed ∧ ¬ S.calm c w.broker
  stays : S.gentle remove (S.found id w.broker) → Spoilt (S.found id w.broker) →
    S.found id w'.broker = S.found id w.broker

/-- What each call of a transport has to keep to. -/
structure Guarded (S : Shelf κ β) (t : Transport κ β) : Prop where
  create : ∀ s d w id, S.found id (t.create s d w).2.broker = S.found id w.broker
  create_error : ∀ s d w e, (t.create s d w).1 = .error e → ¬ e.IsMalformed ∧ ¬ e.IsTimeout
  connect : ∀ c w, S.serves c →
    S.Connecting t c w (t.connect c w).1 (t.connect c w).2.1 (t.connect c w).2.2
  fetch : ∀ c id remove w, S.serves c → t.isConnected c = true →
    S.Fetching c id remove w (t.fetch c id remove w).1 (t.fetch c id remove w).2.1
      (t.fetch c id remove w).2.2

end Shelf

namespace Handle

/-- The connectors of the handle look at the shelf. -/
def Uses (S : Shelf κ β) (t : Transport κ β) (h : Handle κ) : Prop :=
  ∀ w c w', h.opened t w = (.ok c, w') → S.serves c

/-- The handle cannot get a connector that the broker answers. -/
def Hindered (S : Shelf κ β) (t : Transport κ β) (h : Handle κ) (w : World β) : Prop :=
  ∀ c w', h.opened t w = (.ok c, w') → ¬ S.calm c w'.broker

/-- A look of this handle would remove nothing. -/
def Gentle (S : Shelf κ β) (h : Handle κ) (w : World β) : Prop :=
  S.gentle h.descriptor.removesResults (S.found h.id w.broker)

/-- A handle with a connector uses it. -/
theorem uses_of_connector {S : Shelf κ β} (t : Transport κ β) {h : Handle κ} {c : κ}
    (hc : h.connector = some c) (hs : S.serves c) : h.Uses S t := by
  intro w c' w' ho
  simp only [opened, hc] at ho
  cases ho
  exact hs

section
variable {S : Shelf κ β} {t : Transport κ β}

/-- Opening a connector leaves the results alone. -/
theorem opened_found (hS : S.Guarded t) (h : Handle κ) (w : World β) (id : TaskId) :
    S.found id (h.opened t w).2.broker = S.found id w.broker := by
  unfold opened
  split
  · rfl
  · exact hS.create _ _ w id

/-- A connector that cannot be opened is no malformed result, and no time limit was over. -/
theorem opened_error (hS : S.Guarded t) {h : Handle κ} {w w' : World β} {e : Error}
    (ho : h.opened t w = (.error e, w')) : ¬ e.IsMalformed ∧ ¬ e.IsTimeout := by
  unfold opened at ho
  split at ho
  · cases ho
  · exact hS.create_error _ _ w e (congrArg (·.1) ho)

/-- What a look of a handle without a body comes to: it answers by what is on the shelf, or the
broker does not answer. A spoilt result stays where it is if the look is gentle. -/
structure Looked (S : Shelf κ β) (t : Transport κ β) (h : Handle κ) (w : World β)
    (r : Except Error Bool) (h' : Handle κ) (w' : World β) : Prop where
  uses : h'.Uses S t
  answer : r = readiness (verdict (S.found h.id w.broker)) ∨
    ∃ e, r = .error e ∧ ¬ e.IsMalformed ∧ ¬ e.IsTimeout ∧ h.Hindered S t w
  stays : h.Gentle S w → Spoilt (S.found h.id w.broker) →
    S.found h.id w'.broker = S.found h.id w.broker

/-- A look keeps to the shelf. -/
theorem look_guarded (hS : S.Guarded t) {h : Handle κ} (hb : h.body = none) (hu : h.Uses S t)
    (w : World β) : Looked S t h w (h.isReady t w).1 (h.isReady t w).2.1 (h.isReady t w).2.2 := by
  rw [isReady_of_none t hb]
  rcases ask_cases t h w with ⟨e, w₁, ho, ha⟩ | ⟨c, w₁, e, c₂, w₂, ho, hc, ha⟩ |
    ⟨c, w₁, c₂, w₂, found, c₃, w₃, ho, hc, hf, ha⟩
  · have h₁ := opened_found hS h w h.id
    obtain ⟨hm, ht⟩ := opened_error hS ho
    rw [ho] at h₁
    -- Without a connector there is none that a broker could answer.
    rw [ha]
    refine ⟨hu, .inr ⟨e, rfl, hm, ht, fun c w' ho' => ?_⟩, fun _ _ => h₁⟩
    rw [ho] at ho'
    cases ho'
  · have h₁ := opened_found hS h w h.id
    have h₂ := hS.connect c w₁ (hu w c w₁ ho)
    rw [ho] at h₁
    rw [hc] at h₂
    -- Connecting fails only where the broker is not calm, and so the handle is hindered.
    obtain ⟨hm, hcalm⟩ := h₂.error e rfl
    rw [ha]
    refine ⟨uses_of_connector t rfl h₂.serves, .inr ⟨_, rfl, ?_, e.toError_not_timeout, ?_⟩,
      fun _ _ => (h₂.found h.id).trans h₁⟩
    · rwa [e.toError_isMalformed]
    · intro c' w' ho'
      rw [ho] at ho'
      cases ho'
      exact hcalm
  · have h₁ := opened_found hS h w h.id
    have h₂ := hS.connect c w₁ (hu w c w₁ ho)
    rw [ho] at h₁
    rw [hc] at h₂
    -- Nothing moved before the fetch, so what it answers is about the shelf at the beginning.
    have hsame : S.found h.id w₂.broker = S.found h.id w.broker := (h₂.found h.id).trans h₁
    obtain ⟨hserves, hanswer, hstays⟩ :=
      hS.fetch c₂ h.id h.descriptor.removesResults w₂ h₂.serves (h₂.ok rfl)
    rw [hf] at hserves hanswer hstays
    rw [hsame] at hanswer hstays
    obtain ⟨hr, hh, hbroker, -⟩ :=
      receive_verdict { h with connector := some c₃ } hb (t.kind c₂).name found w₃
    rw [ha, hr]
    refine ⟨?_, ?_, fun hgentle hspoilt => ?_⟩
    · rw [hh]
      exact uses_of_connector t rfl hserves
    · rcases hanswer with hanswer | ⟨e, hanswer, hm, hcalm⟩
      · exact .inl (congrArg (fun f => readiness (verdict f)) hanswer)
      · simp only at hanswer
        refine .inr ⟨e.toError, by rw [hanswer]; rfl, ?_, e.toError_not_timeout, ?_⟩
        · rwa [e.toError_isMalformed]
        · intro c' w' ho'
          rw [ho] at ho'
          cases ho'
          exact fun hc' => hcalm (h₂.calm hc')
    · rw [hbroker]
      exact hstays hgentle hspoilt

/-! ## Waiting for a spoilt result -/

/-- A wait ends with the first look that fails. -/
theorem get_of_error {h h' : Handle κ} {w w' : World β} {e : Error}
    (hr : h.isReady t w = (.error e, h', w')) {tries : Nat} (htries : 0 < tries)
    (limit interval : Duration) :
    h.get t tries limit interval w = (some (.error e), h', w') := by
  obtain ⟨n, rfl⟩ := Nat.exists_eq_add_of_lt htries
  rw [get, Nat.zero_add, poll, hr]

/-- A wait for a result that is known does nothing. -/
theorem get_of_body {h : Handle κ} {b : ResultBody} (hb : h.body = some b) (tries : Nat)
    (limit interval : Duration) (w : World β) : (h.get t tries limit interval w).2.2 = w := by
  cases tries with
  | zero => rfl
  | succ n => rw [get, poll, isReady_of_body t hb]

/-- A look at a spoilt result fails. -/
theorem look_spoilt (hS : S.Guarded t) {h : Handle κ} (hb : h.body = none) (hu : h.Uses S t)
    {w : World β} {reason : String}
    (hv : verdict (S.found h.id w.broker) = .error (.malformedResult reason)) :
    ∃ e, (h.isReady t w).1 = .error e ∧ ¬ e.IsTimeout ∧
      (e = .malformedResult reason ∨ h.Hindered S t w) := by
  rcases (look_guarded hS hb hu w).answer with ha | ⟨e, ha, -, ht, hh⟩
  · rw [hv] at ha
    exact ⟨_, ha, fun h => h, .inl rfl⟩
  · exact ⟨e, ha, ht, .inr hh⟩

/-- The handle is told that the result is malformed, unless the broker does not answer it. A wait
fails with the same error as a look, and this is never that the time was over. -/
def Told (S : Shelf κ β) (t : Transport κ β) (reason : String) (h : Handle κ) (w : World β) :
    Prop :=
  ∃ e, (h.isReady t w).1 = .error e ∧ ¬ e.IsTimeout ∧
    (e = .malformedResult reason ∨ h.Hindered S t w) ∧
    ∀ tries limit interval, 0 < tries → (h.get t tries limit interval w).1 = some (.error e)

/-- Whoever looks at a spoilt result is told so. -/
theorem told_of_verdict (hS : S.Guarded t) {h : Handle κ} (hb : h.body = none)
    (hu : h.Uses S t) {w : World β} {reason : String}
    (hv : verdict (S.found h.id w.broker) = .error (.malformedResult reason)) :
    h.Told S t reason w := by
  obtain ⟨e, he, ht, hor⟩ := look_spoilt hS hb hu hv
  refine ⟨e, he, ht, hor, fun tries limit interval htries => ?_⟩
  have hr : h.isReady t w = (.error e, (h.isReady t w).2) := by rw [← he]
  rw [get_of_error hr htries]

/-- Whoever was told that a result is malformed has looked at a spoilt one. -/
theorem verdict_of_look (hS : S.Guarded t) {h : Handle κ} (hb : h.body = none)
    (hu : h.Uses S t) {w : World β} {reason : String}
    (hr : (h.isReady t w).1 = .error (.malformedResult reason)) :
    verdict (S.found h.id w.broker) = .error (.malformedResult reason) := by
  -- The look answers as the shelf has it or with a fault of the connection, which is never a
  -- malformed result.
  rcases (look_guarded hS hb hu w).answer with ha | ⟨e, ha, hm, -, -⟩
  · rw [hr] at ha
    cases hv : verdict (S.found h.id w.broker) with
    | error e =>
      rw [hv] at ha
      cases ha
      rfl
    | ok b =>
      rw [hv] at ha
      cases ha
  · rw [hr] at ha
    cases ha
    exact (hm trivial).elim

end
end Handle

namespace Shelf

/-- Runs in which nobody removes or replaces the result of a task. Handles look or wait for it
gently, and whatever else happens leaves what is found for the task as it is. -/
inductive Undisturbed (S : Shelf κ β) (t : Transport κ β) (id : TaskId) :
    World β → World β → Prop where
  | refl (w : World β) : Undisturbed S t id w w
  | look {w v : World β} (h : Handle κ) : Undisturbed S t id w v → h.id = id → h.Uses S t →
      h.Gentle S v → Undisturbed S t id w (h.isReady t v).2.2
  | wait {w v : World β} (h : Handle κ) (tries : Nat) (limit interval : Duration) :
      Undisturbed S t id w v → h.id = id → h.Uses S t → h.Gentle S v →
      Undisturbed S t id w (h.get t tries limit interval v).2.2
  | other {w v u : World β} : Undisturbed S t id w v →
      S.found id u.broker = S.found id v.broker → Undisturbed S t id w u

section
variable {S : Shelf κ β} {t : Transport κ β}

/-- A gentle look leaves a spoilt result where it is. -/
theorem Guarded.look_stays (hS : S.Guarded t) {h : Handle κ} (hu : h.Uses S t) {w : World β}
    (hg : h.Gentle S w) (hs : Spoilt (S.found h.id w.broker)) :
    S.found h.id (h.isReady t w).2.2.broker = S.found h.id w.broker := by
  cases hb : h.body with
  | some b => rw [Handle.isReady_of_body t hb]
  | none => exact (Handle.look_guarded hS hb hu w).stays hg hs

/-- So does a gentle wait, which ends with its first look. -/
theorem Guarded.wait_stays (hS : S.Guarded t) {h : Handle κ} (hu : h.Uses S t) {w : World β}
    (hg : h.Gentle S w) (hs : Spoilt (S.found h.id w.broker)) (tries : Nat)
    (limit interval : Duration) :
    S.found h.id (h.get t tries limit interval w).2.2.broker = S.found h.id w.broker := by
  cases hb : h.body with
  | some b => rw [Handle.get_of_body hb]
  | none =>
    -- Its first look fails, so a wait is one look, or none at all.
    rcases Nat.eq_zero_or_pos tries with rfl | htries
    · rfl
    · obtain ⟨reason, hv⟩ := hs
      obtain ⟨e, he, -, -⟩ := Handle.look_spoilt hS hb hu hv
      have hr : h.isReady t w = (.error e, (h.isReady t w).2) := by rw [← he]
      rw [Handle.get_of_error hr htries]
      exact (Handle.look_guarded hS hb hu w).stays hg ⟨reason, hv⟩

/-- A spoilt result that nobody disturbs stays where it is. -/
theorem Undisturbed.found (hS : S.Guarded t) {id : TaskId} {w v : World β}
    (hu : S.Undisturbed t id w v) (hs : Spoilt (S.found id w.broker)) :
    S.found id v.broker = S.found id w.broker := by
  -- Induction on the run. A look is gentle for what it finds, and by induction that is still the
  -- spoilt result.
  induction hu with
  | refl => rfl
  | look h hrun hid huses hg ih =>
    subst hid
    rw [hS.look_stays huses hg (by rw [ih]; exact hs), ih]
  | wait h tries limit interval hrun hid huses hg ih =>
    subst hid
    rw [hS.wait_stays huses hg (by rw [ih]; exact hs), ih]
  | other hrun hsame ih => rw [hsame, ih]

/-- A malformed result is never taken for one that is not there.

- `told`: whoever looks at a malformed result is told so, whether the look removes it or not;
- `again`: whoever was told still has no body, and can look again;
- `stays`: once a gentle look was told, and nobody disturbs the result, everybody who looks later
  is told the same. -/
structure MalformedTold (S : Shelf κ β) (t : Transport κ β) : Prop where
  told : ∀ (h : Handle κ) (w : World β) (reason : String), h.body = none → h.Uses S t →
    Handle.verdict (S.found h.id w.broker) = .error (.malformedResult reason) →
    h.Told S t reason w
  again : ∀ (h : Handle κ) (w : World β) (reason : String), h.body = none → h.Uses S t →
    (h.isReady t w).1 = .error (.malformedResult reason) →
    h.Same (h.isReady t w).2.1 ∧ (h.isReady t w).2.1.body = none ∧
      (h.isReady t w).2.1.Uses S t
  stays : ∀ (h : Handle κ) (w : World β) (reason : String), h.body = none → h.Uses S t →
    h.Gentle S w → (h.isReady t w).1 = .error (.malformedResult reason) →
    ∀ v, S.Undisturbed t h.id (h.isReady t w).2.2 v →
      ∀ h' : Handle κ, h'.id = h.id → h'.body = none → h'.Uses S t → h'.Told S t reason v

/-- On a guarded transport no malformed result is taken for one that is not there. -/
theorem Guarded.malformedTold (hS : S.Guarded t) : S.MalformedTold t where
  told _ _ _ hb hu hv := Handle.told_of_verdict hS hb hu hv
  again h w reason hb hu hr := by
    refine ⟨Handle.isReady_same t h w, ?_, (Handle.look_guarded hS hb hu w).uses⟩
    exact Handle.isReady_not_ready (r := (h.isReady t w).1) hb rfl (by rw [hr]; nofun)
  stays h w reason hb hu hg hr v hrun h' hid hb' hu' := by
    -- The look was told so, hence the result is spoilt; the look left it there, and so did the
    -- run.
    have hv := Handle.verdict_of_look hS hb hu hr
    have hfirst := (Handle.look_guarded hS hb hu w).stays hg ⟨reason, hv⟩
    have hlast := hrun.found hS (by rw [hfirst]; exact ⟨reason, hv⟩)
    exact Handle.told_of_verdict hS hb' hu' (by rw [hid, hlast, hfirst, hv])

end
end Shelf
end TaskQueue
