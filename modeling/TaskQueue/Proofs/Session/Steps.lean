import TaskQueue.Proofs.Client.Phases
import TaskQueue.Session

/-!
# `TaskQueue.Proofs.Session.Steps`: what a step of a program does to its world

Only submissions publish. Everything else that a program does is made of opening, connecting,
fetching and closing, and of time that passes and things that are logged. So whatever a
transport keeps in these four calls (`Transport.Steady`) is kept by every step that publishes
nothing (`Session.Step.Silent`). `Session.step_moves` says so. It is put together from one lemma
for each operation of a handle and of a client.

What a transport also keeps when it publishes (`Transport.Throughout`) is kept by every step that is
the program's own (`Session.step_throughout`).
-/

set_option autoImplicit false

namespace TaskQueue

variable {κ β ε : Type}

/-- Everything this transport does but publishing moves the world along a relation. -/
structure Transport.Steady (t : Transport κ β) (R : World β → World β → Prop) : Prop
    extends t.Moves R where
  close : ∀ c w, R w (t.close c w).2.2

/-- Everything this transport does moves the world along a relation. -/
structure Transport.Throughout (t : Transport κ β) (R : World β → World β → Prop) : Prop
    extends t.Steady R where
  publish : ∀ c routingKey body properties w,
    R w (t.publish c routingKey body properties w).2.2

/-- The relation holds of a world and itself, since nothing changed in between. -/
theorem Transport.Moves.refl {t : Transport κ β} {R : World β → World β → Prop} (ht : t.Moves R)
    (w : World β) : R w w := ht.still w w rfl (Nat.le_refl _)

section
variable {t : Transport κ β} {R : World β → World β → Prop}

namespace Handle

/-! ## Handles -/

/-- Waiting moves the world as its looks do. -/
theorem poll_moves (ht : t.Moves R) (limit interval : Duration) (deadline : Option Nat)
    (tries : Nat) (h : Handle κ) (w : World β) :
    R w (poll t limit interval deadline tries h w).2.2 := by
  exact poll_keeps (R := fun _ w _ v => R w v) t (isReady_moves ht) (fun _ w v => ht.still w v)
    (ht.trans _ _ _) limit interval deadline tries h w

/-- Closing moves the world as the transport does. -/
theorem close_moves (ht : t.Steady R) (h : Handle κ) (w : World β) :
    R w (h.close t w).2.2 := by
  unfold close
  split
  · exact ht.refl w
  · rename_i c _
    have hclose := ht.close c w
    split <;> rename_i heq <;> rw [heq] at hclose <;> exact hclose

/-- So does everything that is done with a handle. -/
theorem after_moves (ht : t.Steady R) (h : Handle κ) (w : World β) (a : Session.HandleAct) :
    R w (h.after t w a).2 := by
  cases a with
  | isReady | isSuccess | failed | resultIfReady => exact isReady_moves ht.toMoves h w
  | get limit interval => exact poll_moves ht.toMoves limit interval _ _ h w
  | close => exact close_moves ht h w
  | forget | revoke => exact ht.still _ _ rfl (Nat.le_refl _)
  | status | result | traceback | state | info | debug | serialize => exact ht.refl w

end Handle

namespace Client

/-! ## Clients -/

/-- Making a client moves the world as its transport does. -/
theorem create_moves (ht : t.Moves R) (broker backend : Descriptor) (w : World β) :
    R w (create t broker backend w).2 := by
  have h₁ := ht.create .given broker w
  unfold create
  rcases hb : t.create .given broker w with ⟨_ | b, w₁⟩ <;> rw [hb] at h₁
  · exact h₁
  · have h₂ := ht.create .given backend w₁
    simp only
    rcases hc : t.create .given backend w₁ with ⟨_ | c, w₂⟩ <;> rw [hc] at h₂
    · exact ht.trans _ _ _ h₁ h₂
    · exact ht.trans _ _ _ (ht.trans _ _ _ h₁ h₂) (ht.still _ _ rfl (Nat.le_refl _))

/-- Connecting a client moves the world as its transport does. -/
theorem connect_moves (ht : t.Moves R) (c : Client κ) (w : World β) :
    R w (c.connect t w).2.2 := ht.connect c.broker w

/-- Fetching a message moves the world as the connecting and the fetch do. -/
theorem fetchMessage_moves (ht : t.Moves R) (c : Client κ) (taskName : String) (id : TaskId)
    (remove : Bool) (w : World β) : R w (c.fetchMessage t taskName id remove w).2.2 := by
  have h₁ := ht.connect c.backend w
  unfold fetchMessage
  rcases hc : t.connect c.backend w with ⟨_ | _, b, w₁⟩ <;> rw [hc] at h₁
  · exact h₁
  · have h₂ := ht.fetch b id remove w₁
    simp only
    rcases hf : t.fetch b id remove w₁ with ⟨_ | found, b', w₂⟩ <;> rw [hf] at h₂
    · exact ht.trans _ _ _ h₁ h₂
    · exact ht.trans _ _ _ (ht.trans _ _ _ h₁ h₂) (ht.still _ _ rfl (Nat.le_refl _))

/-- Closing a client moves the world as its transport does. -/
theorem close_moves (ht : t.Steady R) (c : Client κ) (w : World β) :
    R w (c.close t w).2.2 := by
  have h₁ := ht.close c.broker w
  unfold close
  rcases hc : t.close c.broker w with ⟨_ | _, b, w₁⟩ <;> rw [hc] at h₁
  · exact h₁
  · exact ht.trans _ _ _ h₁ (ht.close c.backend w₁)

end Client

namespace Producer

/-! ## Producers -/

/-- Counting and logging what came of a publication leaves the broker alone and takes no time. -/
theorem settle_still (e : Envelope) (exchange backend : String) (started : Nat)
    (outcome : Except ConnectorError Bool) (w : World β) :
    (settle e exchange backend started outcome w).2.broker = w.broker ∧
      (settle e exchange backend started outcome w).2.clock = w.clock := by
  rcases outcome with fault | _ | _ <;> exact ⟨rfl, rfl⟩

/-- Publishing an envelope moves the world as the transport does. -/
theorem publish_moves (ht : t.Throughout R) (c : κ) (e : Envelope) (routingKey : Option String)
    (w : World β) : R w (publish t c e routingKey w).2.2 := by
  have h₁ := ht.connect c w
  unfold publish
  rcases hc : t.connect c w with ⟨_ | _, c', w₁⟩ <;> rw [hc] at h₁
  · exact h₁
  · let d := t.descriptor c
    let w₂ := w₁.note (.taskSpan e.id.text e.task d.exchange)
    have h₂ := ht.publish c' (routingKey.getD d.binding) e.toBytes (properties d) w₂
    -- The envelope is announced between connecting and publishing, which moves nothing.
    rcases hp : t.publish c' (routingKey.getD d.binding) e.toBytes (properties d) w₂ with
      ⟨outcome, c'', w₃⟩
    rw [hp] at h₂
    obtain ⟨hbroker, hclock⟩ := settle_still e d.exchange (t.kind c).name w₂.clock outcome w₃
    simp only [d, w₂] at hp
    simp only [hp]
    exact ht.trans _ _ _ (ht.trans _ _ _ h₁ (ht.still _ w₂ rfl (Nat.le_refl _)))
      (ht.trans _ _ _ h₂ (ht.still _ _ hbroker (Nat.le_of_eq hclock.symm)))

/-- So does a submission; making an id and an envelope touches nobody. -/
theorem submit_moves (ht : t.Throughout R) (c : κ) (task : String) (arguments : Json.Value)
    (o : TaskOptions) (w : World β) : R w (submit t c task arguments o w).2.2 := by
  have hfresh : R w w.freshId.2 := ht.still _ _ rfl (Nat.le_refl _)
  unfold submit
  rcases hb : Envelope.build w.freshId.2.now w.freshId.1 task arguments o with f | e
  · simp only [hb]
    exact hfresh
  · have hpublish := publish_moves ht c e o.routingKey w.freshId.2
    simp only [hb]
    rcases hp : publish t c e o.routingKey w.freshId.2 with ⟨_ | _, c', w'⟩ <;>
      rw [hp] at hpublish <;> exact ht.trans _ _ _ hfresh hpublish

end Producer

/-- Posting moves the world as the submission does. -/
theorem Client.post_moves (ht : t.Throughout R) (c : Client κ) (task : String)
    (arguments : Except String Json.Value) (o : TaskOptions) (wantResult : Bool) (w : World β) :
    R w (c.post t task arguments o wantResult w).2.2 := by
  cases arguments with
  | error reason => exact ht.refl w
  | ok arguments =>
    have hsubmit := Producer.submit_moves ht c.broker task arguments o w
    unfold Client.post
    rcases hs : Producer.submit t c.broker task arguments o w with ⟨_ | e, b, w'⟩ <;>
      rw [hs] at hsubmit <;> simp only [hs] <;> exact hsubmit

namespace Session

/-! ## Steps -/

/-- A thing that is done with a client and publishes nothing. -/
def ClientAct.Silent : ClientAct → Prop
  | post .. => False
  | _ => True

/-- A thing that is done with a connector and publishes nothing. -/
def ConnectorAct.Silent : ConnectorAct → Prop
  | publish .. | submit .. | publishEnvelope .. => False
  | _ => True

/-- A step of the program that publishes nothing. -/
def Step.Silent : Step ε → Prop
  | outside _ => False
  | client _ a => a.Silent
  | connector _ a => a.Silent
  | _ => True

/-- Keeping a handle opens a connector at most. -/
theorem keepHandle_moves (ht : t.Moves R) (s : Session κ β) (name : String) (h : Handle κ)
    (via : Via) : R s.world (keepHandle t s name h via).2.world := by
  have hcreate := ht.create .given h.descriptor s.world
  cases via with
  | connector =>
    unfold keepHandle
    rcases hc : t.create .given h.descriptor s.world with ⟨_ | c, w⟩ <;> rw [hc] at hcreate <;>
      exact hcreate
  | transport | registry => exact ht.refl _

/-- What is done with a client moves the world along the relation, unless it submits. -/
theorem actOnClient_moves (ht : t.Steady R) (s : Session κ β) (name : String) (c : Client κ)
    {a : ClientAct} (ha : a.Silent) :
    R s.world (actOnClient t s name c a).2.world := by
  cases a with
  | connect => exact Client.connect_moves ht.toMoves c s.world
  | close => exact Client.close_moves ht c s.world
  | debug => exact ht.refl _
  | fetchMessage taskName target remove =>
    exact Client.fetchMessage_moves ht.toMoves c taskName _ remove s.world
  | post => exact absurd ha id

/-- What is done with a connector moves the world along the relation, unless it publishes. -/
theorem actOnConnector_moves (ht : t.Steady R) (s : Session κ β) (name : String) (c : κ)
    {a : ConnectorAct} (ha : a.Silent) : R s.world (actOnConnector t s name c a).2.world := by
  cases a with
  | state => exact ht.refl _
  | connect => exact ht.connect c s.world
  | fetch target remove => exact ht.fetch c _ remove s.world
  | close => exact ht.close c s.world
  | publish | submit | publishEnvelope => exact absurd ha id

/-- A step that publishes nothing moves the world along the relation. -/
theorem step_moves (ht : t.Steady R) (react : ε → World β → World β) (s : Session κ β)
    {step : Step ε} (hstep : step.Silent) : R s.world (s.step t react step).2.world := by
  -- Each kind of step opens connectors or uses the ones that are there, or it leaves the broker
  -- as it is.
  cases step with
  | outside e => exact absurd hstep id
  | pause d => exact ht.still _ _ rfl (Nat.le_add_right _ _)
  | newClient name broker backend =>
    have h := Client.create_moves ht.toMoves broker backend s.world
    rw [Session.step]
    rcases hc : Client.create t broker backend s.world with ⟨_ | c, w⟩ <;> rw [hc] at h <;> exact h
  | newHandle name target taskName arguments descriptor via =>
    exact keepHandle_moves ht.toMoves s name _ via
  | restore name text via =>
    rw [Session.step]
    split
    · exact ht.refl _
    · exact keepHandle_moves ht.toMoves s name _ via
  | newConnector name descriptor source =>
    have h := ht.create source descriptor s.world
    rw [Session.step]
    rcases hc : t.create source descriptor s.world with ⟨_ | c, w⟩ <;> rw [hc] at h <;> exact h
  | client name a =>
    rw [Session.step]
    split
    · exact actOnClient_moves ht s name _ hstep
    · exact ht.refl _
  | handle name a =>
    rw [Session.step]
    split
    · rename_i h hs
      rw [(Handle.actOnHandle_after t hs a).2]
      exact Handle.after_moves ht h s.world a
    · exact ht.refl _
  | connector name a =>
    rw [Session.step]
    split
    · exact actOnConnector_moves ht s name _ hstep
    · exact ht.refl _

/-! ## Steps that may publish -/

/-- The step is the program's own. -/
def Step.Own : Step ε → Prop
  | outside _ => False
  | _ => True

/-- Whatever is done with a client moves the world along the relation. -/
theorem actOnClient_throughout (ht : t.Throughout R) (s : Session κ β) (name : String)
    (c : Client κ) (a : ClientAct) : R s.world (actOnClient t s name c a).2.world := by
  cases a with
  | post handle task arguments o wantResult =>
    have hpost := Client.post_moves ht c task arguments o wantResult s.world
    unfold actOnClient
    rcases hp : c.post t task arguments o wantResult s.world with ⟨_ | _ | _, c', w'⟩ <;>
      rw [hp] at hpost <;> simp only [hp] <;> exact hpost
  | connect | close | debug | fetchMessage => exact actOnClient_moves ht.toSteady s name c trivial

/-- Whatever is done with a connector moves the world along the relation. -/
theorem actOnConnector_throughout (ht : t.Throughout R) (s : Session κ β) (name : String) (c : κ)
    (a : ConnectorAct) : R s.world (actOnConnector t s name c a).2.world := by
  cases a with
  | publish routingKey body properties => exact ht.publish c routingKey body properties s.world
  | submit task arguments o => exact Producer.submit_moves ht c task arguments o s.world
  | publishEnvelope envelope routingKey =>
    rw [actOnConnector]
    split
    · exact ht.refl _
    · exact Producer.publish_moves ht c _ routingKey s.world
  | state | connect | fetch | close => exact actOnConnector_moves ht.toSteady s name c trivial

/-- A step of the program moves the world along the relation, whether it publishes or not. -/
theorem step_throughout (ht : t.Throughout R) (react : ε → World β → World β) (s : Session κ β)
    {step : Step ε} (hstep : step.Own) : R s.world (s.step t react step).2.world := by
  cases step with
  | outside e => exact absurd hstep id
  | client name a =>
    rw [Session.step]
    split
    · exact actOnClient_throughout ht s name _ a
    · exact ht.refl _
  | connector name a =>
    rw [Session.step]
    split
    · exact actOnConnector_throughout ht s name _ a
    · exact ht.refl _
  | pause | newClient | newHandle | restore | newConnector | handle =>
    exact step_moves ht.toSteady react s trivial

end Session

end
end TaskQueue
