import TaskQueue.Client.Basic

/-!
# `TaskQueue.Proofs.Client.Stages`: the ways in which a call of a client can end

A client passes through several stages when it submits a task, and it can stop at each of them. A
handle that waits may look many times. There is one theorem for each such call, over any transport,
that lists how it can end: `Producer.publish_cases`, `Producer.submit_cases`, `Client.post_cases`
and `Handle.poll_cases`. Other facts about these calls are derived from the list. Where every stage
succeeds, `Producer.publish_of_connect` and `Client.fetchMessage_of_fetch` say what the call comes
to.

`Handle.poll_keeps` is the rule for the loop of a wait: what every look keeps, and every passing of
time, the wait keeps.
-/

set_option autoImplicit false

namespace TaskQueue

variable {κ β : Type} (t : Transport κ β)

namespace Producer

/-- The world in which an envelope is handed to the connector. -/
def announced (c : κ) (e : Envelope) (w : World β) : World β :=
  w.note (.taskSpan e.id.text e.task (t.descriptor c).exchange)

/-- Once it is connected, publishing ends with what the connector makes of the envelope. -/
theorem publish_of_connect {c c₁ c₂ : κ} {e : Envelope} {routingKey : Option String}
    {w w₁ w₂ : World β} {outcome : Except ConnectorError Bool}
    (hc : t.connect c w = (.ok (), c₁, w₁))
    (hp : t.publish c₁ (routingKey.getD (t.descriptor c).binding) e.toBytes
      (properties (t.descriptor c)) (announced t c e w₁) = (outcome, c₂, w₂)) :
    publish t c e routingKey w =
      ((settle e (t.descriptor c).exchange (t.kind c).name w₁.clock outcome w₂).1, c₂,
        (settle e (t.descriptor c).exchange (t.kind c).name w₁.clock outcome w₂).2) := by
  rw [announced] at hp
  simp only [publish, hc, hp, World.clock_note]

/-- Publishing stops when the connector cannot be connected, or it goes on to what the connector
makes of the envelope. -/
theorem publish_cases (c : κ) (e : Envelope) (routingKey : Option String) (w : World β) :
    (∃ fault c₁ w₁, t.connect c w = (.error fault, c₁, w₁) ∧
      publish t c e routingKey w = (.error fault.toError, c₁, w₁)) ∨
    ∃ c₁ w₁ outcome c₂ w₂, t.connect c w = (.ok (), c₁, w₁) ∧
      t.publish c₁ (routingKey.getD (t.descriptor c).binding) e.toBytes
        (properties (t.descriptor c)) (announced t c e w₁) = (outcome, c₂, w₂) ∧
      publish t c e routingKey w =
        ((settle e (t.descriptor c).exchange (t.kind c).name w₁.clock outcome w₂).1, c₂,
          (settle e (t.descriptor c).exchange (t.kind c).name w₁.clock outcome w₂).2) := by
  -- The connector comes back in either case, even if it could not be connected.
  rcases hc : t.connect c w with ⟨_ | ⟨⟩, c₁, w₁⟩
  · refine .inl ⟨_, _, _, rfl, ?_⟩
    simp only [publish, hc]
  · rcases hp : t.publish c₁ (routingKey.getD (t.descriptor c).binding) e.toBytes
      (properties (t.descriptor c)) (announced t c e w₁) with ⟨outcome, c₂, w₂⟩
    exact .inr ⟨_, _, _, _, _, rfl, hp, publish_of_connect t hc hp⟩

/-- Submitting stops when no envelope can be built, or it goes on to publishing the envelope. -/
theorem submit_cases (c : κ) (task : String) (arguments : Json.Value)
    (o : TaskOptions) (w : World β) :
    (∃ fault, Envelope.build w.freshId.2.now w.freshId.1 task arguments o = .error fault ∧
      submit t c task arguments o w = (.error fault, c, w.freshId.2)) ∨
    ∃ e r c₁ w₁, Envelope.build w.freshId.2.now w.freshId.1 task arguments o = .ok e ∧
      publish t c e o.routingKey w.freshId.2 = (r, c₁, w₁) ∧
      submit t c task arguments o w = (r.map fun _ => e, c₁, w₁) := by
  rcases hb : Envelope.build w.freshId.2.now w.freshId.1 task arguments o with fault | e
  · refine .inl ⟨_, rfl, ?_⟩
    simp only [submit, hb]
  · rcases hp : publish t c e o.routingKey w.freshId.2 with ⟨_ | ⟨⟩, c₁, w₁⟩
    · refine .inr ⟨_, _, _, _, rfl, hp, ?_⟩
      simp only [submit, hb, hp, Except.map]
    · refine .inr ⟨_, _, _, _, rfl, hp, ?_⟩
      simp only [submit, hb, hp, Except.map]

end Producer

namespace Client

/-- What a client hands over for a task that was submitted. -/
def handedOver (c : Client κ) (wantResult : Bool) (e : Envelope) : Submitted κ :=
  if wantResult then
    .result (.new e.id e.task e.argumentsText (t.descriptor c.backend) .given)
  else .sent e.id

/-- Posting a task stops when its arguments have no JSON form, or it goes on to submitting it. -/
theorem post_cases (c : Client κ) (task : String) (arguments : Except String Json.Value)
    (o : TaskOptions) (wantResult : Bool) (w : World β) :
    (∃ reason, arguments = .error reason ∧
      c.post t task arguments o wantResult w = (.error (unrepresentable reason), c, w)) ∨
    ∃ args r b v, arguments = .ok args ∧ Producer.submit t c.broker task args o w = (r, b, v) ∧
      c.post t task arguments o wantResult w =
        (r.map (c.handedOver t wantResult), { c with broker := b }, v) := by
  cases arguments with
  | error reason => exact .inl ⟨reason, rfl, rfl⟩
  | ok args =>
    rcases hs : Producer.submit t c.broker task args o w with ⟨_ | e, b, v⟩
    · refine .inr ⟨_, _, _, _, rfl, hs, ?_⟩
      simp only [post, hs, Except.map]
    · refine .inr ⟨_, _, _, _, rfl, hs, ?_⟩
      simp only [post, hs, Except.map, handedOver]

/-- What is logged when a message was fetched, or was not there yet. -/
def fetchedEvent (taskName : String) (id : TaskId) (found : Option ResultMessage) : Event :=
  .message .debug "Fetched result message"
    [("task_id", .shown id.text), ("task_name", .text taskName), ("ready", .flag found.isSome)]

/-- Once the connector has fetched, fetching a message ends with what was found. -/
theorem fetchMessage_of_fetch {c : Client κ} {b b' : κ} {taskName : String} {id : TaskId}
    {remove : Bool} {w w₁ w₂ : World β} {m : Option ResultMessage}
    (hc : t.connect c.backend w = (.ok (), b, w₁))
    (hf : t.fetch b id remove w₁ = (.ok m, b', w₂)) :
    c.fetchMessage t taskName id remove w =
      (.ok m, { c with backend := b' }, w₂.note (fetchedEvent taskName id m)) := by
  simp only [fetchMessage, hc, hf, fetchedEvent]

end Client

namespace Handle

/-- A wait ends with its first look if the look fails or finds the result, or if the time is over
then; or it goes on after a pause. -/
theorem poll_cases (limit interval : Duration) (deadline : Option Nat) (tries : Nat) (h : Handle κ)
    (w : World β) :
    (∃ e h' w', h.isReady t w = (.error e, h', w') ∧
      poll t limit interval deadline (tries + 1) h w = (some (.error e), h', w')) ∨
    (∃ h' w', h.isReady t w = (.ok true, h', w') ∧
      poll t limit interval deadline (tries + 1) h w = (some h'.result, h', w')) ∨
    (∃ h' w', h.isReady t w = (.ok false, h', w') ∧
      poll t limit interval deadline (tries + 1) h w =
        (some (.error (h'.timeoutError limit)), h', h'.timedOut limit w')) ∨
    ∃ h' w' pause, h.isReady t w = (.ok false, h', w') ∧
      poll t limit interval deadline (tries + 1) h w =
        poll t limit interval deadline tries h' (w'.sleep pause) := by
  rcases hr : h.isReady t w with ⟨e | _ | _, h', w'⟩
  · refine .inl ⟨_, _, _, rfl, ?_⟩
    simp only [poll, hr]
  -- Nothing is there yet. Without a deadline the wait goes on at any time, with one only before it.
  · cases deadline with
    | none =>
      refine .inr (.inr (.inr ⟨_, _, interval.nanoseconds, rfl, ?_⟩))
      simp only [poll, hr]
    | some d =>
      by_cases hd : d ≤ w'.clock
      · refine .inr (.inr (.inl ⟨_, _, rfl, ?_⟩))
        simp only [poll, hr, if_pos hd]
      · refine .inr (.inr (.inr ⟨_, _, min interval.nanoseconds (d - w'.clock), rfl, ?_⟩))
        simp only [poll, hr, if_neg hd]
  · refine .inr (.inl ⟨_, _, rfl, ?_⟩)
    simp only [poll, hr]

/-- A round of a wait is a look. After it, time may pass, and if nothing was found the wait may go
on from there. -/
theorem poll_round (limit interval : Duration) (deadline : Option Nat) (tries : Nat) (h : Handle κ)
    (w : World β) :
    ∃ v, v.broker = (h.isReady t w).2.2.broker ∧ (h.isReady t w).2.2.clock ≤ v.clock ∧
      ((poll t limit interval deadline (tries + 1) h w).2 = ((h.isReady t w).2.1, v) ∨
        (h.isReady t w).1 = .ok false ∧ poll t limit interval deadline (tries + 1) h w =
          poll t limit interval deadline tries (h.isReady t w).2.1 v) := by
  rcases poll_cases t limit interval deadline tries h w with
    ⟨e, h', w', hr, heq⟩ | ⟨h', w', hr, heq⟩ | ⟨h', w', hr, heq⟩ | ⟨h', w', pause, hr, heq⟩
  all_goals rw [hr, heq]
  · exact ⟨w', rfl, Nat.le_refl _, .inl rfl⟩
  · exact ⟨w', rfl, Nat.le_refl _, .inl rfl⟩
  · exact ⟨h'.timedOut limit w', rfl, Nat.le_refl _, .inl rfl⟩
  · exact ⟨w'.sleep pause, rfl, Nat.le_add_right _ _, .inr ⟨rfl, rfl⟩⟩

/-- The rule for the loop: a relation that every look keeps, and that is kept while time passes and
the broker stays as it is, is kept by a wait. -/
theorem poll_keeps {R : Handle κ → World β → Handle κ → World β → Prop}
    (look : ∀ h w, R h w (h.isReady t w).2.1 (h.isReady t w).2.2)
    (idle : ∀ h w v, v.broker = w.broker → w.clock ≤ v.clock → R h w h v)
    (trans : ∀ {h₁ h₂ h₃ w₁ w₂ w₃}, R h₁ w₁ h₂ w₂ → R h₂ w₂ h₃ w₃ → R h₁ w₁ h₃ w₃)
    (limit interval : Duration) (deadline : Option Nat) (tries : Nat) (h : Handle κ)
    (w : World β) :
    R h w (poll t limit interval deadline tries h w).2.1
      (poll t limit interval deadline tries h w).2.2 := by
  induction tries generalizing h w with
  | zero => exact idle h w w rfl (Nat.le_refl _)
  | succ tries ih =>
    -- A round is a look, and then a pause that leaves the broker alone.
    obtain ⟨v, hbroker, hclock, hround⟩ := poll_round t limit interval deadline tries h w
    have hlook := trans (look h w) (idle _ _ v hbroker hclock)
    rcases hround with hends | ⟨-, hgoes⟩
    · rw [hends]
      exact hlook
    · rw [hgoes]
      exact trans hlook (ih _ v)

end Handle
end TaskQueue
