import TaskQueue.Proofs.Client.Needs
import TaskQueue.Proofs.Client.Waiting
import TaskQueue.Proofs.Telemetry.Counters

/-!
# `TaskQueue.Proofs.Client.Metering`: what clients and handles enter into the metrics

`Transport.auditing` is a transport with a record of its publish calls beside the broker: what each
of them came to. Otherwise it acts as the transport that it audits.

Here it audits the broker in memory. `Memory.Books` compares two worlds: what was entered into the
metrics meanwhile, which publish calls were made, and how many fetches the broker counted. There is
one lemma for each operation of a producer, a client and a handle, and it says which entries the
operation makes for what it does. A producer makes one entry for each publish call, and a handle one
for each fetch. A client that fetches a message makes none.
-/

set_option autoImplicit false

namespace TaskQueue

open Metrics (Entry)

/-! ## A record of the publish calls -/

/-- What the publish calls of a transport came to. -/
abbrev Receipts := List (Except ConnectorError Bool)

/-- The publish call failed, or the broker did not accept the envelope. -/
def declined : Except ConnectorError Bool → Bool
  | .ok accepted => !accepted
  | .error _ => true

namespace Transport

variable {κ β ε : Type}

/-- The world as the broker meets it. -/
def unaudited (w : World (β × Receipts)) : World β := w.around w.broker.1

/-- The world after something changed it, with the publish calls that this made. -/
def audited (w : World (β × Receipts)) (calls : Receipts) (v : World β) :
    World (β × Receipts) :=
  v.around (v.broker, w.broker.2 ++ calls)

/-- The transport with a record of its publish calls. -/
def auditing (t : Transport κ β) : Transport κ (β × Receipts) where
  create s d w :=
    let (r, v) := t.create s d (unaudited w)
    (r, audited w [] v)
  kind := t.kind
  descriptor := t.descriptor
  isConnected := t.isConnected
  connect c w :=
    let (r, c, v) := t.connect c (unaudited w)
    (r, c, audited w [] v)
  publish c routingKey body properties w :=
    let (r, c, v) := t.publish c routingKey body properties (unaudited w)
    (r, c, audited w [r] v)
  fetch c id remove w :=
    let (r, c, v) := t.fetch c id remove (unaudited w)
    (r, c, audited w [] v)
  close c w :=
    let (r, c, v) := t.close c (unaudited w)
    (r, c, audited w [] v)

/-- What happens outside of the program makes no publish call. -/
def auditingReact (react : ε → World β → World β) (e : ε) (w : World (β × Receipts)) :
    World (β × Receipts) :=
  audited w [] (react e (unaudited w))

end Transport

namespace Memory

/-! ## The books -/

/-- The broker in memory with a record of the publish calls. -/
abbrev audit : Transport Connector (Broker × Receipts) := transport.auditing

/-- The label of its backend. -/
def backendLabel : String := BackendKind.amqp.name

/-- Meanwhile these entries were made, these publish calls were made, and so many fetches. -/
structure Books (w v : World (Broker × Receipts)) (es : List Entry) (calls : Receipts)
    (fetches : Nat) : Prop where
  metrics : v.metrics = w.metrics.enterAll es
  calls : v.broker.2 = w.broker.2 ++ calls
  fetches : v.broker.1.fetches = w.broker.1.fetches + fetches

namespace Books

variable {w v u w' v' : World (Broker × Receipts)} {es fs : List Entry} {calls calls' : Receipts}
variable {n n' : Nat}

/-- If neither the metrics nor the broker changed, there is nothing to account for. -/
theorem nothing (hmetrics : v.metrics = w.metrics) (hbroker : v.broker = w.broker) :
    Books w v [] [] 0 :=
  ⟨hmetrics, by rw [hbroker, List.append_nil], by rw [hbroker, Nat.add_zero]⟩

/-- What is accounted for in two spans of time adds up. -/
theorem trans (a : Books w v es calls n) (b : Books v u fs calls' n') :
    Books w u (es ++ fs) (calls ++ calls') (n + n') :=
  ⟨by rw [b.metrics, a.metrics, Metrics.enterAll_append],
    by rw [b.calls, a.calls, List.append_assoc],
    by rw [b.fetches, a.fetches, Nat.add_assoc]⟩

/-- One more entry is made. -/
theorem enter (a : Books w v es calls n) {e : Entry} (hmetrics : u.metrics = e.enter v.metrics)
    (hbroker : u.broker = v.broker) : Books w u (es ++ [e]) calls n :=
  ⟨by rw [hmetrics, a.metrics, Metrics.enterAll_append]; rfl, by rw [hbroker, a.calls],
    by rw [hbroker, a.fetches]⟩

end Books

/-- Making a connector enters nothing. -/
theorem create_books (source : Source) (d : Descriptor) (w : World (Broker × Receipts)) :
    ∃ v, audit.create source d w = (.ok ⟨d, false⟩, v) ∧ Books w v [] [] 0 :=
  ⟨_, rfl, rfl, rfl, rfl⟩

/-- Connecting it enters nothing. -/
theorem connect_books (c : Connector) (w : World (Broker × Receipts)) :
    ∃ v, audit.connect c w = (.ok (), c.use true, v) ∧ Books w v [] [] 0 := by
  obtain ⟨d, connected⟩ := c
  cases connected <;> exact ⟨_, rfl, rfl, rfl, rfl⟩

/-- A publish call is recorded with its outcome; entering it is left to whoever made the call. -/
theorem publish_books (c : Connector) (routingKey : String) (body : Bytes)
    (properties : PublishProperties) (w : World (Broker × Receipts)) :
    ∃ accepted v, audit.publish c routingKey body properties w = (.ok accepted, c, v) ∧
      Books w v [] [.ok accepted] 0 := by
  refine ⟨_, _, rfl, rfl, rfl, ?_⟩
  show (w.broker.1.publish _).2.fetches = w.broker.1.fetches
  unfold Broker.publish
  split <;> rfl

/-- A fetch is recorded; what it found is entered by whoever asked. -/
theorem fetch_books (c : Connector) (id : TaskId) (remove : Bool)
    (w : World (Broker × Receipts)) :
    ∃ found v, audit.fetch c id remove w = (.ok found, c, v) ∧ Books w v [] [] 1 := by
  refine ⟨_, _, rfl, rfl, rfl, ?_⟩
  show (w.broker.1.fetch id remove).2.fetches = w.broker.1.fetches + 1
  simp only [Broker.fetch]
  split
  · rfl
  · split
    · rfl
    · cases remove <;> rfl

/-- Closing a connector enters nothing. -/
theorem close_books (c : Connector) (w : World (Broker × Receipts)) :
    ∃ c' v, audit.close c w = (.ok (), c', v) ∧ Books w v [] [] 0 :=
  ⟨_, _, rfl, rfl, rfl, rfl⟩

end Memory

open Memory (Broker Books audit backendLabel)

/-! ## Producers -/

namespace Producer

/-- The entry for an envelope that was handed to the broker. -/
def entry (exchange task : String) (seconds : Double) (accepted : Bool) : Entry :=
  if accepted then .submitted exchange task seconds else .failed backendLabel

/-- Publishing an envelope is one publish call and one entry for it. -/
theorem publish_books (c : Memory.Connector) (e : Envelope) (routingKey : Option String)
    (w : World (Broker × Receipts)) :
    ∃ accepted seconds v, publish audit c e routingKey w =
        (if accepted then .ok () else .error (refusal e), c.use true, v) ∧
      Books w v [entry c.descriptor.exchange e.task seconds accepted] [.ok accepted] 0 := by
  obtain ⟨w₁, hconnect, h₁⟩ := Memory.connect_books c w
  obtain ⟨accepted, w₂, hpublish, h₂⟩ := Memory.publish_books (c.use true) _ e.toBytes _
    (announced audit c e w₁)
  have hannounced : Books w₁ (announced audit c e w₁) [] [] 0 := .nothing rfl rfl
  have hbooks : Books w w₂ [] [.ok accepted] 0 := (h₁.trans hannounced).trans h₂
  rw [publish_of_connect audit hconnect hpublish]
  cases accepted with
  | false => exact ⟨false, .zero, _, rfl, hbooks.enter rfl rfl⟩
  | true => exact ⟨true, _, _, rfl, hbooks.enter rfl rfl⟩

/-- Submitting a task is the same, unless the envelope cannot be built. -/
theorem submit_books (c : Memory.Connector) (task : String) (arguments : Json.Value)
    (o : TaskOptions) (w : World (Broker × Receipts)) :
    (∃ fault v, submit audit c task arguments o w = (.error fault, c, v) ∧ Books w v [] [] 0) ∨
    ∃ e accepted seconds v, submit audit c task arguments o w =
        (if accepted then .ok e else .error (refusal e), c.use true, v) ∧
      Books w v [entry c.descriptor.exchange task seconds accepted] [.ok accepted] 0 := by
  rcases submit_cases audit c task arguments o w with
    ⟨fault, -, heq⟩ | ⟨e, r, c₁, v, hb, hp, heq⟩
  · exact .inl ⟨fault, _, heq, .nothing rfl rfl⟩
  · obtain ⟨accepted, seconds, v', hpublish, hbooks⟩ := publish_books c e o.routingKey w.freshId.2
    rw [Envelope.build_task hb] at hbooks
    rw [hpublish] at hp
    cases hp
    -- Making an id leaves the metrics and the broker as they are.
    refine .inr ⟨e, accepted, seconds, _, ?_, hbooks.metrics, hbooks.calls, hbooks.fetches⟩
    rw [heq]
    cases accepted <;> rfl

end Producer

/-! ## Clients -/

namespace Client

variable (c : Client Memory.Connector)

/-- Making a client enters nothing. -/
theorem create_books (broker backend : Descriptor) (w : World (Broker × Receipts)) :
    ∃ c v, create audit broker backend w = (.ok c, v) ∧ Books w v [] [] 0 :=
  ⟨_, _, rfl, rfl, by simp [World.note, Transport.audited, World.around], rfl⟩

/-- Connecting a client enters nothing. -/
theorem connect_books (w : World (Broker × Receipts)) :
    ∃ c' v, c.connect audit w = (.ok (), c', v) ∧ Books w v [] [] 0 := by
  obtain ⟨v, hconnect, hbooks⟩ := Memory.connect_books c.broker w
  refine ⟨{ c with broker := c.broker.use true }, v, ?_, hbooks⟩
  simp only [connect, hconnect, Except.mapError]

/-- Closing a client enters nothing. -/
theorem close_books (w : World (Broker × Receipts)) :
    ∃ c' v, c.close audit w = (.ok (), c', v) ∧ Books w v [] [] 0 :=
  ⟨_, _, rfl, rfl, by simp [Transport.audited, World.around], rfl⟩

/-- Fetching a message is a fetch without an entry. -/
theorem fetchMessage_books (taskName : String) (id : TaskId) (remove : Bool)
    (w : World (Broker × Receipts)) :
    ∃ m c' v, c.fetchMessage audit taskName id remove w = (.ok m, c', v) ∧ Books w v [] [] 1 := by
  obtain ⟨w₁, hconnect, h₁⟩ := Memory.connect_books c.backend w
  obtain ⟨found, w₂, hfetch, h₂⟩ := Memory.fetch_books (c.backend.use true) id remove w₁
  have hnoted : Books w₂ (w₂.note (fetchedEvent taskName id found)) [] [] 0 := .nothing rfl rfl
  exact ⟨found, _, _, fetchMessage_of_fetch audit hconnect hfetch, (h₁.trans h₂).trans hnoted⟩

/-- Posting a task enters a submission if it succeeds. If it fails, then no publish call was made,
or one was made and declined, and that is entered. -/
theorem post_books (task : String) (arguments : Except String Json.Value) (o : TaskOptions)
    (wantResult : Bool) (w : World (Broker × Receipts)) :
    (∃ submitted seconds c' v, c.post audit task arguments o wantResult w =
        (.ok submitted, c', v) ∧
      Books w v [.submitted c.broker.descriptor.exchange task seconds] [.ok true] 0) ∨
    ∃ fault c' v, c.post audit task arguments o wantResult w = (.error fault, c', v) ∧
      (Books w v [] [] 0 ∨ Books w v [.failed backendLabel] [.ok false] 0) := by
  rcases post_cases audit c task arguments o wantResult w with
    ⟨reason, -, heq⟩ | ⟨args, r, b, v, -, hs, heq⟩
  · exact .inr ⟨_, _, _, heq, .inl (.nothing rfl rfl)⟩
  -- Only from here on was anything built, and a built envelope is booked whether or not it is
  -- accepted.
  · rcases Producer.submit_books c.broker task args o w with
      ⟨fault, v', hsubmit, hbooks⟩ | ⟨e, accepted, seconds, v', hsubmit, hbooks⟩
    · rw [hsubmit] at hs
      cases hs
      exact .inr ⟨_, _, _, heq, .inl hbooks⟩
    · rw [hsubmit] at hs
      cases hs
      cases accepted with
      | false => exact .inr ⟨_, _, _, heq, .inr hbooks⟩
      | true => exact .inl ⟨_, _, _, _, heq, hbooks⟩

end Client

/-! ## Handles -/

namespace Handle

/-- The entries for fetches with these outcomes, and for a wait that took too long after them. -/
def entries (task : String) (outcomes : List FetchOutcome) (late : Bool) : List Entry :=
  outcomes.map (.fetched backendLabel) ++ if late then [.timedOut task] else []

section
variable (task : String) (outcomes : List FetchOutcome) (late : Bool)

/-- The entries of a wait are no submissions. -/
theorem entries_submitted : (entries task outcomes late).filterMap Entry.submitted? = [] := by
  cases late <;> simp [entries, Entry.submitted?, List.filterMap_cons]

/-- They are no failures to publish. -/
theorem entries_failed : (entries task outcomes late).filterMap Entry.failed? = [] := by
  cases late <;> simp [entries, Entry.failed?, List.filterMap_cons]

/-- Among them is one fetch for each outcome. -/
theorem entries_fetched : (entries task outcomes late).filterMap Entry.fetched? =
    outcomes.map fun o => [backendLabel, o.label] := by
  cases late <;> simp [entries, Entry.fetched?, List.filterMap_cons, List.filterMap_map,
    Function.comp_def]

/-- There is a timeout among them if the wait came to one. -/
theorem entries_timedOut : (entries task outcomes late).filterMap Entry.timedOut? =
    if late then [[task]] else [] := by
  cases late <;> simp [entries, Entry.timedOut?, List.filterMap_map, Function.comp_def]

end

/-- A handle gets its connector without an entry. -/
theorem opened_books (h : Handle Memory.Connector) (w : World (Broker × Receipts)) :
    ∃ c v, h.opened audit w = (.ok c, v) ∧ Books w v [] [] 0 := by
  unfold opened
  cases h.connector with
  | some c => exact ⟨c, w, rfl, .nothing rfl rfl⟩
  | none =>
    obtain ⟨v, hcreate, hbooks⟩ := Memory.create_books h.source h.descriptor w
    exact ⟨_, v, hcreate, hbooks⟩

/-- What was found is entered as ready if and only if it brings a body. -/
theorem receive_books (h : Handle Memory.Connector) (found : Option ResultMessage)
    (w : World (Broker × Receipts)) :
    ∃ outcome, Books w (h.receive backendLabel (.ok found) w).2.2 [.fetched backendLabel outcome]
        [] 0 ∧
      (outcome = .ready ↔ (delivered (verdict (.ok found))).isSome = true) := by
  have hkept : Books w w [] [] 0 := .nothing rfl rfl
  rcases found with _ | m
  · exact ⟨.notReady, hkept.enter rfl rfl, iff_of_false (by decide) (by decide)⟩
  · rcases hd : m.decode with e | b
    · simp only [receive, verdict, hd]
      exact ⟨.malformed, hkept.enter rfl rfl, iff_of_false (by decide) Bool.false_ne_true⟩
    · simp only [receive, verdict, hd]
      exact ⟨.ready, hkept.enter rfl rfl, iff_of_true rfl rfl⟩

/-- A look at a result that is not known is one fetch and one entry for it. It is never taken for a
wait that took too long. -/
theorem ask_books {h : Handle Memory.Connector} (hb : h.body = none)
    (w : World (Broker × Receipts)) :
    ∃ outcome, Books w (h.ask audit w).2.2 [.fetched backendLabel outcome] [] 1 ∧
      (outcome = .ready ↔ (h.ask audit w).2.1.body.isSome = true) ∧
      ∀ e, (h.ask audit w).1 = .error e → ¬ e.IsTimeout := by
  obtain ⟨c, v₁, hopened, h₁⟩ := h.opened_books w
  obtain ⟨v₂, hconnect, h₂⟩ := Memory.connect_books c v₁
  obtain ⟨found, v₃, hfetch, h₃⟩ :=
    Memory.fetch_books (c.use true) h.id h.descriptor.removesResults v₂
  -- Nothing fails on the way to the fetch, so what is entered is up to what was found.
  have ha := ask_of_fetch hopened hconnect hfetch
  let h' : Handle Memory.Connector := { h with connector := some (c.use true) }
  obtain ⟨outcome, h₄, hready⟩ := receive_books h' found v₃
  obtain ⟨hanswer, hhandle, -, -⟩ := receive_verdict h' hb backendLabel (.ok found) v₃
  refine ⟨outcome, ?_, ?_, ?_⟩
  · rw [ha]
    exact ((h₁.trans h₂).trans h₃).trans h₄
  · rw [ha, hready]
    have hbody := congrArg (fun g : Handle Memory.Connector => g.body.isSome = true) hhandle
    exact iff_of_eq hbody.symm
  · intro e he
    rw [ha] at he
    have hverdict := hanswer.symm.trans he
    rcases hv : verdict (.ok found) with f | b
    · rw [hv] at hverdict
      cases hverdict
      exact verdict_not_timeout hv
    · rw [hv] at hverdict
      cases hverdict

/-- Between the two worlds the handle became the other one. It made these fetches, of which one was
ready if it has got its body, and it waited too long or not. -/
structure Enters (h h' : Handle Memory.Connector) (w v : World (Broker × Receipts))
    (outcomes : List FetchOutcome) (late : Bool) : Prop where
  books : Books w v (entries h.taskName outcomes late) [] outcomes.length
  ready : outcomes.count .ready = (h.body.isNone && h'.body.isSome).toNat

namespace Enters

variable {h h' h'' : Handle Memory.Connector} {w v u : World (Broker × Receipts)}
variable {os os' : List FetchOutcome} {late : Bool}

/-- After looks that found nothing, and a pause, come other looks. -/
theorem trans (a : Enters h h' w v os false) (hsame : Same h h') (hb : h.body = none)
    (hb' : h'.body = none) (pause : Nat) (b : Enters h' h'' (v.sleep pause) u os' late) :
    Enters h h'' w u (os ++ os') late := by
  have hpause : Books v (v.sleep pause) [] [] 0 := .nothing rfl rfl
  have hbooks := (a.books.trans hpause).trans b.books
  have hready := a.ready
  rw [hb'] at hready
  constructor
  · simpa [entries, hsame.taskName] using hbooks
  · rw [List.count_append, hready, b.ready, hb, hb']
    simp

/-- A wait that took too long is entered when it ends. -/
theorem tooLong (a : Enters h h' w v os false) (limit : Duration) :
    Enters h h' w (h.timedOut limit v) os true := by
  have hbooks : Books w v (os.map (.fetched backendLabel)) [] os.length := by
    simpa [entries] using a.books
  exact ⟨hbooks.enter rfl rfl, a.ready⟩

end Enters

/-- A result that is not known is not a wait that took too long. -/
theorem result_not_timeout {h : Handle Memory.Connector} {e : Error}
    (he : h.result = .error e) : ¬ e.IsTimeout := by
  cases hb : h.body <;> simp [result, cached, hb, Except.map] at he
  rw [← he]
  exact fun h => h

/-- A look makes at most one fetch. -/
theorem isReady_books (h : Handle Memory.Connector) (w : World (Broker × Receipts)) :
    ∃ outcomes, Enters h (h.isReady audit w).2.1 w (h.isReady audit w).2.2 outcomes false ∧
      ∀ e, (h.isReady audit w).1 = .error e → ¬ e.IsTimeout := by
  cases hb : h.body with
  | some b =>
    rw [isReady_of_body _ hb]
    exact ⟨[], ⟨.nothing rfl rfl, by rw [hb]; rfl⟩, nofun⟩
  | none =>
    rw [isReady_of_none _ hb]
    obtain ⟨outcome, hbooks, hready, hfailed⟩ := ask_books hb w
    refine ⟨[outcome], ⟨hbooks, ?_⟩, hfailed⟩
    -- The handle has a body afterwards exactly if the one look that was taken brought it.
    rw [hb, List.count_singleton]
    cases hbody : (h.ask audit w).2.1.body with
    | none =>
      rw [hbody] at hready
      cases outcome <;> simp at hready ⊢
    | some b =>
      rw [hready.2 (by rw [hbody]; rfl)]
      rfl

/-- A look that finds nothing began without a body and ends without one. -/
theorem isReady_waiting {h h' : Handle Memory.Connector} {w w' : World (Broker × Receipts)}
    (hr : h.isReady audit w = (.ok false, h', w')) : h.body = none ∧ h'.body = none := by
  cases hb : h.body with
  | some b =>
    rw [isReady_of_body _ hb] at hr
    cases hr
  | none => exact ⟨rfl, isReady_not_ready hb hr (by simp)⟩

/-- A wait makes a fetch for each of its looks. It enters that it took too long if and only if that
is how it ends. -/
theorem poll_books (limit interval : Duration) (deadline : Option Nat) (tries : Nat)
    (h : Handle Memory.Connector) (w : World (Broker × Receipts)) :
    ∃ outcomes late, Enters h (poll audit limit interval deadline tries h w).2.1 w
        (poll audit limit interval deadline tries h w).2.2 outcomes late ∧
      (late = true → (poll audit limit interval deadline tries h w).1 =
        some (.error (h.timeoutError limit))) ∧
      (late = false → ∀ e, (poll audit limit interval deadline tries h w).1 = some (.error e) →
        ¬ e.IsTimeout) := by
  induction tries generalizing h w with
  | zero =>
    refine ⟨[], false, ⟨.nothing rfl rfl, ?_⟩, by simp, by simp [poll]⟩
    cases hb : h.body <;> simp [poll, hb]
  | succ tries ih =>
    obtain ⟨outcomes, hlook, hfailed⟩ := h.isReady_books w
    have hsame := isReady_same audit h w
    rcases poll_cases audit limit interval deadline tries h w with
      ⟨e, h', w', hr, heq⟩ | ⟨h', w', hr, heq⟩ | ⟨h', w', hr, heq⟩ | ⟨h', w', pause, hr, heq⟩
    all_goals
      rw [hr] at hlook hsame hfailed
      rw [heq]
      replace hsame : Same h h' := hsame
    · refine ⟨outcomes, false, hlook, by simp, fun _ e' he' => ?_⟩
      cases he'
      exact hfailed _ rfl
    · refine ⟨outcomes, false, hlook, by simp, fun _ e' he' => ?_⟩
      exact result_not_timeout (Option.some.inj he')
    -- Only here it is entered that the wait took too long.
    · refine ⟨outcomes, true, ?_, fun _ => ?_, by simp⟩
      · rw [hsame.timedOut]
        exact hlook.tooLong limit
      · rw [hsame.timeoutError]
    -- The entries of the looks to come follow those of this one.
    · obtain ⟨hb, hb'⟩ := isReady_waiting hr
      obtain ⟨later, late, hrest, hlate, hother⟩ := ih h' (w'.sleep pause)
      rw [hsame.timeoutError] at hlate
      exact ⟨outcomes ++ later, late, hlook.trans hsame hb hb' pause hrest, hlate, hother⟩

/-- A handle is closed without an entry. -/
theorem close_books (h : Handle Memory.Connector) (w : World (Broker × Receipts)) :
    Books w (h.close audit w).2.2 [] [] 0 := by
  unfold close
  cases h.connector with
  | none => exact .nothing rfl rfl
  | some c =>
    obtain ⟨c', v, hclose, hbooks⟩ := Memory.close_books c w
    simp only [hclose]
    exact hbooks

end Handle
end TaskQueue
