import TaskQueue.Proofs.Client.Metering
import TaskQueue.Proofs.Session.History

/-!
# `TaskQueue.Proofs.Session.Metering`: the metrics account for a run

A program works with the broker in memory, beside which there is a record of all publish calls
(`Memory.audit`). `Session.metrics_account` compares the metrics after a run with what happened in
it: the submissions that succeeded, the publish calls that were declined, the fetches that the
broker counted, the handles that got their result, and the waits that took too long.

Entries are made by producers and handles. A program may also use a connector directly, and what it
does with it is not entered, unless it is a producer that does it. So the account has one more item
for each of the things that a program can do directly. Without these the metrics are as they should
be; `Session.metrics_bypassed` is a run with all of them.

`Session.Entered` is the invariant. It says which entries were made in some moments, and one step
adds to them (`Session.step_entered`).
-/

set_option autoImplicit false

namespace TaskQueue

open Memory (Broker Books Outside audit backendLabel)
open Metrics (Entry)
open Transport (auditingReact)

namespace Session

namespace Moment

section
variable {β ε : Type} (m : Moment Memory.Connector β ε)

/-! ## What happens in a moment -/

/-- A client posts a task with success: the exchange and the name of the task. -/
def posted? : Option (List String) :=
  match m.step, m.answer with
  | .client name (.post _ task _ _ _), .submitted _ _ =>
    (m.before.clients.get? name).map fun c => [c.broker.descriptor.exchange, task]
  | _, _ => none

/-- A producer submits a task with success, or publishes an envelope, with a connector that belongs
to no client. -/
def produced? : Option (List String) :=
  match m.step, m.answer with
  | .connector name (.submit task _ _), .envelope _ =>
    (m.before.connectors.get? name).map fun c => [c.descriptor.exchange, task]
  | .connector name (.publishEnvelope envelope _), .done =>
    (m.before.connectors.get? name).bind fun c =>
      (Envelope.ofBytes envelope).toOption.map fun e => [c.descriptor.exchange, e.task]
  | _, _ => none

/-- A connector is told directly to publish, and this fails or is declined. -/
def declinedDirectly : Bool :=
  match m.step, m.answer with
  | .connector _ (.publish ..), .flag accepted => !accepted
  | .connector _ (.publish ..), .refused _ => true
  | _, _ => false

/-- A client fetches a message. -/
def asksMessage : Bool :=
  match m.step with
  | .client name (.fetchMessage ..) => (m.before.clients.get? name).isSome
  | _ => false

/-- A connector is told directly to fetch. -/
def fetchesDirectly : Bool :=
  match m.step with
  | .connector name (.fetch ..) => (m.before.connectors.get? name).isSome
  | _ => false

/-- A handle gets its result. -/
def resolves : Bool :=
  match m.step with
  | .handle name _ =>
    (m.before.handles.get? name).any (·.body.isNone) &&
      (m.after.handles.get? name).any (·.body.isSome)
  | _ => false

/-- A wait ends because it took too long: the name of the task. -/
def timedOut? : Option (List String) :=
  match m.step, m.answer with
  | .handle _ (.get ..), .failed (.timeout task _ _) => some [task]
  | _, _ => none

end
end Moment

/-! ## The entries of some moments -/

/-- In these moments the world became the other one, and these entries were made.

- `submitted`: there is one for each task that was posted, and for each that a producer submitted;
- `failed`: there is one for each publish call that was declined, but for direct ones;
- `fetched`: there is one for each fetch, but for those of messages and direct ones, and it is
  ready if a handle got its result by it;
- `timedOut`: there is one for each wait that took too long. -/
structure Entered (w : World (Broker × Receipts))
    (ms : List (Moment Memory.Connector (Broker × Receipts) Outside))
    (v : World (Broker × Receipts)) (es : List Entry) : Prop where
  metrics : v.metrics = w.metrics.enterAll es
  submitted : (es.filterMap Entry.submitted?).Perm
    (ms.filterMap Moment.posted? ++ ms.filterMap Moment.produced?)
  failed : ∃ calls, v.broker.2 = w.broker.2 ++ calls ∧
    (es.filterMap Entry.failed?).length + ms.countP Moment.declinedDirectly =
      calls.countP declined
  fetched : ∃ outcomes : List FetchOutcome,
    es.filterMap Entry.fetched? = outcomes.map (fun o => [backendLabel, o.label]) ∧
    outcomes.length + ms.countP Moment.asksMessage + ms.countP Moment.fetchesDirectly +
      w.broker.1.fetches = v.broker.1.fetches ∧
    outcomes.count .ready = ms.countP Moment.resolves
  timedOut : es.filterMap Entry.timedOut? = ms.filterMap Moment.timedOut?

namespace Entered

variable {w v u : World (Broker × Receipts)}
variable {ms ns : List (Moment Memory.Connector (Broker × Receipts) Outside)}
variable {es fs : List Entry}

/-- In no time nothing is entered. -/
theorem nothing (w : World (Broker × Receipts)) : Entered w [] w [] where
  metrics := rfl
  submitted := .refl _
  failed := ⟨[], (List.append_nil _).symm, rfl⟩
  fetched := ⟨[], rfl, Nat.zero_add _, rfl⟩
  timedOut := rfl

/-- What is entered in two spans of time is entered in both together. -/
theorem trans (a : Entered w ms v es) (b : Entered v ns u fs) :
    Entered w (ms ++ ns) u (es ++ fs) where
  metrics := by rw [b.metrics, a.metrics, Metrics.enterAll_append]
  submitted := by
    have ha := a.submitted
    have hb := b.submitted
    rw [List.perm_iff_count] at ha hb ⊢
    -- Label by label, the two permutations are equations between counts, and equations add up.
    intro labels
    have hlabels := congrArg₂ (· + ·) (ha labels) (hb labels)
    simp only [List.filterMap_append, List.count_append] at hlabels ⊢
    omega
  failed := by
    obtain ⟨calls, hcalls, hfailed⟩ := a.failed
    obtain ⟨calls', hcalls', hfailed'⟩ := b.failed
    refine ⟨calls ++ calls', by rw [hcalls', hcalls, List.append_assoc], ?_⟩
    rw [List.filterMap_append, List.length_append, List.countP_append, List.countP_append]
    omega
  fetched := by
    obtain ⟨os, hos, hfetches, hready⟩ := a.fetched
    obtain ⟨os', hos', hfetches', hready'⟩ := b.fetched
    refine ⟨os ++ os', by rw [List.filterMap_append, hos, hos', List.map_append], ?_, ?_⟩
    · rw [List.length_append, List.countP_append, List.countP_append]
      omega
    · rw [List.count_append, List.countP_append, hready, hready']
  timedOut := by rw [List.filterMap_append, List.filterMap_append, a.timedOut, b.timedOut]

end Entered

namespace Moment

variable {m : Moment Memory.Connector (Broker × Receipts) Outside}

/-- The moment makes its entries. -/
def IsEntered (m : Moment Memory.Connector (Broker × Receipts) Outside) : Prop :=
  ∃ es, Entered m.before.world [m] m.after.world es

/-- The entries of a moment are told by the books. -/
theorem entered_of_books {es : List Entry} {calls : Receipts} {n : Nat}
    (outcomes : List FetchOutcome) (hbooks : Books m.before.world m.after.world es calls n)
    (hsubmitted : es.filterMap Entry.submitted? = m.posted?.toList ++ m.produced?.toList)
    (hfailed : (es.filterMap Entry.failed?).length + m.declinedDirectly.toNat =
      calls.countP declined)
    (hfetched : es.filterMap Entry.fetched? = outcomes.map fun o => [backendLabel, o.label])
    (hn : outcomes.length + m.asksMessage.toNat + m.fetchesDirectly.toNat = n)
    (hready : outcomes.count .ready = m.resolves.toNat)
    (htimedOut : es.filterMap Entry.timedOut? = m.timedOut?.toList) : m.IsEntered := by
  -- The claim is about lists of moments, and here there is one.
  have hone : ∀ p : Moment Memory.Connector (Broker × Receipts) Outside → Bool,
      [m].countP p = (p m).toNat := by
    intro p
    rw [List.countP_singleton]
    cases p m <;> rfl
  have honly : ∀ f : Moment Memory.Connector (Broker × Receipts) Outside → Option (List String),
      [m].filterMap f = (f m).toList := by
    intro f
    rw [List.filterMap_cons]
    cases f m <;> rfl
  refine ⟨es, hbooks.metrics, ?_, ⟨calls, hbooks.calls, ?_⟩, ⟨outcomes, hfetched, ?_, ?_⟩, ?_⟩
  · rw [honly, honly, hsubmitted]
  · rw [hone, hfailed]
  · rw [hone, hone, hn, hbooks.fetches, Nat.add_comm]
  · rw [hone, hready]
  · rw [honly, htimedOut]

/-- Nothing happens in the moment that is entered or left out. -/
structure Plain (m : Moment Memory.Connector (Broker × Receipts) Outside) : Prop where
  posted : m.posted? = none
  produced : m.produced? = none
  declined : m.declinedDirectly = false
  asks : m.asksMessage = false
  fetches : m.fetchesDirectly = false
  resolves : m.resolves = false
  timedOut : m.timedOut? = none

/-- A moment that is about no submission, no fetch and no wait has no entries. -/
theorem Plain.entered (hplain : m.Plain)
    (hbooks : Books m.before.world m.after.world [] [] 0) : m.IsEntered := by
  refine entered_of_books [] hbooks ?_ ?_ rfl ?_ ?_ ?_
  · rw [hplain.posted, hplain.produced]
    rfl
  · rw [hplain.declined]
    rfl
  · rw [hplain.asks, hplain.fetches]
    rfl
  · rw [hplain.resolves]
    rfl
  · rw [hplain.timedOut]
    rfl

end Moment

/-! ## Steps -/

section
variable (s : Session Memory.Connector (Broker × Receipts))

/-- The moment of a step in which the broker in memory is audited. -/
abbrev auditMoment (step : Step Outside) : Moment Memory.Connector (Broker × Receipts) Outside :=
  moment audit (auditingReact Outside.react) s step

/-- Keeping a handle enters nothing. -/
theorem keepHandle_books (name : String) (h : Handle Memory.Connector) (via : Via) :
    Books s.world (keepHandle audit s name h via).2.world [] [] 0 := by
  cases via with
  | connector =>
    obtain ⟨v, hcreate, hbooks⟩ := Memory.create_books .given h.descriptor s.world
    simp only [keepHandle, hcreate]
    exact hbooks
  | transport | registry => exact .nothing rfl rfl

/-- A task that a client posts. -/
theorem post_entered {name : String} {c : Client Memory.Connector}
    (hc : s.clients.get? name = some c) (handle task : String)
    (arguments : Except String Json.Value) (o : TaskOptions) (wantResult : Bool) :
    (s.auditMoment (.client name (.post handle task arguments o wantResult))).IsEntered := by
  have hstep : s.step audit (auditingReact Outside.react)
      (.client name (.post handle task arguments o wantResult)) =
      actOnClient audit s name c (.post handle task arguments o wantResult) := by
    simp only [Session.step, hc]
  rcases c.post_books task arguments o wantResult s.world with
    ⟨submitted, seconds, c', v, hpost, hbooks⟩ | ⟨fault, c', v, hpost, hbooks⟩
  · -- The answer is another one if there is a handle, and the entry is the same.
    obtain ⟨withHandle, s', hdone, hworld⟩ : ∃ withHandle s',
        actOnClient audit s name c (.post handle task arguments o wantResult) =
          (.submitted withHandle submitted.id, s') ∧ s'.world = v := by
      cases submitted <;> simp only [actOnClient, hpost] <;> exact ⟨_, _, rfl, rfl⟩
    have hmoment : s.auditMoment (.client name (.post handle task arguments o wantResult)) =
        ⟨s, .client name (.post handle task arguments o wantResult),
          .submitted withHandle submitted.id, s'⟩ := by
      simp only [moment, hstep, hdone]
    rw [hmoment]
    subst hworld
    refine Moment.entered_of_books [] hbooks ?_ rfl rfl rfl rfl rfl
    simp only [Moment.posted?, Moment.produced?, hc]
    rfl
  · have hmoment : s.auditMoment (.client name (.post handle task arguments o wantResult)) =
        ⟨s, .client name (.post handle task arguments o wantResult), .failed fault,
          s.withClient name c' v⟩ := by
      simp only [moment, hstep, actOnClient, hpost]
    rw [hmoment]
    -- A submission that never reached the broker enters nothing; a declined one is a failure.
    rcases hbooks with hnone | hdeclined
    · exact Moment.Plain.entered ⟨rfl, rfl, rfl, rfl, rfl, rfl, rfl⟩ hnone
    · exact Moment.entered_of_books [] hdeclined rfl rfl rfl rfl rfl rfl

/-- What is done with a client. -/
theorem client_entered {name : String} {c : Client Memory.Connector}
    (hc : s.clients.get? name = some c) (a : ClientAct) :
    (s.auditMoment (.client name a)).IsEntered := by
  have hstep : s.step audit (auditingReact Outside.react) (.client name a) =
      actOnClient audit s name c a := by simp only [Session.step, hc]
  cases a with
  | connect =>
    obtain ⟨c', v, hconnect, hbooks⟩ := c.connect_books s.world
    refine Moment.Plain.entered ⟨rfl, rfl, rfl, rfl, rfl, rfl, rfl⟩ ?_
    simp only [moment, hstep, actOnClient, hconnect]
    exact hbooks
  | close =>
    obtain ⟨c', v, hclose, hbooks⟩ := c.close_books s.world
    refine Moment.Plain.entered ⟨rfl, rfl, rfl, rfl, rfl, rfl, rfl⟩ ?_
    simp only [moment, hstep, actOnClient, hclose]
    exact hbooks
  | debug =>
    refine Moment.Plain.entered ⟨rfl, rfl, rfl, rfl, rfl, rfl, rfl⟩ ?_
    simp only [moment, hstep]
    exact .nothing rfl rfl
  -- A message fetched through the client is counted as a fetch, but no handle waits for it.
  | fetchMessage taskName target remove =>
    obtain ⟨m, c', v, hfetch, hbooks⟩ :=
      c.fetchMessage_books taskName (s.targetId target) remove s.world
    have hmoment : s.auditMoment (.client name (.fetchMessage taskName target remove)) =
        ⟨s, .client name (.fetchMessage taskName target remove), .message m,
          s.withClient name c' v⟩ := by
      simp only [moment, hstep, actOnClient, hfetch, Answer.ofExcept]
    rw [hmoment]
    refine Moment.entered_of_books [] hbooks rfl rfl rfl ?_ rfl rfl
    simp only [Moment.asksMessage, Moment.fetchesDirectly, hc]
    rfl
  | post handle task arguments o wantResult =>
    exact s.post_entered hc handle task arguments o wantResult

/-- What is done with a handle, if it makes these entries. -/
theorem entered_of_enters {name : String} {h : Handle Memory.Connector}
    (hh : s.handles.get? name = some h) {a : HandleAct} {outcomes : List FetchOutcome}
    {late : Bool}
    (henters : Handle.Enters h (h.after audit s.world a).1 s.world (h.after audit s.world a).2
      outcomes late)
    (htimedOut : (s.auditMoment (.handle name a)).timedOut? =
      if late then some [h.taskName] else none) :
    (s.auditMoment (.handle name a)).IsEntered := by
  have hstep : s.step audit (auditingReact Outside.react) (.handle name a) =
      actOnHandle audit s name h a := by simp only [Session.step, hh]
  obtain ⟨hhandle, hworld⟩ := Handle.actOnHandle_after audit hh a
  have hbooks : Books s.world (s.auditMoment (.handle name a)).after.world
      (Handle.entries h.taskName outcomes late) [] outcomes.length := by
    simp only [moment, hstep, hworld]
    exact henters.books
  -- A handle neither submits nor fails to, so only the fetches and the timeout are left to compare.
  refine Moment.entered_of_books outcomes hbooks ?_ ?_ (Handle.entries_fetched ..) rfl ?_ ?_
  · rw [Handle.entries_submitted]
    cases a <;> rfl
  · rw [Handle.entries_failed]
    cases a <;> rfl
  · rw [henters.ready]
    simp only [moment, hstep, Moment.resolves, hh, hhandle]
    rfl
  · rw [Handle.entries_timedOut, htimedOut]
    cases late <;> rfl

/-- A wait answers with a timeout if and only if it took too long. -/
theorem timedOut_get {name : String} {h : Handle Memory.Connector}
    (hh : s.handles.get? name = some h) (limit interval : Duration) {late : Bool}
    (hlate : late = true →
      (h.get audit (tries s.world.clock limit interval) limit interval s.world).1 =
        some (.error (h.timeoutError limit)))
    (hother : late = false → ∀ e,
      (h.get audit (tries s.world.clock limit interval) limit interval s.world).1 =
        some (.error e) → ¬ e.IsTimeout) :
    (s.auditMoment (.handle name (.get limit interval))).timedOut? =
      if late then some [h.taskName] else none := by
  simp only [moment, Session.step, hh, actOnHandle, Moment.timedOut?]
  rcases hget : h.get audit (tries s.world.clock limit interval) limit interval s.world with
    ⟨r, h', w'⟩
  rw [hget] at hlate hother
  -- A wait that timed out answers with its own timeout, and one that did not answers with none.
  cases late with
  | true =>
    cases hlate rfl
    rfl
  | false =>
    rcases r with _ | e | v
    · rfl
    · have hnot := hother rfl e rfl
      cases e with
      | timeout => exact absurd trivial hnot
      | _ => rfl
    · rfl

/-- What is done with a handle. -/
theorem handle_entered {name : String} {h : Handle Memory.Connector}
    (hh : s.handles.get? name = some h) (a : HandleAct) :
    (s.auditMoment (.handle name a)).IsEntered := by
  have hready : ([] : List FetchOutcome).count .ready = (h.body.isNone && h.body.isSome).toNat := by
    cases h.body <;> rfl
  cases a with
  | isReady | isSuccess | failed | resultIfReady =>
    obtain ⟨outcomes, henters, -⟩ := h.isReady_books s.world
    exact s.entered_of_enters hh henters rfl
  -- Of all operations only a wait can look several times, and only it can be late.
  | get limit interval =>
    obtain ⟨outcomes, late, henters, hlate, hother⟩ :=
      Handle.poll_books limit interval _ _ h s.world
    exact s.entered_of_enters hh henters (s.timedOut_get hh limit interval hlate hother)
  | close =>
    have henters : Handle.Enters h (h.close audit s.world).2.1 s.world
        (h.close audit s.world).2.2 [] false := by
      refine ⟨h.close_books s.world, ?_⟩
      rw [Handle.close_body, hready]
    exact s.entered_of_enters hh henters rfl
  | forget =>
    have henters : Handle.Enters h h s.world (h.forget s.world) [] false :=
      ⟨.nothing rfl rfl, hready⟩
    exact s.entered_of_enters hh henters rfl
  | revoke =>
    have henters : Handle.Enters h h s.world (h.revoke s.world) [] false :=
      ⟨.nothing rfl rfl, hready⟩
    exact s.entered_of_enters hh henters rfl
  | status | result | traceback | state | info | debug | serialize =>
    have henters : Handle.Enters h h s.world s.world [] false := ⟨.nothing rfl rfl, hready⟩
    exact s.entered_of_enters hh henters rfl

/-- A task that is submitted with a connector. -/
theorem submit_entered {name : String} {c : Memory.Connector}
    (hc : s.connectors.get? name = some c) (task : String) (arguments : Json.Value)
    (o : TaskOptions) :
    (s.auditMoment (.connector name (.submit task arguments o))).IsEntered := by
  have hstep : s.step audit (auditingReact Outside.react)
      (.connector name (.submit task arguments o)) =
      actOnConnector audit s name c (.submit task arguments o) := by simp only [Session.step, hc]
  rcases Producer.submit_books c task arguments o s.world with
    ⟨fault, v, hsubmit, hbooks⟩ | ⟨e, accepted, seconds, v, hsubmit, hbooks⟩
  · have hmoment : s.auditMoment (.connector name (.submit task arguments o)) =
        ⟨s, .connector name (.submit task arguments o), .failed fault,
          s.withConnector name c v⟩ := by
      simp only [moment, hstep, actOnConnector, hsubmit, Answer.ofExcept]
    rw [hmoment]
    exact Moment.Plain.entered ⟨rfl, rfl, rfl, rfl, rfl, rfl, rfl⟩ hbooks
  · have hmoment : s.auditMoment (.connector name (.submit task arguments o)) =
        ⟨s, .connector name (.submit task arguments o),
          if accepted then .envelope e else .failed (Producer.refusal e),
          s.withConnector name (c.use true) v⟩ := by
      cases accepted <;>
        simp only [moment, hstep, actOnConnector, hsubmit, Answer.ofExcept] <;> rfl
    rw [hmoment]
    -- A refused publication is counted as a failure where it is submitted, so the producer has
    -- counted it.
    cases accepted with
    | false => exact Moment.entered_of_books [] hbooks rfl rfl rfl rfl rfl rfl
    | true =>
      refine Moment.entered_of_books [] hbooks ?_ rfl rfl rfl rfl rfl
      simp only [Moment.posted?, Moment.produced?, hc, if_true]
      rfl

/-- An envelope that is published with a connector, if it can be read. -/
theorem publishEnvelope_entered {name : String} {c : Memory.Connector}
    (hc : s.connectors.get? name = some c) (envelope : Bytes) (routingKey : Option String) :
    (s.auditMoment (.connector name (.publishEnvelope envelope routingKey))).IsEntered := by
  have hstep : s.step audit (auditingReact Outside.react)
      (.connector name (.publishEnvelope envelope routingKey)) =
      actOnConnector audit s name c (.publishEnvelope envelope routingKey) := by
    simp only [Session.step, hc]
  -- Bytes that are no envelope are turned down before anything is counted.
  cases he : Envelope.ofBytes envelope with
  | error fault =>
    have hmoment : s.auditMoment (.connector name (.publishEnvelope envelope routingKey)) =
        ⟨s, .connector name (.publishEnvelope envelope routingKey), .failed fault, s⟩ := by
      simp only [moment, hstep, actOnConnector, he]
    rw [hmoment]
    exact Moment.Plain.entered ⟨rfl, rfl, rfl, rfl, rfl, rfl, rfl⟩ (.nothing rfl rfl)
  | ok e =>
    obtain ⟨accepted, seconds, v, hpublish, hbooks⟩ :=
      Producer.publish_books c e routingKey s.world
    have hmoment : s.auditMoment (.connector name (.publishEnvelope envelope routingKey)) =
        ⟨s, .connector name (.publishEnvelope envelope routingKey),
          if accepted then .done else .failed (Producer.refusal e),
          s.withConnector name (c.use true) v⟩ := by
      cases accepted <;>
        simp only [moment, hstep, actOnConnector, he, hpublish, Answer.ofExcept] <;> rfl
    rw [hmoment]
    cases accepted with
    | false => exact Moment.entered_of_books [] hbooks rfl rfl rfl rfl rfl rfl
    | true =>
      refine Moment.entered_of_books [] hbooks ?_ rfl rfl rfl rfl rfl
      simp only [Moment.posted?, Moment.produced?, hc, he, if_true]
      rfl

/-- What is done with a connector that belongs to no client. -/
theorem connector_entered {name : String} {c : Memory.Connector}
    (hc : s.connectors.get? name = some c) (a : ConnectorAct) :
    (s.auditMoment (.connector name a)).IsEntered := by
  have hstep : s.step audit (auditingReact Outside.react) (.connector name a) =
      actOnConnector audit s name c a := by simp only [Session.step, hc]
  cases a with
  | state =>
    refine Moment.Plain.entered ⟨rfl, rfl, rfl, rfl, rfl, rfl, rfl⟩ ?_
    simp only [moment, hstep]
    exact .nothing rfl rfl
  | connect =>
    obtain ⟨v, hconnect, hbooks⟩ := Memory.connect_books c s.world
    refine Moment.Plain.entered ⟨rfl, rfl, rfl, rfl, rfl, rfl, rfl⟩ ?_
    simp only [moment, hstep, actOnConnector, hconnect]
    exact hbooks
  | close =>
    obtain ⟨c', v, hclose, hbooks⟩ := Memory.close_books c s.world
    refine Moment.Plain.entered ⟨rfl, rfl, rfl, rfl, rfl, rfl, rfl⟩ ?_
    simp only [moment, hstep, actOnConnector, hclose]
    exact hbooks
  -- A connector used directly sees the broker, but no producer counts for it.
  | publish routingKey body properties =>
    obtain ⟨accepted, v, hpublish, hbooks⟩ :=
      Memory.publish_books c routingKey body properties s.world
    have hmoment : s.auditMoment (.connector name (.publish routingKey body properties)) =
        ⟨s, .connector name (.publish routingKey body properties), .flag accepted,
          s.withConnector name c v⟩ := by
      simp only [moment, hstep, actOnConnector, hpublish, Answer.ofConnector]
    rw [hmoment]
    refine Moment.entered_of_books [] hbooks rfl ?_ rfl rfl rfl rfl
    cases accepted <;> rfl
  | fetch target remove =>
    obtain ⟨found, v, hfetch, hbooks⟩ := Memory.fetch_books c (s.targetId target) remove s.world
    have hmoment : s.auditMoment (.connector name (.fetch target remove)) =
        ⟨s, .connector name (.fetch target remove), .message found, s.withConnector name c v⟩ := by
      simp only [moment, hstep, actOnConnector, hfetch, Answer.ofConnector]
    rw [hmoment]
    refine Moment.entered_of_books [] hbooks rfl rfl rfl ?_ rfl rfl
    simp only [Moment.asksMessage, Moment.fetchesDirectly, hc]
    rfl
  | submit task arguments o => exact s.submit_entered hc task arguments o
  | publishEnvelope envelope routingKey =>
    exact s.publishEnvelope_entered hc envelope routingKey

/-- Every step makes its entries. -/
theorem step_entered (step : Step Outside) : (s.auditMoment step).IsEntered := by
  cases step with
  | outside e =>
    refine Moment.Plain.entered ⟨rfl, rfl, rfl, rfl, rfl, rfl, rfl⟩ ?_
    cases e <;> exact ⟨rfl, rfl, rfl⟩
  | pause d => exact Moment.Plain.entered ⟨rfl, rfl, rfl, rfl, rfl, rfl, rfl⟩ (.nothing rfl rfl)
  | newClient name broker backend =>
    obtain ⟨c, v, hcreate, hbooks⟩ := Client.create_books broker backend s.world
    refine Moment.Plain.entered ⟨rfl, rfl, rfl, rfl, rfl, rfl, rfl⟩ ?_
    simp only [moment, Session.step, hcreate]
    exact hbooks
  | newHandle name target taskName arguments descriptor via =>
    exact Moment.Plain.entered ⟨rfl, rfl, rfl, rfl, rfl, rfl, rfl⟩ (s.keepHandle_books name _ via)
  | restore name text via =>
    refine Moment.Plain.entered ⟨rfl, rfl, rfl, rfl, rfl, rfl, rfl⟩ ?_
    rw [auditMoment, moment, Session.step]
    split
    · exact .nothing rfl rfl
    · exact s.keepHandle_books name _ via
  | newConnector name descriptor source =>
    obtain ⟨v, hcreate, hbooks⟩ := Memory.create_books source descriptor s.world
    refine Moment.Plain.entered ⟨rfl, rfl, rfl, rfl, rfl, rfl, rfl⟩ ?_
    simp only [moment, Session.step, hcreate]
    exact hbooks
  -- A step on a name that nothing has does nothing, so it enters nothing.
  | client name a =>
    cases hc : s.clients.get? name with
    | some c => exact s.client_entered hc a
    | none =>
      have hmoment : s.auditMoment (.client name a) =
          ⟨s, .client name a, .missing .client, s⟩ := by simp only [moment, Session.step, hc]
      rw [hmoment]
      refine Moment.Plain.entered ⟨?_, rfl, rfl, ?_, rfl, rfl, rfl⟩ (.nothing rfl rfl)
      · cases a <;> rfl
      · cases a <;> simp [Moment.asksMessage, hc]
  | handle name a =>
    cases hh : s.handles.get? name with
    | some h => exact s.handle_entered hh a
    | none =>
      have hmoment : s.auditMoment (.handle name a) =
          ⟨s, .handle name a, .missing .handle, s⟩ := by simp only [moment, Session.step, hh]
      rw [hmoment]
      refine Moment.Plain.entered ⟨rfl, rfl, rfl, rfl, rfl, ?_, ?_⟩ (.nothing rfl rfl)
      · simp only [Moment.resolves, hh]
        rfl
      · cases a <;> rfl
  | connector name a =>
    cases hc : s.connectors.get? name with
    | some c => exact s.connector_entered hc a
    | none =>
      have hmoment : s.auditMoment (.connector name a) =
          ⟨s, .connector name a, .missing .connector, s⟩ := by simp only [moment, Session.step, hc]
      rw [hmoment]
      refine Moment.Plain.entered ⟨rfl, ?_, ?_, rfl, ?_, rfl, rfl⟩ (.nothing rfl rfl)
      · cases a <;> rfl
      · cases a <;> rfl
      · cases a <;> simp [Moment.fetchesDirectly, hc]

/-! ## The theorem -/

/-- The metrics account for what happened in some moments, between the two worlds.

- `submitted`, `submissions`: a submission is counted, under its exchange and task, for each task
  that was posted and each that a producer submitted directly;
- `timed`: each of them was timed;
- `failures`: a failure is counted for each publish call that was declined, but for direct ones;
- `fetches`: a fetch is counted for each fetch that the broker has seen, but for those of messages
  and direct ones;
- `fetchTotal`: fetches are counted under no other labels;
- `ready`: so many of them as handles got their results were ready;
- `timeouts`, `timeoutTotal`: a timeout is counted, under its task, for each wait that took too
  long. -/
structure Balanced (past : List (Moment Memory.Connector (Broker × Receipts) Outside))
    (w v : World (Broker × Receipts)) : Prop where
  submitted : ∀ labels, v.metrics.submitted.count labels =
    (past.filterMap Moment.posted?).count labels + (past.filterMap Moment.produced?).count labels
  submissions : v.metrics.submitted.total =
    (past.filterMap Moment.posted?).length + (past.filterMap Moment.produced?).length
  timed : v.metrics.timed.2 = v.metrics.submitted.total
  failures : v.metrics.failures.total + past.countP Moment.declinedDirectly =
    v.broker.2.countP declined
  fetches : v.metrics.fetches.count [backendLabel, FetchOutcome.ready.label] +
      v.metrics.fetches.count [backendLabel, FetchOutcome.notReady.label] +
      v.metrics.fetches.count [backendLabel, FetchOutcome.malformed.label] +
      past.countP Moment.asksMessage + past.countP Moment.fetchesDirectly + w.broker.1.fetches =
    v.broker.1.fetches
  fetchTotal : v.metrics.fetches.total =
    v.metrics.fetches.count [backendLabel, FetchOutcome.ready.label] +
      v.metrics.fetches.count [backendLabel, FetchOutcome.notReady.label] +
      v.metrics.fetches.count [backendLabel, FetchOutcome.malformed.label]
  ready : v.metrics.fetches.count [backendLabel, FetchOutcome.ready.label] =
    past.countP Moment.resolves
  timeouts : ∀ task, v.metrics.timeouts.count [task] =
    (past.filterMap Moment.timedOut?).count [task]
  timeoutTotal : v.metrics.timeouts.total = (past.filterMap Moment.timedOut?).length

/-- The label of an outcome tells the outcome. -/
theorem outcome_injective :
    Function.Injective fun o : FetchOutcome => [backendLabel, o.label] := by
  intro a b h
  cases a <;> cases b <;> first | rfl | simp [FetchOutcome.label] at h

/-- Every fetch has one of three outcomes. -/
theorem count_outcomes (outcomes : List FetchOutcome) :
    outcomes.count .ready + outcomes.count .notReady + outcomes.count .malformed =
      outcomes.length := by
  induction outcomes with
  | nil => rfl
  | cons o rest ih =>
    cases o <;> simp <;> omega

/-- Entries that begin with no metrics and no publish calls balance. -/
theorem Entered.balanced {w v : World (Broker × Receipts)}
    {past : List (Moment Memory.Connector (Broker × Receipts) Outside)} {es : List Entry}
    (h : Entered w past v es) (hmetrics : w.metrics = {}) (hcalls : w.broker.2 = []) :
    Balanced past w v := by
  have hnone : Counter.Sorted [] := List.Pairwise.nil
  obtain ⟨calls, hdeclined, hfailed⟩ := h.failed
  obtain ⟨outcomes, hlabels, hfetches, hready⟩ := h.fetched
  have hv := h.metrics
  rw [hmetrics, Metrics.enterAll_eq] at hv
  rw [hcalls, List.nil_append] at hdeclined
  -- The counters started at zero, so what they show are the entries.
  have hcount : ∀ o : FetchOutcome, v.metrics.fetches.count [backendLabel, o.label] =
      outcomes.count o := by
    intro o
    rw [hv, Counter.count_incrementAll hnone, hlabels]
    exact (Nat.zero_add _).trans (List.count_map_of_injective outcomes _ outcome_injective o)
  have hsubmissions : v.metrics.submitted.total =
      (past.filterMap Moment.posted?).length + (past.filterMap Moment.produced?).length := by
    rw [hv, Counter.total_incrementAll, h.submitted.length_eq, List.length_append]
    exact Nat.zero_add _
  constructor
  · intro labels
    rw [hv, Counter.count_incrementAll hnone, h.submitted.count_eq, List.count_append]
    exact Nat.zero_add _
  · exact hsubmissions
  · show v.metrics.latencies.length = _
    rw [hv, Counter.total_incrementAll, List.nil_append, Metrics.length_seconds]
    exact (Nat.zero_add _).symm
  · rw [hdeclined, ← hfailed, hv, Counter.total_incrementAll]
    exact congrArg (· + _) (Nat.zero_add _)
  · rw [hcount, hcount, hcount, count_outcomes, hfetches]
  · rw [hcount, hcount, hcount, count_outcomes, hv, Counter.total_incrementAll, hlabels,
      List.length_map]
    exact Nat.zero_add _
  · rw [hcount, hready]
  · intro task
    rw [hv, Counter.count_incrementAll hnone, h.timedOut]
    exact Nat.zero_add _
  · rw [hv, Counter.total_incrementAll, h.timedOut]
    exact Nat.zero_add _

/-- The step uses a connector directly. -/
def Step.Direct : Step Outside → Prop
  | .connector .. => True
  | _ => False

/-- Nothing is left out in a moment that does not use a connector directly. -/
theorem Moment.of_not_direct {m : Moment Memory.Connector (Broker × Receipts) Outside}
    (h : ¬ m.step.Direct) :
    m.produced? = none ∧ m.declinedDirectly = false ∧ m.fetchesDirectly = false := by
  obtain ⟨before, step, answer, after⟩ := m
  cases step with
  | connector name a => exact absurd trivial h
  | _ => exact ⟨rfl, rfl, rfl⟩

/-- Take any run of a program with the broker in memory, from a world without metrics. The metrics
account for what happened in it. In a run that uses no connector directly, all submissions are those
of clients, and no publish call and no fetch is left out.

The calls of all connectors are recorded, whatever source they are from, since the registry leads to
the broker in memory as well. -/
theorem metrics_account (w : World Broker) (steps : List (Step Outside)) :
    let start : Session Memory.Connector (Broker × Receipts) :=
      { world := { w.around (w.broker, []) with metrics := {} } }
    let past := history audit (auditingReact Outside.react) start steps
    Balanced past start.world (run audit (auditingReact Outside.react) start steps).2.world ∧
    ((∀ step ∈ steps, ¬ step.Direct) →
      past.filterMap Moment.produced? = [] ∧ past.countP Moment.declinedDirectly = 0 ∧
        past.countP Moment.fetchesDirectly = 0) := by
  intro start past
  obtain ⟨es, hentered⟩ : ∃ es, Entered start.world past
      (run audit (auditingReact Outside.react) start steps).2.world es := by
    refine history_induction (P := fun ms s => ∃ es, Entered start.world ms s.world es)
      ⟨[], .nothing _⟩ (fun ms s step entered => ?_) steps
    obtain ⟨es, hes⟩ := entered
    obtain ⟨fs, hfs⟩ := s.step_entered step
    exact ⟨es ++ fs, hes.trans hfs⟩
  refine ⟨hentered.balanced rfl rfl, fun hsteps => ?_⟩
  have hdirect : ∀ m ∈ past, ¬ m.step.Direct := by
    intro m hm
    refine hsteps m.step ?_
    have hstep : m.step ∈ past.map (·.step) := List.mem_map_of_mem hm
    rwa [history_steps] at hstep
  refine ⟨List.filterMap_eq_nil_iff.2 fun m hm => ?_, List.countP_eq_zero.2 fun m hm => ?_,
    List.countP_eq_zero.2 fun m hm => ?_⟩
  · exact (Moment.of_not_direct (hdirect m hm)).1
  · rw [(Moment.of_not_direct (hdirect m hm)).2.1]
    exact Bool.false_ne_true
  · rw [(Moment.of_not_direct (hdirect m hm)).2.2]
    exact Bool.false_ne_true

/-- A program submits a task with a connector of its own and looks for a result with it. Then the
broker refuses all publications, and the program publishes once more. -/
def bypass : List (Step Outside) :=
  [.newConnector "own" {} .given, .connector "own" (.submit "add" (.array []) {}),
    .connector "own" (.fetch (.task ⟨"7f3a"⟩) true), .outside .refuse,
    .connector "own" (.publish "celery" [] .json)]

/-- The program begins with nothing. -/
def bypassStart : Session Memory.Connector (Broker × Receipts) :=
  ⟨.start ({}, []) ⟨0, 0⟩ 0, [], [], [], ""⟩

/-- What is done with a connector directly makes a difference. There is one submission more than
tasks were posted. No failure is counted, although a publish call was declined, and no fetch,
although the broker has seen one and no client has asked for a message. -/
theorem metrics_bypassed :
    let past := history audit (auditingReact Outside.react) bypassStart bypass
    let v := (run audit (auditingReact Outside.react) bypassStart bypass).2.world
    v.metrics.submitted.total ≠ (past.filterMap Moment.posted?).length ∧
    v.metrics.failures.total ≠ v.broker.2.countP declined ∧
    v.metrics.fetches.total + past.countP Moment.asksMessage ≠ v.broker.1.fetches := by
  decide +kernel

end
end Session
end TaskQueue
