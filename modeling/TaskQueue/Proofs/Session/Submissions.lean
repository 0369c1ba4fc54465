import TaskQueue.Proofs.Session.Steps
import TaskQueue.Proofs.Task.Envelope
import TaskQueue.Transport.Memory

/-!
# `TaskQueue.Proofs.Session.Submissions`: what is published is what was submitted

A program works with the broker in memory (`Memory.transport`). Its submissions are the calls of
`Client.post` that succeeded (`Session.submissions`), and the broker has a list of what was
published. `Session.published_submissions` is about any run in which nobody goes past the clients
and publishes with a connector of his own. What the run adds to that list is one publication for
each submission, in order, and each publication carries its submission (`Submission.Carried`):
where it goes and with which properties, and a body that is read back with the id of the answer.

The broker in memory serves every source. `Session.run_beside` says when a session does not depend
on where the registry leads.

The same theorem says what the next submission comes to (`Session.Posted`). One that fails
publishes nothing and makes no handle, and if the fault is in the task the broker is not touched
at all. `Producer.submit_memory` is the case analysis behind both.
-/

set_option autoImplicit false

namespace TaskQueue

open Json

namespace Memory

/-! ## The broker -/

/-- What happens to the broker without the program: a worker stores a result that shows after
some fetches, or the broker refuses all publications from now on. -/
inductive Outside where
  | store (id : TaskId) (message : ResultMessage) (hiddenFor : Nat)
  | refuse
deriving Repr

/-- The world after it happened. -/
def Outside.react : Outside → World Broker → World Broker
  | store id message hiddenFor, w => w.setBroker (w.broker.put id message hiddenFor)
  | refuse, w => w.setBroker w.broker.refuse

/-- Nothing that happens outside changes what is published. -/
theorem Outside.react_published (e : Outside) (w : World Broker) :
    (e.react w).broker.published = w.broker.published := by
  cases e <;> rfl

/-- A fetch publishes nothing. -/
theorem Broker.fetch_published (b : Broker) (id : TaskId) (remove : Bool) :
    (b.fetch id remove).2.published = b.published := by
  unfold Broker.fetch
  dsimp only
  split
  · rfl
  · split
    · rfl
    · cases remove <;> rfl

/-- Nothing but publishing changes what is published. -/
theorem steady_published :
    transport.Steady fun w v => v.broker.published = w.broker.published where
  still _ _ h _ := by rw [h]
  trans _ _ _ h₁ h₂ := h₂.trans h₁
  create _ _ _ := rfl
  connect c w := by
    simp only [transport]
    split <;> rfl
  fetch _ id remove w := Broker.fetch_published w.broker id remove
  close _ _ := rfl

/-- The publication of an envelope for a descriptor. -/
def letter (d : Descriptor) (routingKey : Option String) (e : Envelope) : Published :=
  ⟨d.exchange, routingKey.getD d.binding, e.toBytes, Producer.properties d⟩

end Memory

/-! ## Submitting -/

namespace Producer

open Memory (Broker letter)

/-- Publishing connects, and then the broker refuses the envelope or takes it. -/
theorem publish_memory (c : Memory.Connector) (e : Envelope) (routingKey : Option String)
    (w : World Broker) :
    ∃ c' v, (publish Memory.transport c e routingKey w = (.error (refusal e), c', v) ∧
        v.broker.published = w.broker.published) ∨
      (publish Memory.transport c e routingKey w = (.ok (), c', v) ∧
        v.broker.published = w.broker.published ++ [letter c.descriptor routingKey e]) := by
  obtain ⟨d, connected⟩ := c
  unfold publish
  -- The one choice that matters is whether the broker refuses; connecting only counts.
  cases connected <;> cases hrefusing : w.broker.refusing <;>
    simp [Memory.transport, Memory.Broker.publish, settle, letter, hrefusing]

/-- A submission fails before the broker is touched, or it is refused, or it is published. -/
theorem submit_memory (c : Memory.Connector) (task : String) (arguments : Json.Value)
    (o : TaskOptions) (w : World Broker) :
    (∃ e w', submit Memory.transport c task arguments o w = (.error e, c, w') ∧
      w'.broker = w.broker) ∨
    (∃ e c' w', submit Memory.transport c task arguments o w = (.error (refusal e), c', w') ∧
      w'.broker.published = w.broker.published) ∨
    (∃ e now c' w', submit Memory.transport c task arguments o w = (.ok e, c', w') ∧
      Envelope.build now e.id task arguments o = .ok e ∧
      w'.broker.published = w.broker.published ++ [letter c.descriptor o.routingKey e]) := by
  -- The envelope is built before the broker is asked for anything.
  rcases hb : Envelope.build w.freshId.2.now w.freshId.1 task arguments o with f | e
  · refine .inl ⟨f, w.freshId.2, ?_, rfl⟩
    rw [submit]
    simp only [hb]
  · have hid := Envelope.build_id hb
    obtain ⟨c', v, ⟨hp, hpub⟩ | ⟨hp, hpub⟩⟩ := publish_memory c e o.routingKey w.freshId.2
    · refine .inr (.inl ⟨e, c', v, ?_, hpub⟩)
      rw [submit]
      simp only [hb, hp]
    · refine .inr (.inr ⟨e, w.freshId.2.now, c', v, ?_, by rwa [hid], hpub⟩)
      rw [submit]
      simp only [hb, hp]

end Producer

namespace Session

open Memory (Broker Published Outside letter)

/-! ## Runs -/

/-- A submission that succeeded: the descriptor of the broker that it went to, what was asked
for, and the id in the answer. -/
structure Submission where
  descriptor : Descriptor
  task : String
  arguments : Except String Json.Value
  options : TaskOptions
  id : TaskId

/-- The submission that a step and its answer stand for, if they do. -/
def submission? (s : Session Memory.Connector Broker) (answer : Answer) :
    Step Outside → Option Submission
  | .client name (.post _ task arguments o _) =>
    match answer, s.clients.get? name with
    | .submitted _ id, some c => some ⟨c.broker.descriptor, task, arguments, o, id⟩
    | _, _ => none
  | _ => none

/-- The submissions of a run, in order. -/
def submissions (s : Session Memory.Connector Broker) : List (Step Outside) → List Submission
  | [] => []
  | step :: rest =>
    let (answer, s') := s.step Memory.transport Outside.react step
    (submission? s answer step).toList ++ submissions s' rest

/-- The id in the answer to a submission that succeeded. -/
def Answer.submitted? : Answer → Option TaskId
  | .submitted _ id => some id
  | _ => none

/-- Nobody goes past the clients to publish. -/
def Step.ThroughClients : Step Outside → Prop
  | .connector _ a => a.Silent
  | _ => True

/-- The publication carries the submission. Its body is the envelope of the task, and it is read
back with the id of the answer if the document is not nested too deeply; the numbers are those
that JSON can hold. -/
structure Submission.Carried (x : Submission) (p : Published) : Prop where
  exchange : p.exchange = x.descriptor.exchange
  routingKey : p.routingKey = x.options.routingKey.getD x.descriptor.binding
  deliveryMode : p.properties.deliveryMode = some 2 ↔ x.descriptor.persistentMessages = true
  body : ∃ arguments now e, x.arguments = .ok arguments ∧
    Envelope.build now x.id x.task arguments x.options = .ok e ∧ p.body = e.toBytes ∧
    (arguments.json.Fits → FitsMembers x.options.extensions.entries → e.toJson.depth ≤ 127 →
      ∃ e', Envelope.ofBytes p.body = .ok e' ∧ e'.id = x.id)

/-- The fault is in the task itself. -/
def Unfit : Error → Prop
  | .invalidArguments _ | .invalidDate .. | .invalidCallback .. => True
  | _ => False

/-- What a submission comes to, by its answer. With success there is a handle if one was asked
for. A failure makes no handle and publishes nothing, and a task that is unfit does not reach the
broker. -/
def Posted (handle : String) (wantResult : Bool) (s s' : Session Memory.Connector Broker) :
    Answer → Prop
  | .submitted true id =>
    wantResult = true ∧ ∃ h, h.id = id ∧ s'.handles = s.handles.set handle h
  | .submitted false _ => wantResult = false ∧ s'.handles = s.handles
  | .failed e =>
    s'.handles = s.handles ∧ s'.world.broker.published = s.world.broker.published ∧
      (Unfit e → s'.world.broker = s.world.broker)
  | .missing .client => s' = s
  | _ => False

/-- An envelope that was built is read back with its id. -/
theorem readable {now : Instant} {id : TaskId} {task : String} {arguments : Json.Value}
    {o : TaskOptions} {e : Envelope} (h : Envelope.build now id task arguments o = .ok e)
    (ha : arguments.json.Fits) (ho : FitsMembers o.extensions.entries)
    (hdepth : e.toJson.depth ≤ 127) :
    ∃ e', Envelope.ofBytes e.toBytes = .ok e' ∧ e'.id = id :=
  ⟨e.reread,
    Envelope.ofBytes_toBytes (Envelope.build_sound h) (Envelope.build_fits h ha ho) hdepth,
    Envelope.build_id (e := e) h⟩

/-- The publication of an envelope carries the submission that it was built for. -/
theorem carried_letter {d : Descriptor} {task : String} {arguments : Json.Value}
    {o : TaskOptions} {now : Instant} {e : Envelope}
    (h : Envelope.build now e.id task arguments o = .ok e) :
    Submission.Carried ⟨d, task, .ok arguments, o, e.id⟩ (letter d o.routingKey e) where
  exchange := rfl
  routingKey := rfl
  deliveryMode := by
    cases hd : d.persistentMessages <;>
      simp [letter, Producer.properties, PublishProperties.persistent,
        PublishProperties.persistentMode, hd]
  body := by
    dsimp only [letter]
    exact ⟨arguments, now, e, rfl, h, rfl, readable h⟩

/-! ## Steps -/

/-- What a step adds to the publications is what its answer reports. -/
def Adds (s s' : Session Memory.Connector Broker) (answer : Answer) (step : Step Outside) :
    Prop :=
  ∃ ps, s'.world.broker.published = s.world.broker.published ++ ps ∧
    List.Forall₂ Submission.Carried (submission? s answer step).toList ps

/-- Without a submission nothing is added. -/
theorem Adds.nothing {s s' : Session Memory.Connector Broker} {answer : Answer}
    {step : Step Outside}
    (hp : s'.world.broker.published = s.world.broker.published)
    (hx : submission? s answer step = none) : Adds s s' answer step :=
  ⟨[], by rw [hp, List.append_nil], by rw [hx]; exact .nil⟩

/-- A submission through a client ends as its answer says. -/
theorem step_post (s : Session Memory.Connector Broker) (name handle task : String)
    (arguments : Except String Json.Value) (o : TaskOptions) (wantResult : Bool) :
    ∃ answer s', s.step Memory.transport Outside.react
        (.client name (.post handle task arguments o wantResult)) = (answer, s') ∧
      Posted handle wantResult s s' answer ∧
      Adds s s' answer (.client name (.post handle task arguments o wantResult)) := by
  cases hc : s.clients.get? name with
  | none =>
    refine ⟨.missing .client, s, ?_, rfl, .nothing rfl rfl⟩
    simp only [Session.step, hc]
  | some c =>
    cases arguments with
    | error reason =>
      -- The arguments have no JSON form, and that is found out before anything is built.
      refine ⟨.failed (Client.unrepresentable reason), s.withClient name c s.world, ?_,
        ⟨rfl, rfl, fun _ => rfl⟩, .nothing rfl rfl⟩
      simp only [Session.step, hc, actOnClient, Client.post]
    | ok arguments =>
      rcases Producer.submit_memory c.broker task arguments o s.world with
        ⟨e, w, hs, hw⟩ | ⟨e, b, w, hs, hw⟩ | ⟨e, now, b, w, hs, hb, hw⟩
      -- No envelope could be built, and the broker was not asked.
      · refine ⟨.failed e, s.withClient name { c with broker := c.broker } w, ?_,
          ⟨rfl, congrArg _ hw, fun _ => hw⟩, .nothing (congrArg _ hw) rfl⟩
        simp only [Session.step, hc, actOnClient, Client.post, hs]
      -- The broker was asked and took nothing.
      · refine ⟨.failed (Producer.refusal e), s.withClient name { c with broker := b } w, ?_,
          ⟨rfl, hw, False.elim⟩, .nothing hw rfl⟩
        simp only [Session.step, hc, actOnClient, Client.post, hs]
      · -- Published: the handle is made from the envelope, so its id is that of the publication.
        have hx : ∀ b, submission? s (.submitted b e.id)
            (.client name (.post handle task (.ok arguments) o wantResult)) =
              some ⟨c.broker.descriptor, task, .ok arguments, o, e.id⟩ := by
          intro b
          simp only [submission?, hc]
        cases wantResult with
        | false =>
          refine ⟨.submitted false e.id, s.withClient name { c with broker := b } w, ?_,
            ⟨rfl, rfl⟩, _, hw, ?_⟩
          · simp only [Session.step, hc, actOnClient, Client.post, hs]
            rfl
          · rw [hx]
            exact .cons (carried_letter hb) .nil
        | true =>
          refine ⟨.submitted true e.id, (s.withClient name { c with broker := b } w).withHandle
            handle (.new e.id e.task e.argumentsText (Memory.transport.descriptor c.backend)
              .given) w, ?_, ⟨rfl, _, rfl, rfl⟩, _, hw, ?_⟩
          · simp only [Session.step, hc, actOnClient, Client.post, hs]
            rfl
          · rw [hx]
            exact .cons (carried_letter hb) .nil

/-- A step that does not go past the clients adds to what is published what its answer
reports. -/
theorem step_adds (s : Session Memory.Connector Broker) {step : Step Outside}
    (hstep : step.ThroughClients) :
    Adds s (s.step Memory.transport Outside.react step).2
      (s.step Memory.transport Outside.react step).1 step := by
  -- A step that publishes nothing is no submission either, so both sides stay as they are.
  have hquiet : step.Silent → (∀ answer, submission? s answer step = none) →
      Adds s (s.step Memory.transport Outside.react step).2
        (s.step Memory.transport Outside.react step).1 step := fun hsilent hx =>
    .nothing (step_moves Memory.steady_published Outside.react s hsilent) (hx _)
  cases step with
  | outside e => exact .nothing (Outside.react_published e s.world) rfl
  | client name a =>
    cases a with
    | post handle task arguments o wantResult =>
      obtain ⟨answer, s', hs, -, hadds⟩ := step_post s name handle task arguments o wantResult
      rw [hs]
      exact hadds
    | connect | close | debug | fetchMessage => exact hquiet trivial fun _ => rfl
  | connector name a => exact hquiet hstep fun _ => rfl
  | pause | newClient | newHandle | restore | newConnector | handle =>
    exact hquiet trivial fun _ => rfl

/-! ## Answers -/

/-- An answer with something else than a submission reports none. -/
theorem Answer.submitted?_ofExcept {α : Type} {f : α → Answer} (hf : ∀ a, (f a).submitted? = none)
    (r : Except Error α) : (Answer.ofExcept f r).submitted? = none := by
  cases r with
  | ok a => exact hf a
  | error e => rfl

/-- Nor does the answer of a connector. -/
theorem Answer.submitted?_ofConnector {α : Type} {f : α → Answer}
    (hf : ∀ a, (f a).submitted? = none) (r : Except ConnectorError α) :
    (Answer.ofConnector f r).submitted? = none := by
  cases r with
  | ok a => exact hf a
  | error e => rfl

section
variable {κ β : Type} (t : Transport κ β)

/-- What is done with a handle is never answered as a submission. -/
theorem actOnHandle_submitted? (s : Session κ β) (name : String) (h : Handle κ)
    (a : HandleAct) : (actOnHandle t s name h a).1.submitted? = none := by
  cases a with
  | get limit interval =>
    rw [actOnHandle]
    dsimp only
    split
    · exact Answer.submitted?_ofExcept (fun _ => rfl) _
    · rfl
  | state | info | forget | revoke | debug | serialize => rfl
  | isReady | isSuccess | failed | status | result | traceback | resultIfReady | close =>
    exact Answer.submitted?_ofExcept (fun _ => rfl) _

/-- What is done with a connector is never answered as a submission. -/
theorem actOnConnector_submitted? (s : Session κ β) (name : String) (c : κ)
    (a : ConnectorAct) : (actOnConnector t s name c a).1.submitted? = none := by
  cases a with
  | state => rfl
  | connect | publish | fetch | close => exact Answer.submitted?_ofConnector (fun _ => rfl) _
  | submit => exact Answer.submitted?_ofExcept (fun _ => rfl) _
  | publishEnvelope envelope routingKey =>
    rw [actOnConnector]
    split
    · rfl
    · exact Answer.submitted?_ofExcept (fun _ => rfl) _

/-- What is done with a client is answered as a submission only if it is one. -/
theorem actOnClient_submitted? (s : Session κ β) (name : String) (c : Client κ) {a : ClientAct}
    (ha : a.Silent) : (actOnClient t s name c a).1.submitted? = none := by
  cases a with
  | debug => rfl
  | connect | close | fetchMessage => exact Answer.submitted?_ofExcept (fun _ => rfl) _
  | post => exact absurd ha id

/-- Keeping a handle is never answered as a submission. -/
theorem keepHandle_submitted? (s : Session κ β) (name : String) (h : Handle κ) (via : Via) :
    (keepHandle t s name h via).1.submitted? = none := by
  unfold keepHandle
  split
  · split <;> rfl
  · rfl

end

/-- The submissions of a step are those that its answer reports. -/
theorem step_submitted? (s : Session Memory.Connector Broker) (step : Step Outside) :
    (submission? s (s.step Memory.transport Outside.react step).1 step).map (·.id) =
      (s.step Memory.transport Outside.react step).1.submitted? := by
  cases step with
  | outside | pause => rfl
  | newClient name broker backend => rw [Session.step]; split <;> rfl
  | newHandle => exact (keepHandle_submitted? ..).symm
  | restore =>
    rw [Session.step]
    split
    · rfl
    · exact (keepHandle_submitted? ..).symm
  | newConnector => rw [Session.step]; split <;> rfl
  | handle =>
    rw [Session.step]
    split
    · exact (actOnHandle_submitted? ..).symm
    · rfl
  | connector =>
    rw [Session.step]
    split
    · exact (actOnConnector_submitted? ..).symm
    · rfl
  -- Only a client posts, and the client is looked up in the same way on both sides.
  | client name a =>
    rw [Session.step]
    split
    · rename_i c hc
      cases a with
      | post =>
        rw [actOnClient]
        split <;> simp only [submission?, hc, Option.map, Answer.submitted?]
      | connect | close | debug | fetchMessage =>
        refine Eq.symm (actOnClient_submitted? _ s name c ?_)
        trivial
    · cases a <;> simp only [submission?, Answer.submitted?, Option.map]

/-! ## The whole run -/

/-- What a run adds to the publications are its submissions, in order, and its answers report
them. -/
theorem run_adds (s : Session Memory.Connector Broker) {steps : List (Step Outside)}
    (hsteps : ∀ step ∈ steps, step.ThroughClients) :
    (∃ ps, (run Memory.transport Outside.react s steps).2.world.broker.published =
        s.world.broker.published ++ ps ∧
      List.Forall₂ Submission.Carried (submissions s steps) ps) ∧
    (submissions s steps).map (·.id) =
      (run Memory.transport Outside.react s steps).1.filterMap Answer.submitted? := by
  -- The first step adds its publications in front of those of the rest, which begins in the
  -- session that the step leaves.
  induction steps generalizing s with
  | nil => exact ⟨⟨[], (List.append_nil _).symm, .nil⟩, rfl⟩
  | cons step rest ih =>
    obtain ⟨ps, hps, hcarried⟩ := step_adds s (hsteps step List.mem_cons_self)
    have hid := step_submitted? s step
    obtain ⟨⟨qs, hqs, hrest⟩, hids⟩ := ih (s.step Memory.transport Outside.react step).2
      fun x hx => hsteps x (List.mem_cons_of_mem _ hx)
    refine ⟨⟨ps ++ qs, ?_, ?_⟩, ?_⟩
    · rw [run, hqs, hps, List.append_assoc]
    · rw [submissions]
      exact List.rel_append hcarried hrest
    · rw [submissions, run, List.map_append, hids, List.filterMap_cons]
      rw [← hid]
      cases submission? s (s.step Memory.transport Outside.react step).1 step <;> rfl

/-- The broker has exactly what was submitted. After any run in which nobody goes past the
clients, it has one more publication for each submission that succeeded, in order, which carries
that submission; the ids are those of the answers. And the next submission ends as
`Session.Posted` says: one that fails makes no handle and publishes nothing, and if the task is
unfit the broker stays as it is.

The clients of a session take their connectors from the given transport, so the registry, which
leads to the broker in memory here as well, has no part in what they publish. -/
theorem published_submissions (s : Session Memory.Connector Broker) (steps : List (Step Outside))
    (hsteps : ∀ step ∈ steps, step.ThroughClients) :
    (∃ ps, (run Memory.transport Outside.react s steps).2.world.broker.published =
        s.world.broker.published ++ ps ∧
      List.Forall₂ Submission.Carried (submissions s steps) ps) ∧
    (submissions s steps).map (·.id) =
      (run Memory.transport Outside.react s steps).1.filterMap Answer.submitted? ∧
    ∀ name handle task arguments o wantResult,
      ∃ answer s', (run Memory.transport Outside.react s steps).2.step Memory.transport
          Outside.react (.client name (.post handle task arguments o wantResult)) = (answer, s') ∧
        Posted handle wantResult (run Memory.transport Outside.react s steps).2 s' answer := by
  obtain ⟨hadds, hids⟩ := run_adds s hsteps
  refine ⟨hadds, hids, fun name handle task arguments o wantResult => ?_⟩
  obtain ⟨answer, s', hs, hposted, -⟩ := step_post
    (run Memory.transport Outside.react s steps).2 name handle task arguments o wantResult
  exact ⟨answer, s', hs, hposted⟩

/-- A session with one client of the broker in memory. -/
def shop : Session Memory.Connector Broker where
  world := .start {} ⟨0, 0⟩ 0
  clients := [("shop", ⟨⟨{}, false⟩, ⟨{}, false⟩⟩)]

/-- The client submits a task, then one without a name, and then one that the broker refuses. -/
def shopSteps : List (Step Outside) :=
  [.client "shop" (.post "sum" "add" (.ok (.array [.int 1, .int 2])) {} true),
    .handle "sum" .isReady, .client "shop" (.post "none" "" (.ok .null) {} true),
    .outside .refuse, .client "shop" (.post "late" "mul" (.ok .null) {} false)]

/-- Of the three tasks only the first one is published. -/
theorem published_submissions_shop :
    (∀ step ∈ shopSteps, step.ThroughClients) ∧
      (submissions shop shopSteps).map (·.task) = ["add"] ∧
      ∃ ps, (run Memory.transport Outside.react shop shopSteps).2.world.broker.published =
          shop.world.broker.published ++ ps ∧
        List.Forall₂ Submission.Carried (submissions shop shopSteps) ps :=
  ⟨by simp [shopSteps, Step.ThroughClients], by decide +kernel,
    (published_submissions shop shopSteps (by simp [shopSteps, Step.ThroughClients])).1⟩

end Session
end TaskQueue
