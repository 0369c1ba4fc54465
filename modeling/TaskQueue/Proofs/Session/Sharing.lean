import TaskQueue.Proofs.Client.Reports
import TaskQueue.Proofs.Session.Submissions
import TaskQueue.Proofs.Transport.Fetches

/-!
# `TaskQueue.Proofs.Session.Sharing`: one result for many who ask

A worker stores a result once, and a program asks for it with as many handles and clients as it
likes. Some of them remove what they find and some do not. `Session.shared_result` is about any run
after the result was stored in which the worker does not store another one for the task. The fetches
of the task that were made in the run share the result (`Memory.Shared`), and what is found next is
told by them: `Memory.Offers` says so of a look by any handle, of a message that any client asks
for, and of everything else that is done with a handle. A handle that gets a body gets the one that
is in the message, so all handles agree (`Session.Agree`).

The invariant is `Memory.Read`: what is stored for a task changes by the fetches that are recorded
and by nothing else. Every call of the transport keeps to it (`Memory.read_throughout`), and so does
every step of the program.
-/

set_option autoImplicit false

namespace TaskQueue

open Transport (recording recorded unrecorded recordingReact fetchesOf)

namespace Session

/-- The worker does not store a result for the task. -/
def Step.Spares (id : TaskId) : Step Memory.Outside → Prop
  | .outside (.store other ..) => other ≠ id
  | _ => True

end Session

namespace Memory

/-! ## What is stored for one task -/

/-- What is stored for a task. -/
def stored? (id : TaskId) (w : World (Broker × List Fetch)) : Option Stored :=
  w.broker.1.results.get? id

/-- What is stored for a task changed by the fetches that were recorded. -/
def Read (id : TaskId) (w v : World (Broker × List Fetch)) : Prop :=
  ∃ fs, v.broker.2 = w.broker.2 ++ fs ∧
    Reads (stored? id w) (fs.filter (·.id = id)) (stored? id v)

/-- A world in which nothing was stored or fetched in the meantime. -/
theorem Read.of_same {id : TaskId} {w v : World (Broker × List Fetch)}
    (hresults : v.broker.1.results = w.broker.1.results) (hfetches : v.broker.2 = w.broker.2) :
    Read id w v := by
  refine ⟨[], by rw [hfetches, List.append_nil], ?_⟩
  show stored? id v = stored? id w
  rw [stored?, stored?, hresults]

/-- Opening a connector notes a host and nothing else. -/
theorem create_recorded (source : Source) (d : Descriptor) (w : World (Broker × List Fetch)) :
    ∃ v, transport.recording.create source d w = (.ok ⟨d, false⟩, v) ∧
      v.broker.1.results = w.broker.1.results ∧ v.broker.2 = w.broker.2 :=
  ⟨_, rfl, rfl, List.append_nil _⟩

/-- Connecting counts and nothing else. -/
theorem connect_recorded (c : Connector) (w : World (Broker × List Fetch)) :
    ∃ c' v, transport.recording.connect c w = (.ok (), c', v) ∧
      v.broker.1.results = w.broker.1.results ∧ v.broker.2 = w.broker.2 := by
  cases hc : c.connected with
  | true =>
    refine ⟨c, recorded w [] (unrecorded w), ?_, rfl, List.append_nil _⟩
    simp only [recording, transport, hc, if_true]
  | false =>
    refine ⟨{ c with connected := true }, recorded w [] ((unrecorded w).setBroker
      { w.broker.1 with connects := w.broker.1.connects + 1 }), ?_, rfl, List.append_nil _⟩
    simp only [recording, transport, hc]
    rfl

/-- A fetch is recorded with what a glance at its task finds. -/
theorem fetch_recorded (c : Connector) (id : TaskId) (remove : Bool)
    (w : World (Broker × List Fetch)) :
    ∃ v, transport.recording.fetch c id remove w = (.ok (glance remove (stored? id w)).1, c, v) ∧
      v.broker.2 = w.broker.2 ++ [⟨id, remove, .ok (glance remove (stored? id w)).1⟩] ∧
      ∀ other, stored? other v =
        if id = other then (glance remove (stored? id w)).2 else stored? other w := by
  have hfound : (w.broker.1.fetch id remove).1 = (glance remove (stored? id w)).1 :=
    fetch_glance _ _ _
  refine ⟨(transport.recording.fetch c id remove w).2.2, ?_, ?_, fun other => ?_⟩
  · rw [← hfound]
    rfl
  · rw [← hfound]
    rfl
  · exact stored_fetch w.broker.1 id other remove

/-- Whatever the transport does, what is stored for a task changes by the recorded fetches. -/
theorem read_throughout (id : TaskId) : transport.recording.Throughout (Read id) where
  still w v hbroker _ := .of_same (by rw [hbroker]) (by rw [hbroker])
  trans := by
    rintro w v u ⟨fs, hfs, hreads⟩ ⟨gs, hgs, hreads'⟩
    refine ⟨fs ++ gs, by rw [hgs, hfs, List.append_assoc], ?_⟩
    rw [List.filter_append]
    exact hreads.append hreads'
  create source d w := by
    obtain ⟨v, hv, hresults, hfetches⟩ := create_recorded source d w
    rw [hv]
    exact .of_same hresults hfetches
  connect c w := by
    obtain ⟨c', v, hv, hresults, hfetches⟩ := connect_recorded c w
    rw [hv]
    exact .of_same hresults hfetches
  fetch c other remove w := by
    obtain ⟨v, hv, hfetches, hstored⟩ := fetch_recorded c other remove w
    rw [hv]
    refine ⟨_, hfetches, ?_⟩
    -- A fetch for another task does not read this result.
    by_cases h : other = id
    · subst h
      simp [Reads, hstored]
    · simp [Reads, hstored, h]
  close c w := .of_same rfl (List.append_nil _)
  publish c routingKey body properties w := by
    refine .of_same ?_ (List.append_nil _)
    show (w.broker.1.publish _).2.results = w.broker.1.results
    unfold Broker.publish
    split <;> rfl

/-- The worker stores a result. -/
theorem stored?_store (id : TaskId) (m : ResultMessage) (n : Nat)
    (w : World (Broker × List Fetch)) :
    stored? id (recordingReact Outside.react (.store id m n) w) = some ⟨m, n⟩ :=
  (Results.get?_put _ _ _ _).trans (if_pos rfl)

/-- What happens elsewhere leaves the result of a task alone. -/
theorem read_outside {id : TaskId} {e : Outside} (he : (Session.Step.outside e).Spares id)
    (w : World (Broker × List Fetch)) : Read id w (recordingReact Outside.react e w) := by
  cases e with
  | store other m n =>
    refine ⟨[], rfl, ?_⟩
    exact (Results.get?_put _ _ _ _).trans (if_neg he)
  | refuse => exact .of_same rfl (List.append_nil _)

/-! ## Those who ask -/

open Handle (readiness verdict delivered)

/-- A look of a handle without a body is one fetch, and the handle makes of it what it makes of any
message. -/
theorem isReady_recorded {h : Handle Connector} (hb : h.body = none)
    (w : World (Broker × List Fetch)) :
    ∃ h' v, h.isReady transport.recording w =
        (readiness (verdict (.ok (glance h.descriptor.removesResults (stored? h.id w)).1)), h', v) ∧
      h'.body = delivered (verdict (.ok (glance h.descriptor.removesResults (stored? h.id w)).1)) ∧
      v.broker.2 = w.broker.2 ++ [⟨h.id, h.descriptor.removesResults,
        .ok (glance h.descriptor.removesResults (stored? h.id w)).1⟩] := by
  obtain ⟨c, w₁, ho, hresults₁, hfetches₁⟩ : ∃ c v, h.opened transport.recording w = (.ok c, v) ∧
      v.broker.1.results = w.broker.1.results ∧ v.broker.2 = w.broker.2 := by
    cases hc : h.connector with
    | some c => exact ⟨c, w, by simp only [Handle.opened, hc], rfl, rfl⟩
    | none =>
      obtain ⟨v, hv, hresults, hfetches⟩ := create_recorded h.source h.descriptor w
      exact ⟨⟨h.descriptor, false⟩, v, by simp only [Handle.opened, hc, hv], hresults, hfetches⟩
  obtain ⟨c₂, w₂, hc, hresults₂, hfetches₂⟩ := connect_recorded c w₁
  obtain ⟨w₃, hf, hfetches₃, -⟩ := fetch_recorded c₂ h.id h.descriptor.removesResults w₂
  have hstored : stored? h.id w₂ = stored? h.id w := by
    rw [stored?, stored?, hresults₂, hresults₁]
  rw [hstored] at hf hfetches₃
  obtain ⟨hr, hh, hbroker, -⟩ := Handle.receive_verdict { h with connector := some c₂ } hb
    (transport.recording.kind c₂).name
    (.ok (glance h.descriptor.removesResults (stored? h.id w)).1) w₃
  -- Nothing can fail on the way, so the look gets as far as the fetch.
  have hlook : h.isReady transport.recording w =
      { h with connector := some c₂ }.receive (transport.recording.kind c₂).name
        (.ok (glance h.descriptor.removesResults (stored? h.id w)).1) w₃ := by
    rw [Handle.isReady_of_none _ hb]
    exact Handle.ask_of_fetch ho hc hf
  refine ⟨_, _, hlook.trans (Prod.ext hr rfl), ?_, ?_⟩
  · rw [hh]
  · rw [hbroker, hfetches₃, hfetches₂, hfetches₁]

/-- A client that asks for the message makes one fetch and hands over what it finds. -/
theorem fetchMessage_recorded (c : Client Connector) (taskName : String) (id : TaskId)
    (remove : Bool) (w : World (Broker × List Fetch)) :
    ∃ c' v, c.fetchMessage transport.recording taskName id remove w =
        (.ok (glance remove (stored? id w)).1, c', v) ∧
      v.broker.2 = w.broker.2 ++ [⟨id, remove, .ok (glance remove (stored? id w)).1⟩] := by
  obtain ⟨b, w₁, hc, hresults, hfetches₁⟩ := connect_recorded c.backend w
  obtain ⟨w₂, hf, hfetches₂, -⟩ := fetch_recorded b id remove w₁
  have hstored : stored? id w₁ = stored? id w := by rw [stored?, stored?, hresults]
  rw [hstored] at hf hfetches₂
  exact ⟨_, _, Client.fetchMessage_of_fetch _ hc hf, hfetches₂.trans (by rw [hfetches₁])⟩

/-! ## Bodies -/

/-- Whatever is stored for the task is this message. -/
def Holds (id : TaskId) (m : ResultMessage) (w : World (Broker × List Fetch)) : Prop :=
  ∀ s, stored? id w = some s → s.message = m

/-- What is stored stays the same message while it is only read. -/
theorem Holds.read {id : TaskId} {m : ResultMessage} {w v : World (Broker × List Fetch)}
    (h : Holds id m w) (hread : Read id w v) : Holds id m v := by
  obtain ⟨fs, -, hreads⟩ := hread
  intro s hs
  cases hw : stored? id w with
  | none =>
    rw [hw] at hreads
    cases (reads_nothing hreads).2.symm.trans hs
  | some before =>
    obtain ⟨m', n⟩ := before
    cases (h _ hw : m' = m)
    rw [hw] at hreads
    exact (reads_stored hreads).message hs

section
variable {id : TaskId} {m : ResultMessage} {b : ResultBody}

/-- The body of a handle is the one that it had, or it had none and has now that of the message. -/
def Takes (b : ResultBody) (h h' : Handle Connector) : Prop :=
  h'.body = h.body ∨ h.body = none ∧ h'.body = some b

/-- Handles that take in the result one after the other take in the same one. -/
theorem Takes.trans {h₁ h₂ h₃ : Handle Connector} (a : Takes b h₁ h₂) (c : Takes b h₂ h₃) :
    Takes b h₁ h₃ := by
  rcases a with hsame | ⟨hnone, hsome⟩
  · unfold Takes
    rw [← hsame]
    exact c
  · rcases c with hsame | ⟨hnone', -⟩
    · exact .inr ⟨hnone, hsame.trans hsome⟩
    · cases hnone'.symm.trans hsome

/-- A look brings no other body than that of the message. -/
theorem takes_isReady (hm : m.decode = .ok b) (h : Handle Connector)
    {w : World (Broker × List Fetch)} (hw : Holds h.id m w) :
    Takes b h (h.isReady transport.recording w).2.1 := by
  cases hb : h.body with
  | some b' =>
    rw [Handle.isReady_of_body _ hb]
    exact .inl rfl
  | none =>
    obtain ⟨h', v, hr, hbody, -⟩ := isReady_recorded hb w
    rw [hr, Takes, hbody, hb]
    -- What was found is nothing, or it is what was stored.
    rcases hs : stored? h.id w with _ | ⟨m', _ | n⟩
    · exact .inl rfl
    · cases (hw _ hs : m' = m)
      exact .inr ⟨rfl, by simp only [glance, verdict, hm, Except.map, delivered]⟩
    · exact .inl rfl

/-- What a handle and a world may become by looks: the handle is about the same task, what is stored
for it was only read, and if that was this message, then the handle took no other body. -/
structure Gathers (m : ResultMessage) (b : ResultBody) (h : Handle Connector)
    (w : World (Broker × List Fetch)) (h' : Handle Connector) (v : World (Broker × List Fetch)) :
    Prop where
  same : Handle.Same h h'
  read : Read h.id w v
  takes : Holds h.id m w → Takes b h h'

/-- What is gathered in two spans of time is gathered in both together. -/
theorem Gathers.trans {h₁ h₂ h₃ : Handle Connector} {w₁ w₂ w₃ : World (Broker × List Fetch)}
    (a : Gathers m b h₁ w₁ h₂ w₂) (c : Gathers m b h₂ w₂ h₃ w₃) : Gathers m b h₁ w₁ h₃ w₃ := by
  have hread : Read h₁.id w₂ w₃ := a.same.id ▸ c.read
  refine ⟨a.same.trans c.same, (read_throughout h₁.id).trans _ _ _ a.read hread, fun hw => ?_⟩
  have hnext : Holds h₂.id m w₂ := by
    rw [a.same.id]
    exact hw.read a.read
  exact (a.takes hw).trans (c.takes hnext)

/-- A wait brings no other body either. -/
theorem takes_poll (hm : m.decode = .ok b) (limit interval : Duration) (deadline : Option Nat)
    (tries : Nat) (h : Handle Connector) {w : World (Broker × List Fetch)} (hw : Holds h.id m w) :
    Takes b h (Handle.poll transport.recording limit interval deadline tries h w).2.1 := by
  have hreads : ∀ id, transport.recording.Moves (Read id) := fun id =>
    (read_throughout id).toSteady.toMoves
  have hpoll := Handle.poll_keeps (R := Gathers m b) transport.recording
    (fun h w => ⟨Handle.isReady_same _ h w, Handle.isReady_moves (hreads h.id) h w,
      takes_isReady hm h⟩)
    (fun h w v hbroker hclock => ⟨.refl h, (hreads h.id).still w v hbroker hclock,
      fun _ => .inl rfl⟩)
    .trans limit interval deadline tries h w
  exact hpoll.takes hw

/-- So does everything that is done with a handle. -/
theorem takes_after (hm : m.decode = .ok b) (h : Handle Connector)
    {w : World (Broker × List Fetch)} (hw : Holds h.id m w) (a : Session.HandleAct) :
    Takes b h (h.after transport.recording w a).1 := by
  cases a with
  | isReady | isSuccess | failed | resultIfReady => exact takes_isReady hm h hw
  | get limit interval => exact takes_poll hm limit interval _ _ h hw
  | close => exact .inl (Handle.close_body _ h w)
  | status | result | traceback | state | info | forget | revoke | debug | serialize =>
    exact .inl rfl

/-- A look at a result that can be found finds it. -/
theorem isReady_shown (hm : m.decode = .ok b) {h : Handle Connector} (hb : h.body = none)
    {w : World (Broker × List Fetch)} (hs : stored? h.id w = some ⟨m, 0⟩) :
    ∃ h' v, h.isReady transport.recording w = (.ok true, h', v) ∧ h'.body = some b := by
  obtain ⟨h', v, hr, hbody, -⟩ := isReady_recorded hb w
  rw [hs] at hr hbody
  refine ⟨h', v, ?_, ?_⟩
  · rw [hr]
    simp only [glance, verdict, hm, Except.map, readiness, Option.isSome]
  · rw [hbody]
    simp only [glance, verdict, hm, Except.map, delivered]

/-- Whoever polls for a result that can be found gets its body. -/
theorem after_shown (hm : m.decode = .ok b) {h : Handle Connector} (hb : h.body = none)
    {w : World (Broker × List Fetch)} (hs : stored? h.id w = some ⟨m, 0⟩) {a : Session.HandleAct}
    (ha : a.Polls) : (h.after transport.recording w a).1.body = some b := by
  obtain ⟨h', v, hr, hbody⟩ := isReady_shown hm hb hs
  cases a with
  | isReady | isSuccess | failed | resultIfReady =>
    show (h.isReady transport.recording w).2.1.body = some b
    rw [hr]
    exact hbody
  | get limit interval =>
    obtain ⟨tries, htries⟩ := Nat.exists_eq_add_one.2 (Session.tries_pos w.clock limit interval)
    rw [Handle.after, htries, Handle.get, Handle.poll, hr]
    exact hbody
  | _ => exact ha.elim

/-- What is found next in a world.

- `look`: what a handle without a body makes of its next look, which is one fetch;
- `message`: what a client is handed that asks for the message, with one fetch as well;
- `polled`: if there is something to be found, every handle that polls has the body then;
- `body`: whatever is done with a handle, it gets no other body. -/
structure Offers (id : TaskId) (b : ResultBody) (found : Option ResultMessage)
    (w : World (Broker × List Fetch)) : Prop where
  look : ∀ h : Handle Connector, h.id = id → h.body = none →
    ∃ h' v, h.isReady transport.recording w = (.ok found.isSome, h', v) ∧
      h'.body = found.map (fun _ => b) ∧
      fetchesOf id v = fetchesOf id w ++ [⟨id, h.descriptor.removesResults, .ok found⟩]
  message : ∀ (c : Client Connector) (taskName : String) (remove : Bool),
    ∃ c' v, c.fetchMessage transport.recording taskName id remove w = (.ok found, c', v) ∧
      fetchesOf id v = fetchesOf id w ++ [⟨id, remove, .ok found⟩]
  polled : found.isSome → ∀ (h : Handle Connector) (a : Session.HandleAct), h.id = id →
    h.body = none → a.Polls → (h.after transport.recording w a).1.body = some b
  body : ∀ (h : Handle Connector) (a : Session.HandleAct), h.id = id →
    (h.after transport.recording w a).1.body = h.body ∨
      h.body = none ∧ (h.after transport.recording w a).1.body = some b

/-- What the next look finds of a result that is shared is up to the looks before it. -/
theorem Shared.glance_eq {n : Nat} {fs : List Fetch} {s? : Option Stored} (h : Shared m n fs s?)
    (remove : Bool) : (glance remove s?).1 =
      if n ≤ fs.length ∧ ∀ f ∈ fs.drop n, f.remove = false then some m else none := by
  by_cases hshown : s? = some ⟨m, 0⟩
  · rw [if_pos (h.shown_iff.1 hshown), hshown]
    rfl
  · rw [if_neg (mt h.shown_iff.2 hshown)]
    rcases s? with _ | ⟨m', _ | k⟩
    · rfl
    · -- What is stored is the message, so it would be shown.
      cases (h.message rfl : m' = m)
      exact absurd rfl hshown
    · rfl

/-- One more fetch of the task. -/
theorem fetchesOf_snoc {id : TaskId} {w v : World (Broker × List Fetch)} {f : Fetch}
    (h : v.broker.2 = w.broker.2 ++ [f]) (hf : f.id = id) :
    fetchesOf id v = fetchesOf id w ++ [f] := by
  rw [fetchesOf, h, List.filter_append, fetchesOf]
  simp [hf]

/-- What is found next is up to the fetches that were made so far. -/
theorem Shared.offers (hm : m.decode = .ok b) {n : Nat} {fs : List Fetch}
    {w : World (Broker × List Fetch)} (h : Shared m n fs (stored? id w)) :
    Offers id b (if n ≤ fs.length ∧ ∀ f ∈ fs.drop n, f.remove = false then some m else none) w := by
  have hheld : Holds id m w := fun s hs => h.message hs
  refine ⟨fun g hid hb => ?_, fun c taskName remove => ?_, fun hsome g a hid hb ha => ?_,
    fun g a hid => ?_⟩
  · subst hid
    obtain ⟨g', v, hr, hbody, hfetches⟩ := isReady_recorded hb w
    rw [h.glance_eq] at hr hbody hfetches
    refine ⟨g', v, hr.trans ?_, hbody.trans ?_, fetchesOf_snoc hfetches rfl⟩
    · split <;> simp only [verdict, hm, Except.map, readiness] <;> rfl
    · split <;> simp only [verdict, hm, Except.map, delivered] <;> rfl
  · obtain ⟨c', v, hr, hfetches⟩ := fetchMessage_recorded c taskName id remove w
    rw [h.glance_eq] at hr hfetches
    exact ⟨c', v, hr, fetchesOf_snoc hfetches rfl⟩
  · subst hid
    refine after_shown hm hb (h.shown_iff.2 ?_) ha
    -- Something is offered only under the condition, so the condition holds.
    by_contra hnot
    rw [if_neg hnot] at hsome
    cases hsome
  · subst hid
    exact takes_after hm g hheld a

end
end Memory

namespace Session

open Memory (Broker Outside Read Shared Offers stored?)

/-- A step in which the worker stores nothing for a task only reads what is stored for it. -/
theorem step_reads {id : TaskId} (s : Session Memory.Connector (Broker × List Fetch))
    {step : Step Outside} (hstep : step.Spares id) :
    Read id s.world
      (s.step Memory.transport.recording (recordingReact Outside.react) step).2.world := by
  cases step with
  | outside e => exact Memory.read_outside hstep s.world
  | _ => exact step_throughout (Memory.read_throughout id) _ s trivial

/-- So does a run of such steps. -/
theorem run_reads {id : TaskId} (s : Session Memory.Connector (Broker × List Fetch))
    {steps : List (Step Outside)} (hsteps : ∀ step ∈ steps, step.Spares id) :
    Read id s.world
      (run Memory.transport.recording (recordingReact Outside.react) s steps).2.world := by
  induction steps generalizing s with
  | nil => exact .of_same rfl rfl
  | cons step rest ih =>
    exact (Memory.read_throughout id).trans _ _ _ (step_reads s (hsteps _ List.mem_cons_self))
      (ih _ fun x hx => hsteps x (List.mem_cons_of_mem _ hx))

/-! ## The handles of the program -/

/-- The step takes a handle from its text. -/
def Step.Restores {ε : Type} : Step ε → Prop
  | .restore .. => True
  | _ => False

section
variable {κ β : Type} (t : Transport κ β) (s : Session κ β) (name : String)

/-- A handle that is kept may be given a connector first. -/
theorem keepHandle_handles (h : Handle κ) (via : Via) :
    (keepHandle t s name h via).2.handles = s.handles ∨
      ∃ c, (keepHandle t s name h via).2.handles =
        s.handles.set name { h with connector := c } := by
  cases via with
  | connector =>
    rw [keepHandle]
    split
    · exact .inl rfl
    · exact .inr ⟨_, rfl⟩
  | transport | registry => exact .inr ⟨h.connector, rfl⟩

/-- The handles that clients make have no body. -/
theorem actOnClient_handles (c : Client κ) (a : ClientAct) :
    (actOnClient t s name c a).2.handles = s.handles ∨
      ∃ handle h, h.body = none ∧
        (actOnClient t s name c a).2.handles = s.handles.set handle h := by
  cases a with
  | post handle task arguments o wantResult =>
    rw [actOnClient]
    cases arguments with
    | error reason => exact .inl rfl
    | ok arguments =>
      rw [Client.post]
      rcases Producer.submit t c.broker task arguments o s.world with ⟨_ | e, b, w⟩
      · exact .inl rfl
      -- A handle is made only for a result that is wanted, and it has no body yet.
      · cases wantResult with
        | true => exact .inr ⟨handle, _, rfl, rfl⟩
        | false => exact .inl rfl
  | connect | close | debug | fetchMessage => exact .inl rfl

/-- With connectors no handles are made. -/
theorem actOnConnector_handles (c : κ) (a : ConnectorAct) :
    (actOnConnector t s name c a).2.handles = s.handles := by
  cases a with
  | publishEnvelope envelope routingKey =>
    rw [actOnConnector]
    split <;> rfl
  | state | connect | publish | fetch | close | submit => rfl

end

/-- Unless a step takes a handle from its text, it makes at most one handle, which has no body, or
does something with one that there is. -/
theorem step_handles {κ β ε : Type} (t : Transport κ β) (react : ε → World β → World β)
    (s : Session κ β) {step : Step ε} (hstep : ¬ step.Restores) :
    (s.step t react step).2.handles = s.handles ∨
      (∃ name h, h.body = none ∧ (s.step t react step).2.handles = s.handles.set name h) ∨
      ∃ name h a, s.handles.get? name = some h ∧
        (s.step t react step).2.handles = s.handles.set name (h.after t s.world a).1 := by
  -- Handles come from four kinds of steps; restoring is ruled out, because a text may carry a body.
  cases step with
  | outside | pause => exact .inl rfl
  | newClient name broker backend =>
    rw [Session.step]
    split <;> exact .inl rfl
  | newHandle name target taskName arguments descriptor via =>
    rw [Session.step]
    obtain heq | ⟨c, heq⟩ := keepHandle_handles t s name
      (.new (s.targetId target) taskName arguments descriptor via.source) via
    · exact .inl heq
    · exact .inr (.inl ⟨name, _, rfl, heq⟩)
  | restore => exact absurd trivial hstep
  | newConnector name descriptor source =>
    rw [Session.step]
    split <;> exact .inl rfl
  | client name a =>
    rw [Session.step]
    split
    · rename_i c _
      obtain heq | hmade := actOnClient_handles t s name c a
      · exact .inl heq
      · exact .inr (.inl hmade)
    · exact .inl rfl
  | handle name a =>
    rw [Session.step]
    split
    · rename_i h hs
      obtain heq | heq := Handle.actOnHandle_handles t s name h a
      · exact .inl heq
      · exact .inr (.inr ⟨name, h, a, hs, heq⟩)
    · exact .inl rfl
  | connector name a =>
    rw [Session.step]
    split
    · rename_i c _
      exact .inl (actOnConnector_handles t s name c a)
    · exact .inl rfl

/-- No handle for the task has any other body. -/
def Agree (id : TaskId) (b : ResultBody) (handles : Named (Handle Memory.Connector)) : Prop :=
  ∀ name h, handles.get? name = some h → h.id = id → h.body = none ∨ h.body = some b

/-- Handles still agree when one is set that has no body or the one they have. -/
theorem Agree.set {id : TaskId} {b : ResultBody} {handles : Named (Handle Memory.Connector)}
    (hagree : Agree id b handles) (name : String) {h : Handle Memory.Connector}
    (hh : h.id = id → h.body = none ∨ h.body = some b) : Agree id b (handles.set name h) := by
  intro other g hg hid
  by_cases heq : other = name
  · subst heq
    rw [Named.get?_set_self] at hg
    cases hg
    exact hh hid
  · rw [Named.get?_set_of_ne heq] at hg
    exact hagree other g hg hid

/-- While nothing else is stored for the task, the handles agree, and those that are made have no
body yet. -/
theorem agree_step {id : TaskId} {m : ResultMessage} {b : ResultBody} (hm : m.decode = .ok b)
    {s : Session Memory.Connector (Broker × List Fetch)} (hheld : Memory.Holds id m s.world)
    (hagree : Agree id b s.handles) {step : Step Outside} (hstep : ¬ step.Restores) :
    Agree id b
      (s.step Memory.transport.recording (recordingReact Outside.react) step).2.handles := by
  obtain heq | ⟨name, h, hb, heq⟩ | ⟨name, h, a, hs, heq⟩ :=
    step_handles Memory.transport.recording (recordingReact Outside.react) s hstep
  · rw [heq]
    exact hagree
  · rw [heq]
    exact hagree.set name fun _ => .inl hb
  · rw [heq]
    refine hagree.set name fun hid => ?_
    -- What the handle has now it had before, or it took it from what is stored.
    rw [(Handle.after_same Memory.transport.recording h s.world a).id] at hid
    subst hid
    obtain hsame | ⟨-, hsome⟩ := Memory.takes_after hm h hheld a
    · rw [hsame]
      exact hagree name h hs rfl
    · exact .inr hsome

/-- The handles agree all through a run. -/
theorem agree_run {id : TaskId} {m : ResultMessage} {b : ResultBody} (hm : m.decode = .ok b)
    (s : Session Memory.Connector (Broker × List Fetch)) (hheld : Memory.Holds id m s.world)
    (hagree : Agree id b s.handles) {steps : List (Step Outside)}
    (hspares : ∀ step ∈ steps, step.Spares id) (hrestores : ∀ step ∈ steps, ¬ step.Restores) :
    Agree id b
      (run Memory.transport.recording (recordingReact Outside.react) s steps).2.handles := by
  -- A step keeps both: that the handles agree, and that nothing else is stored.
  induction steps generalizing s with
  | nil => exact hagree
  | cons step rest ih =>
    exact ih _ (hheld.read (step_reads s (hspares _ List.mem_cons_self)))
      (agree_step hm hheld hagree (hrestores _ List.mem_cons_self))
      (fun x hx => hspares x (List.mem_cons_of_mem _ hx))
      fun x hx => hrestores x (List.mem_cons_of_mem _ hx)

/-- A result that is stored once is shared by all who ask for it. Take any run after it was stored,
in which the worker stores no other result for the task. The fetches of the task that were made in
the run have shared the result, at most one fetch has found and removed it, and what is found next
is the message, if the hidden fetches are over and none since has removed it, or else nothing. All
handles that have a body have the one that is in the message, those apart that had one before or
were restored from a text.

All handles ask the broker in memory, also those that were restored without the transport and name
the registry. Where the registry leads to the network, the same happens in a session whose handles
all name the given transport (`Session.run_beside`), and a handle that names another source leaves
the result alone (`Handle.after_far`). -/
theorem shared_result (s : Session Memory.Connector (Broker × List Fetch)) (id : TaskId)
    (m : ResultMessage) (b : ResultBody) (hm : m.decode = .ok b) (n : Nat)
    (steps : List (Step Outside)) (hsteps : ∀ step ∈ steps, step.Spares id) :
    ∃ s' fs, (run Memory.transport.recording (recordingReact Outside.react) s
        (.outside (.store id m n) :: steps)).2 = s' ∧
      fetchesOf id s'.world = fetchesOf id s.world ++ fs ∧
      Shared m n fs (stored? id s'.world) ∧
      (fs.filter fun f => f.remove && f.found.toOption.join.isSome).length ≤ 1 ∧
      Offers id b (if n ≤ fs.length ∧ ∀ f ∈ fs.drop n, f.remove = false then some m else none)
        s'.world ∧
      ((∀ step ∈ steps, ¬ step.Restores) → Agree id b s.handles → Agree id b s'.handles) := by
  let s₀ := (s.step Memory.transport.recording (recordingReact Outside.react)
    (.outside (.store id m n))).2
  obtain ⟨fs, hfs, hreads⟩ := run_reads s₀ hsteps
  have hstart : stored? id s₀.world = some ⟨m, n⟩ := Memory.stored?_store id m n s.world
  have hheld : Memory.Holds id m s₀.world := by
    intro found hfound
    cases hstart.symm.trans hfound
    rfl
  rw [hstart] at hreads
  have hshared := Memory.reads_stored hreads
  refine ⟨_, fs.filter (·.id = id), rfl, ?_, hshared, hshared.removed_once, hshared.offers hm,
    fun hrestores hagree => agree_run hm s₀ hheld hagree hsteps hrestores⟩
  show List.filter _ _ = _
  rw [run, hfs, List.filter_append]
  show List.filter _ (s.world.broker.2 ++ []) ++ _ = _
  rw [List.append_nil]
  rfl

/-- A handle that removes what it reads. -/
def taker : Handle Memory.Connector := .new ⟨"7f3a"⟩ "add" "(1, 2)" {} .given

/-- Two handles ask in turn, one of which keeps what it reads. -/
def turns : List (Step Outside) :=
  [.handle "kept" .isReady, .handle "taken" .isReady, .handle "kept" .isReady]

/-- The first look comes too early, and the second takes the result. -/
theorem shared_result_taken :
    (statusMessage "SUCCESS").decode = .ok ⟨"SUCCESS", .null, none, []⟩ ∧
    (∀ step ∈ turns, step.Spares ⟨"7f3a"⟩) ∧
    ∃ s' fs, (run Memory.transport.recording (recordingReact Outside.react)
        ⟨.start ({}, []) ⟨0, 0⟩ 0, [], [("kept", keeper), ("taken", taker)], [], ""⟩
        (.outside (.store ⟨"7f3a"⟩ (statusMessage "SUCCESS") 1) :: turns)).2 = s' ∧
      fetchesOf ⟨"7f3a"⟩ s'.world = [] ++ fs ∧
      Shared (statusMessage "SUCCESS") 1 fs (stored? ⟨"7f3a"⟩ s'.world) ∧
      (fs.filter fun f => f.remove && f.found.toOption.join.isSome).length ≤ 1 ∧
      Offers ⟨"7f3a"⟩ ⟨"SUCCESS", .null, none, []⟩
        (if 1 ≤ fs.length ∧ ∀ f ∈ fs.drop 1, f.remove = false then
          some (statusMessage "SUCCESS") else none) s'.world ∧
      ((∀ step ∈ turns, ¬ step.Restores) →
        Agree ⟨"7f3a"⟩ ⟨"SUCCESS", .null, none, []⟩ [("kept", keeper), ("taken", taker)] →
        Agree ⟨"7f3a"⟩ ⟨"SUCCESS", .null, none, []⟩ s'.handles) :=
  have hspares : ∀ step ∈ turns, step.Spares ⟨"7f3a"⟩ := by simp [turns, Step.Spares]
  ⟨statusMessage_decode "SUCCESS", hspares,
    shared_result ⟨.start ({}, []) ⟨0, 0⟩ 0, [], [("kept", keeper), ("taken", taker)], [], ""⟩
      ⟨"7f3a"⟩ _ _ (statusMessage_decode "SUCCESS") 1 turns hspares⟩

end Session
end TaskQueue
