import TaskQueue.Proofs.Client.Needs
import TaskQueue.Proofs.Session.History
import TaskQueue.Proofs.Session.Sharing

/-!
# `TaskQueue.Proofs.Session.Moments`: which moments are about a client or a handle

A moment of a run makes a client or a handle, or does something with one, or it is about something
else. `Session.Moment` has a question for each of these, and for what the moment costs at the broker
in memory (`Memory.transport`). `Session.step_client` and `Session.step_handle` say what the client
or the handle of a name comes to in one step, in the same terms.
-/

set_option autoImplicit false

namespace TaskQueue

open Memory (Broker Outside Spent)

namespace Session

namespace Moment

section
variable {κ β ε : Type} (name : String) (m : Moment κ β ε)

/-! ## What a moment is about -/

/-- The client of that name is made. -/
def creates : Bool :=
  match m.step with
  | .newClient n _ _ => n = name
  | _ => false

/-- The client of that name is made or closed. From now on its connectors are not connected. -/
def resets : Bool :=
  match m.step with
  | .newClient n _ _ => n = name
  | .client n .close => n = name
  | _ => false

/-- Something is done with the client of that name. -/
def serves : Bool :=
  match m.step with
  | .client n _ => n = name
  | _ => false

/-- The client of that name needs its connector to the broker of tasks. -/
def needsBroker : Bool :=
  match m.step with
  | .client n a => decide (n = name) && a.needsBroker m.before.world
  | _ => false

/-- The client of that name needs its connector to the backend of results. -/
def needsBackend : Bool :=
  match m.step with
  | .client n a => decide (n = name) && a.needsBackend
  | _ => false

/-- A handle is made under that name. -/
def makes : Bool :=
  match m.step, m.answer with
  | .newHandle n .., .done => n = name
  | .restore n .., .done => n = name
  | .client _ (.post n ..), .submitted true _ => n = name
  | _, _ => false

/-- The handle of that name is closed. -/
def closes : Bool :=
  match m.step with
  | .handle n .close => n = name
  | _ => false

/-- Something is done with the handle of that name. -/
def uses : Bool :=
  match m.step with
  | .handle n _ => n = name
  | _ => false

/-- The handle of that name is polled, and its result is not known. -/
def asks : Bool :=
  match m.step with
  | .handle n a =>
    decide (n = name) && decide a.Polls && (m.before.handles.get? name).any (·.body.isNone)
  | _ => false

/-- The handle of that name is made, or it is closed. From now on it has no connector, unless it is
made with one. -/
def startsOver : Bool := m.makes name || m.closes name

/-- The handle of that name needs a connector: it is polled without a known result, or it is made
with a connector. -/
def needsConnector : Bool :=
  m.asks name || m.makes name && (m.after.handles.get? name).any (·.connector.isSome)

/-- The moment needs something for the first time since it was given up. -/
def first {α : Type} (needs givesUp : α → Bool) (past : List α) (now : α) : Bool :=
  needs now && !(since givesUp past).any needs

end

/-! ## What a moment costs -/

variable (m : Moment Memory.Connector Broker Outside)

/-- The hosts for which connectors are opened. -/
def opened : List String :=
  m.after.world.broker.openedFor.drop m.before.world.broker.openedFor.length

/-- The number of connects. -/
def connects : Nat := m.after.world.broker.connects - m.before.world.broker.connects

variable {m}

/-- What was spent between two sessions is what the moment between them opened and connected. -/
theorem opened_of_spent {hosts : List String} {n : Nat}
    (h : Spent m.before.world m.after.world hosts n) : m.opened = hosts ∧ m.connects = n := by
  refine ⟨?_, ?_⟩
  · rw [opened, h.opened, List.drop_left]
  · rw [connects, h.connected, Nat.add_sub_cancel_left]

end Moment

/-! ## Clients -/

section
variable (s : Session Memory.Connector Broker)

/-- The client after something was done with it. -/
def ClientAct.done (w : World Broker) (c : Client Memory.Connector) :
    ClientAct → Client Memory.Connector
  | .close => c.closed
  | a => c.use (a.needsBroker w) a.needsBackend

/-- What is done with a client connects what is needed and opens nothing. -/
theorem actOnClient_memory (name : String) (c : Client Memory.Connector) (a : ClientAct)
    (hc : s.clients.get? name = some c) :
    (actOnClient Memory.transport s name c a).2.clients.get? name = some (a.done s.world c) ∧
    (∀ other, other ≠ name →
      (actOnClient Memory.transport s name c a).2.clients.get? other = s.clients.get? other) ∧
    Spent s.world (actOnClient Memory.transport s name c a).2.world []
      (c.cost (a.needsBroker s.world) a.needsBackend) := by
  cases a with
  | connect =>
    obtain ⟨hclient, hspent⟩ := c.connect_spent s.world
    refine ⟨?_, fun other hne => Named.get?_set_of_ne hne _ _, hspent⟩
    exact (Named.get?_set_self ..).trans (congrArg some hclient)
  | close =>
    exact ⟨Named.get?_set_self .., fun other hne => Named.get?_set_of_ne hne _ _, .nothing rfl⟩
  | debug =>
    have hsame : ClientAct.debug.done s.world c = c := by
      simp [ClientAct.done, Client.use, ClientAct.needsBroker, ClientAct.needsBackend,
        Memory.Connector.use_false]
    exact ⟨by rw [hsame]; exact hc, fun _ _ => rfl, .nothing rfl⟩
  | fetchMessage taskName target remove =>
    obtain ⟨hclient, hspent⟩ := c.fetchMessage_spent taskName (s.targetId target) remove s.world
    refine ⟨?_, fun other hne => Named.get?_set_of_ne hne _ _, hspent⟩
    exact (Named.get?_set_self ..).trans (congrArg some hclient)
  | post handle task arguments o wantResult =>
    obtain ⟨hclient, hspent, -⟩ := c.post_spent handle task arguments o wantResult s.world
    rw [actOnClient]
    -- Whatever the answer is, the client that is kept is the one that posting leaves.
    rcases hp : c.post Memory.transport task arguments o wantResult s.world with ⟨_ | _ | _, c', w⟩
    all_goals
      rw [hp] at hclient hspent
      refine ⟨?_, fun other hne => Named.get?_set_of_ne hne _ _, hspent⟩
      exact (Named.get?_set_self ..).trans (congrArg some hclient)

/-- Other steps leave the clients alone. -/
theorem step_clients {step : Step Outside} (hnew : ∀ n b k, step ≠ .newClient n b k)
    (hclient : ∀ n a, step ≠ .client n a) :
    (s.step Memory.transport Outside.react step).2.clients = s.clients := by
  -- A handle that is made may take a connector with it, but no client.
  have hkeep : ∀ name h via, (keepHandle Memory.transport s name h via).2.clients = s.clients := by
    intro name h via
    cases via <;> rfl
  cases step with
  | outside e => rfl
  | pause d => rfl
  | newClient name broker backend => exact absurd rfl (hnew name broker backend)
  | newHandle name target taskName arguments descriptor via => exact hkeep name _ via
  | restore name text via =>
    rw [Session.step]
    split
    · rfl
    · exact hkeep name _ via
  | newConnector name descriptor source => rfl
  | client name a => exact absurd rfl (hclient name a)
  | handle name a =>
    rw [Session.step]
    split
    · cases a with
      | get limit interval =>
        rw [actOnHandle]
        dsimp only
        split <;> rfl
      | _ => rfl
    · rfl
  | connector name a =>
    rw [Session.step]
    split
    · cases a with
      | publishEnvelope envelope routingKey =>
        rw [actOnConnector]
        split <;> rfl
      | _ => rfl
    · rfl

/-- How a step comes to the client of a name: it is made, something is done with it, or the step is
not about it. -/
inductive ClientStep (step : Step Outside) (name : String) (c' : Client Memory.Connector) : Prop
  | made (broker backend : Descriptor) (hstep : step = .newClient name broker backend)
    (hclient : c' = ⟨⟨broker, false⟩, ⟨backend, false⟩⟩)
  | served (a : ClientAct) (c : Client Memory.Connector) (hstep : step = .client name a)
    (hc : s.clients.get? name = some c) (hclient : c' = a.done s.world c)
  | kept (hcreates : (moment Memory.transport Outside.react s step).creates name = false)
    (hserves : (moment Memory.transport Outside.react s step).serves name = false)
    (hc : s.clients.get? name = some c')

/-- There are no other ways for a session to have a client after a step. -/
theorem step_client {step : Step Outside} {name : String} {c' : Client Memory.Connector}
    (h : (s.step Memory.transport Outside.react step).2.clients.get? name = some c') :
    s.ClientStep step name c' := by
  -- Two kinds of steps touch the clients: one makes a client, and the other is done with one.
  by_cases hnew : ∃ n b k, step = .newClient n b k
  · obtain ⟨n, broker, backend, rfl⟩ := hnew
    have hclients :
        (s.step Memory.transport Outside.react (.newClient n broker backend)).2.clients =
          s.clients.set n ⟨⟨broker, false⟩, ⟨backend, false⟩⟩ := rfl
    rw [hclients] at h
    by_cases hn : name = n
    · rw [hn, Named.get?_set_self] at h
      rw [hn]
      exact .made broker backend rfl (Option.some.inj h).symm
    · rw [Named.get?_set_of_ne hn] at h
      exact .kept (decide_eq_false (Ne.symm hn)) rfl h
  by_cases hclient : ∃ n a, step = .client n a
  · obtain ⟨n, a, rfl⟩ := hclient
    cases hc : s.clients.get? n with
    | none =>
      simp only [Session.step, hc] at h
      have hn : name ≠ n := fun heq => by
        rw [heq, hc] at h
        cases h
      exact .kept rfl (decide_eq_false hn.symm) h
    | some c =>
      simp only [Session.step, hc] at h
      obtain ⟨hdone, hothers, -⟩ := s.actOnClient_memory n c a hc
      by_cases hn : name = n
      · subst hn
        exact .served a c rfl hc (Option.some.inj (hdone.symm.trans h)).symm
      · rw [hothers name hn] at h
        exact .kept rfl (decide_eq_false (Ne.symm hn)) h
  · have hcreates : ∀ n b k, step ≠ .newClient n b k := fun n b k heq => hnew ⟨n, b, k, heq⟩
    have hserves : ∀ n a, step ≠ .client n a := fun n a heq => hclient ⟨n, a, heq⟩
    rw [s.step_clients hcreates hserves] at h
    refine .kept ?_ ?_ h
    · cases step with
      | newClient n b k => exact absurd rfl (hcreates n b k)
      | _ => rfl
    · cases step with
      | client n a => exact absurd rfl (hserves n a)
      | _ => rfl

/-! ## Handles -/

/-- Keeping a handle opens a connector if it is to have one at once. -/
theorem keepHandle_memory (name : String) (h : Handle Memory.Connector) (via : Via) :
    ∃ c s', keepHandle Memory.transport s name h via = (.done, s') ∧
      s'.handles = s.handles.set name { h with connector := c } ∧
      (via ≠ .connector → c = h.connector ∧ s'.world = s.world) := by
  cases via with
  | connector => exact ⟨_, _, rfl, rfl, fun hvia => absurd rfl hvia⟩
  | transport | registry => exact ⟨_, _, rfl, rfl, fun _ => ⟨rfl, rfl⟩⟩

/-- The answer to a submission tells whether a handle was made. -/
theorem actOnClient_post (name : String) (c : Client Memory.Connector) (handle task : String)
    (arguments : Except String Json.Value) (o : TaskOptions) (wantResult : Bool) :
    let done := actOnClient Memory.transport s name c (.post handle task arguments o wantResult)
    (∃ id h, done.1 = .submitted true id ∧ done.2.handles = s.handles.set handle h ∧
      h.descriptor = c.backend.descriptor ∧ h.connector = none) ∨
    (∀ id, done.1 ≠ .submitted true id) ∧ done.2.handles = s.handles := by
  intro done
  obtain ⟨-, -, hhandle⟩ := c.post_spent handle task arguments o wantResult s.world
  -- Of the three ways a submission can end, only one leaves a handle.
  rcases hp : c.post Memory.transport task arguments o wantResult s.world with ⟨e | h | id, c', w⟩
  · have hdone : done = (.failed e, s.withClient name c' w) := by
      simp only [done, actOnClient, hp]
    rw [hdone]
    exact .inr ⟨by simp, rfl⟩
  · have hdone : done = (.submitted true h.id, (s.withClient name c' w).withHandle handle h w) := by
      simp only [done, actOnClient, hp]
    rw [hp] at hhandle
    rw [hdone]
    exact .inl ⟨h.id, h, rfl, rfl, hhandle h rfl⟩
  · have hdone : done = (.submitted false id, s.withClient name c' w) := by
      simp only [done, actOnClient, hp]
    rw [hdone]
    refine .inr ⟨fun id' hid => ?_, rfl⟩
    cases hid

/-- How a step comes to the handle of a name: it is made, something is done with it, or the step is
not about it. -/
inductive HandleStep (step : Step Outside) (name : String) (h' : Handle Memory.Connector) : Prop
  | made (hmakes : (moment Memory.transport Outside.react s step).makes name = true)
    (huses : (moment Memory.transport Outside.react s step).uses name = false)
  | used (a : HandleAct) (h : Handle Memory.Connector) (hstep : step = .handle name a)
    (hh : s.handles.get? name = some h) (hhandle : h' = (h.after Memory.transport s.world a).1)
  | kept (hmakes : (moment Memory.transport Outside.react s step).makes name = false)
    (huses : (moment Memory.transport Outside.react s step).uses name = false)
    (hh : s.handles.get? name = some h')

section
variable {s} {step : Step Outside} {name : String} {h' : Handle Memory.Connector}

/-- A step that makes a handle makes the one of this name, or another. -/
theorem HandleStep.of_set {n : String} {h : Handle Memory.Connector}
    (hh : (s.step Memory.transport Outside.react step).2.handles.get? name = some h')
    (hmakes : (moment Memory.transport Outside.react s step).makes name = decide (n = name))
    (huses : (moment Memory.transport Outside.react s step).uses name = false)
    (hhandles : (s.step Memory.transport Outside.react step).2.handles = s.handles.set n h) :
    s.HandleStep step name h' := by
  by_cases hn : name = n
  · exact .made (hmakes.trans (decide_eq_true hn.symm)) huses
  · rw [hhandles, Named.get?_set_of_ne hn] at hh
    exact .kept (hmakes.trans (decide_eq_false (Ne.symm hn))) huses hh

/-- What is done with a client makes a handle if a task is posted and its result is wanted. -/
theorem HandleStep.of_client {n : String} {a : ClientAct}
    (hh : (s.step Memory.transport Outside.react (.client n a)).2.handles.get? name = some h') :
    s.HandleStep (.client n a) name h' := by
  cases hc : s.clients.get? n with
  | none =>
    simp only [Session.step, hc] at hh
    refine .kept ?_ rfl hh
    cases a <;> simp only [Moment.makes, moment, Session.step, hc]
  | some c =>
    cases a with
    | post handle task arguments o wantResult =>
      -- A task that is posted is the one thing that can make a handle here.
      rcases s.actOnClient_post n c handle task arguments o wantResult with
        ⟨id, h, hanswer, hhandles, -⟩ | ⟨hanswer, hhandles⟩
      · have hset : (s.step Memory.transport Outside.react
            (.client n (.post handle task arguments o wantResult))).2.handles =
              s.handles.set handle h := by simp only [Session.step, hc, hhandles]
        refine .of_set hh ?_ rfl hset
        simp only [Moment.makes, moment, Session.step, hc, hanswer]
      · simp only [Session.step, hc, hhandles] at hh
        refine .kept ?_ rfl hh
        simp only [Moment.makes, moment, Session.step, hc]
        split <;> simp_all
    | connect | close | debug | fetchMessage =>
      simp only [Session.step, hc] at hh
      exact .kept rfl rfl hh

/-- What is done with a handle leaves the others alone. -/
theorem HandleStep.of_handle {n : String} {a : HandleAct}
    (hh : (s.step Memory.transport Outside.react (.handle n a)).2.handles.get? name = some h') :
    s.HandleStep (.handle n a) name h' := by
  have hmakes :
      (moment Memory.transport Outside.react s (.handle n a)).makes name = false := by
    cases a <;> rfl
  cases hs : s.handles.get? n with
  | none =>
    simp only [Session.step, hs] at hh
    -- Nothing was done, and the handle that is there has another name.
    have hn : name ≠ n := fun heq => by
      rw [heq, hs] at hh
      cases hh
    exact .kept hmakes (decide_eq_false hn.symm) hh
  | some h =>
    simp only [Session.step, hs] at hh
    by_cases hn : name = n
    · subst hn
      have hafter := (Handle.actOnHandle_after Memory.transport hs a).1.symm.trans hh
      exact .used a h rfl hs (Option.some.inj hafter).symm
    · refine .kept hmakes (decide_eq_false (Ne.symm hn)) ?_
      rcases Handle.actOnHandle_handles Memory.transport s n h a with hsame | hset
      · rwa [hsame] at hh
      · rwa [hset, Named.get?_set_of_ne hn] at hh

/-- There are no other ways for a session to have a handle after a step. -/
theorem step_handle
    (hh : (s.step Memory.transport Outside.react step).2.handles.get? name = some h') :
    s.HandleStep step name h' := by
  cases step with
  | newHandle n target taskName arguments descriptor via =>
    obtain ⟨c, s', hkeep, hhandles, -⟩ := s.keepHandle_memory n
      (.new (s.targetId target) taskName arguments descriptor via.source) via
    have hstep : s.step Memory.transport Outside.react
      (.newHandle n target taskName arguments descriptor via) = (.done, s') := hkeep
    refine .of_set hh ?_ rfl (by rw [hstep, hhandles])
    simp only [Moment.makes, moment, hstep]
  | restore n text via =>
    -- A text that cannot be read restores nothing, and then the handle was there before.
    cases htext : (Handle.ofText via.source (text.getD s.saved) :
        Except Fault (Handle Memory.Connector)) with
    | error f =>
      simp only [Session.step, htext] at hh
      refine .kept ?_ rfl hh
      simp only [Moment.makes, moment, Session.step, htext]
    | ok h =>
      obtain ⟨c, s', hkeep, hhandles, -⟩ := s.keepHandle_memory n h via
      have hstep : s.step Memory.transport Outside.react (.restore n text via) = (.done, s') := by
        simp only [Session.step, htext, hkeep]
      refine .of_set hh ?_ rfl (by rw [hstep, hhandles])
      simp only [Moment.makes, moment, hstep]
  | client n a => exact .of_client hh
  | handle n a => exact .of_handle hh
  | outside | pause | newClient | newConnector => exact .kept rfl rfl hh
  | connector n a =>
    refine .kept rfl rfl ?_
    rw [Session.step] at hh
    split at hh
    · rwa [actOnConnector_handles] at hh
    · exact hh

end
end

/-! ## Moments that are not about a thing -/

namespace Moment

variable {name : String} {m : Moment Memory.Connector Broker Outside}

/-- A moment that is not about a client needs neither connector of it and gives up none. -/
theorem client_idle (hcreates : m.creates name = false) (hserves : m.serves name = false) :
    m.resets name = false ∧ m.needsBroker name = false ∧ m.needsBackend name = false := by
  obtain ⟨before, step, answer, after⟩ := m
  cases step with
  | newClient n broker backend => exact ⟨hcreates, rfl, rfl⟩
  | client n a =>
    have hn : decide (n = name) = false := hserves
    refine ⟨?_, by simp only [needsBroker, hn, Bool.false_and],
      by simp only [needsBackend, hn, Bool.false_and]⟩
    cases a with
    | close => exact hn
    | connect | debug | fetchMessage | post => rfl
  | outside | pause | newHandle | restore | newConnector | handle | connector =>
    exact ⟨rfl, rfl, rfl⟩

/-- A moment that is not about a handle neither closes it nor asks it. -/
theorem handle_idle (huses : m.uses name = false) :
    m.closes name = false ∧ m.asks name = false := by
  obtain ⟨before, step, answer, after⟩ := m
  cases step with
  | handle n a =>
    have hn : decide (n = name) = false := huses
    refine ⟨?_, by simp only [asks, hn, Bool.false_and]⟩
    cases a <;> first | exact hn | rfl
  | outside | pause | newClient | newHandle | restore | newConnector | client | connector =>
    exact ⟨rfl, rfl⟩

end Moment

end Session
end TaskQueue
