import TaskQueue.Proofs.Client.Beside
import TaskQueue.Proofs.Client.Restoring

/-!
# `TaskQueue.Proofs.Session.Beside`: a session that keeps to the transport it was given

Take a session whose handles all have the given transport as their source (`Session.Given`), and
steps that make no others (`Session.Step.Given`). `Session.run_beside` says that it answers with a
network beside the transport as it does without, and that the network stays as it is. So what is
proved of every run over a transport alone holds of these runs also where the registry leads to the
network, as it does for a program. A run is one step after the other, and `Session.step_beside` is
about one step; `Session.given_step` says that it makes no handle of another kind.
-/

set_option autoImplicit false

namespace TaskQueue

variable {κ β ε : Type}

/-! ## Names -/

/-- The same things, each with its name. -/
def Named.mapAll {γ δ : Type} (f : γ → δ) (things : Named γ) : Named δ :=
  things.map fun thing => (thing.1, f thing.2)

namespace Named

/-- The thing with a name is found before or after all things are changed. -/
theorem get?_mapAll {γ δ : Type} (f : γ → δ) (name : String) (things : Named γ) :
    (things.mapAll f).get? name = (things.get? name).map f := by
  induction things with
  | nil => rfl
  | cons thing rest ih =>
    by_cases h : thing.1 = name
    · simp [mapAll, get?, h]
    · have hrest : (mapAll f (thing :: rest)).get? name = (mapAll f rest).get? name := by
        simp [mapAll, get?, h]
      rw [hrest, ih, get?, if_neg h]

/-- A name is given before or after all things are changed. -/
theorem set_mapAll {γ δ : Type} (f : γ → δ) (name : String) (a : γ) (things : Named γ) :
    (things.mapAll f).set name (f a) = (things.set name a).mapAll f := by
  induction things with
  | nil => rfl
  | cons thing rest ih =>
    by_cases h : thing.1 = name
    · simp [mapAll, set, h]
    · simp only [mapAll, List.map_cons, set, if_neg h] at ih ⊢
      rw [ih]

end Named

/-- The session with a network beside its broker. -/
def Session.beside (n : Network) (s : Session κ β) : Session (κ ⊕ Connector) (β × Network) where
  world := s.world.beside n
  clients := s.clients.mapAll Client.beside
  handles := s.handles.mapAll Handle.beside
  connectors := s.connectors.mapAll .inl
  saved := s.saved

/-- What happens outside happens to the given broker. -/
def Session.besideReact (react : ε → World β → World β) (e : ε) (w : World (β × Network)) :
    World (β × Network) :=
  Transport.withNear w (react e (Transport.nearWorld w))

section
variable (t : Transport κ β) (n : Network)

/-! ## Sessions -/

namespace Session

/-- All handles take their connectors from the given transport. -/
def Given (s : Session κ β) : Prop :=
  ∀ name h, s.handles.get? name = some h → h.source = .given

/-- Whatever the step makes takes its connectors from the given transport. -/
def Step.Given : Step ε → Prop
  | .newHandle _ _ _ _ _ via => via = .transport
  | .restore _ _ via => via = .transport
  | .newConnector _ _ source => source = .given
  | _ => True

/-- What comes of a step, with the network beside it. -/
def across (x : Answer × Session κ β) : Answer × Session (κ ⊕ Connector) (β × Network) :=
  (x.1, x.2.beside n)

variable (s : Session κ β)

/-- The task that a step is about is the same beside the network. -/
theorem targetId_beside (target : Target) : (s.beside n).targetId target = s.targetId target := by
  cases target with
  | task id => rfl
  | handle name =>
    simp only [targetId, beside, Named.get?_mapAll]
    cases s.handles.get? name <;> rfl

/-- A handle is kept in the same place. -/
theorem withHandle_beside (name : String) (h : Handle κ) (w : World β) :
    (s.beside n).withHandle name h.beside (w.beside n) = (s.withHandle name h w).beside n := by
  simp only [withHandle, beside, Named.set_mapAll]

/-- A client is kept in the same place. -/
theorem withClient_beside (name : String) (c : Client κ) (w : World β) :
    (s.beside n).withClient name c.beside (w.beside n) = (s.withClient name c w).beside n := by
  simp only [withClient, beside, Named.set_mapAll]

/-- A connector is kept in the same place. -/
theorem withConnector_beside (name : String) (c : κ) (w : World β) :
    (s.beside n).withConnector name (.inl c) (w.beside n) =
      (s.withConnector name c w).beside n := by
  simp only [withConnector, beside, Named.set_mapAll]

/-- Whatever is done with a handle of the given transport is answered as it is without the network.
-/
theorem actOnHandle_beside (name : String) {h : Handle κ} (hs : h.source = .given)
    (a : HandleAct) :
    actOnHandle t.beside (s.beside n) name h.beside a = across n (actOnHandle t s name h a) := by
  have hworld : (s.beside n).world = s.world.beside n := rfl
  cases a with
  | isReady =>
    simp only [actOnHandle, hworld, Handle.isReady_beside n hs, Handle.across, withHandle_beside]
    rfl
  | isSuccess =>
    simp only [actOnHandle, hworld, Handle.isSuccess, Handle.isReadyAnd_beside n _ hs,
      Handle.across, withHandle_beside]
    rfl
  | failed =>
    simp only [actOnHandle, hworld, Handle.failed, Handle.isReadyAnd_beside n _ hs,
      Handle.across, withHandle_beside]
    rfl
  | resultIfReady =>
    simp only [actOnHandle, hworld, Handle.resultIfReady_beside n hs, Handle.across,
      withHandle_beside]
    rfl
  -- The wait is given as many looks on either side, since the clock is the same.
  | get limit interval =>
    have hclock : (s.world.beside n).clock = s.world.clock := rfl
    simp only [actOnHandle, hworld, Handle.get, hclock, Handle.poll_beside n _ _ _ _ hs,
      Handle.across, withHandle_beside]
    split <;> rfl
  | close =>
    simp only [actOnHandle, hworld, Handle.close_beside, Handle.across, withHandle_beside]
    rfl
  | debug =>
    simp only [actOnHandle, Handle.debugText_beside]
    rfl
  | status | result | traceback | state | info | forget | revoke | serialize => rfl

/-- Whatever is done with a client is answered as it is without the network. -/
theorem actOnClient_beside (name : String) (c : Client κ) (a : ClientAct) :
    actOnClient t.beside (s.beside n) name c.beside a = across n (actOnClient t s name c a) := by
  have hworld : (s.beside n).world = s.world.beside n := rfl
  cases a with
  | connect =>
    simp only [actOnClient, hworld, Client.connect_beside, Client.across, withClient_beside]
    rfl
  | close =>
    simp only [actOnClient, hworld, Client.close_beside, Client.across, withClient_beside]
    rfl
  | debug => rfl
  | fetchMessage taskName target remove =>
    simp only [actOnClient, hworld, targetId_beside, Client.fetchMessage_beside, Client.across,
      withClient_beside]
    rfl
  | post handle task arguments o wantResult =>
    simp only [actOnClient, hworld, Client.post_beside]
    -- A submission leaves a handle, an identifier or a fault, and only the handle is carried
    -- across.
    rcases c.post t task arguments o wantResult s.world with ⟨_ | h | id, c₁, w₁⟩ <;>
      simp only [Except.map, Client.submittedBeside, withClient_beside, withHandle_beside] <;> rfl

/-- So is whatever is done with a connector of the given transport. -/
theorem actOnConnector_beside (name : String) (c : κ) (a : ConnectorAct) :
    actOnConnector t.beside (s.beside n) name (.inl c) a =
      across n (actOnConnector t s name c a) := by
  have hworld : (s.beside n).world = s.world.beside n := rfl
  cases a with
  | state => rfl
  | connect =>
    simp only [actOnConnector, hworld, Transport.beside_connect, withConnector_beside]
    rfl
  | publish routingKey body properties =>
    simp only [actOnConnector, hworld, Transport.beside_publish, withConnector_beside]
    rfl
  | fetch target remove =>
    simp only [actOnConnector, hworld, targetId_beside, Transport.beside_fetch,
      withConnector_beside]
    rfl
  | close =>
    simp only [actOnConnector, hworld, Transport.beside_close, withConnector_beside]
    rfl
  | submit task arguments o =>
    simp only [actOnConnector, hworld, Producer.submit_beside, withConnector_beside]
    rfl
  | publishEnvelope envelope routingKey =>
    simp only [actOnConnector]
    split
    · rfl
    · simp only [hworld, Producer.publish_beside, withConnector_beside]
      rfl

/-- One step does the same beside the network, if it makes nothing that names another source. -/
theorem step_beside (react : ε → World β → World β) (hs : s.Given) {step : Step ε}
    (hstep : step.Given) :
    (s.beside n).step t.beside (besideReact react) step = across n (s.step t react step) := by
  have hworld : (s.beside n).world = s.world.beside n := rfl
  cases step with
  | outside e => rfl
  | pause d => rfl
  | newClient name broker backend =>
    simp only [Session.step, hworld, Client.create_beside]
    rcases Client.create t broker backend s.world with ⟨_ | c, w⟩
    · rfl
    · simp only [Except.map, withClient_beside]
      rfl
  -- The handle is made over the transport; one of another source would be on the far side.
  | newHandle name target taskName arguments descriptor via =>
    obtain rfl : via = .transport := hstep
    have hid : (s.beside n).targetId target = s.targetId target := targetId_beside n s target
    rw [Session.step, Session.step, hid]
    exact congrArg (Prod.mk Answer.done) (withHandle_beside n s name
      (.new (s.targetId target) taskName arguments descriptor .given) s.world)
  | restore name text via =>
    obtain rfl : via = .transport := hstep
    have hsaved : (s.beside n).saved = s.saved := rfl
    simp only [Session.step, hsaved, Handle.ofText_beside]
    rcases (Handle.ofText Via.transport.source (text.getD s.saved) :
      Except Fault (Handle κ)) with _ | h
    · rfl
    · exact congrArg (Prod.mk Answer.done) (withHandle_beside n s name h s.world)
  | newConnector name descriptor source =>
    obtain rfl : source = .given := hstep
    simp only [Session.step, hworld, Transport.beside_create]
    rcases t.create .given descriptor s.world with ⟨_ | c, w⟩
    · rfl
    · simp only [Except.map, withConnector_beside]
      rfl
  | client name act =>
    have hget : (s.beside n).clients.get? name = (s.clients.get? name).map Client.beside :=
      Named.get?_mapAll Client.beside name s.clients
    simp only [Session.step, hget]
    cases s.clients.get? name with
    | none => rfl
    | some c => exact actOnClient_beside t n s name c act
  -- The handle was made over the transport too, for every handle of the session was.
  | handle name act =>
    have hget : (s.beside n).handles.get? name = (s.handles.get? name).map Handle.beside :=
      Named.get?_mapAll Handle.beside name s.handles
    simp only [Session.step, hget]
    cases hh : s.handles.get? name with
    | none => rfl
    | some h => exact actOnHandle_beside t n s name (hs name h hh) act
  | connector name act =>
    have hget : (s.beside n).connectors.get? name = (s.connectors.get? name).map .inl :=
      Named.get?_mapAll Sum.inl name s.connectors
    simp only [Session.step, hget]
    cases s.connectors.get? name with
    | none => rfl
    | some c => exact actOnConnector_beside t n s name c act

/-- The handles are the same but for one, perhaps, which takes its connectors from the given
transport. -/
def Resembles (handles handles' : Named (Handle κ)) : Prop :=
  handles' = handles ∨
    ∃ name h, h.source = .given ∧ handles' = handles.set name h

variable {s}

/-- A session stays with the given transport if at most a handle of that kind is set. -/
theorem Given.of_resembles {s' : Session κ β} (hs : s.Given)
    (h : Resembles s.handles s'.handles) : s'.Given := by
  intro other h' hget
  rcases h with heq | ⟨name, h, hsource, heq⟩ <;> rw [heq] at hget
  · exact hs other h' hget
  · by_cases hother : other = name
    · subst hother
      rw [Named.get?_set_self] at hget
      cases hget
      exact hsource
    · rw [Named.get?_set_of_ne hother] at hget
      exact hs other h' hget

/-- A handle that a client hands over takes its connectors from the given transport. -/
theorem actOnClient_resembles (name : String) (c : Client κ) (a : ClientAct) :
    Resembles s.handles (actOnClient t s name c a).2.handles := by
  cases a with
  | connect | close | debug | fetchMessage => exact .inl rfl
  | post handle task arguments o wantResult =>
    rw [actOnClient]
    rcases c.post_cases t task arguments o wantResult s.world with
      ⟨reason, -, heq⟩ | ⟨args, r, b, v, -, -, heq⟩ <;> rw [heq]
    · exact .inl rfl
    · rcases r with _ | e
      · exact .inl rfl
      · cases wantResult with
        | false => exact .inl rfl
        | true => exact .inr ⟨handle, _, rfl, rfl⟩

/-- No step takes a handle away from the given transport. -/
theorem given_step (react : ε → World β → World β) (hs : s.Given) {step : Step ε}
    (hstep : step.Given) : (s.step t react step).2.Given := by
  refine hs.of_resembles ?_
  cases step with
  | outside e => exact .inl rfl
  | pause d => exact .inl rfl
  | newClient name broker backend =>
    rw [Session.step]
    split <;> exact .inl rfl
  | newHandle name target taskName arguments descriptor via =>
    obtain rfl : via = .transport := hstep
    exact .inr ⟨name, _, rfl, rfl⟩
  -- A text says nothing about the source, so a restored handle has that of the step.
  | restore name text via =>
    obtain rfl : via = .transport := hstep
    rw [Session.step]
    split
    · exact .inl rfl
    · rename_i h hh
      exact .inr ⟨name, h, (Handle.ofText_fresh hh).2, rfl⟩
  | newConnector name descriptor source =>
    rw [Session.step]
    split <;> exact .inl rfl
  | client name act =>
    rw [Session.step]
    split
    · exact actOnClient_resembles t name _ act
    · exact .inl rfl
  | handle name act =>
    rw [Session.step]
    split
    · rename_i h hh
      -- An operation of a handle may change the handle, but not where its connector comes from.
      rcases Handle.actOnHandle_handles t s name h act with heq | heq
      · exact .inl heq
      · exact .inr ⟨name, _, (Handle.after_same t h s.world act).source.trans (hs name h hh), heq⟩
    · exact .inl rfl
  | connector name act =>
    rw [Session.step]
    split
    · cases act with
      | publishEnvelope envelope routingKey =>
        rw [actOnConnector]
        split <;> exact .inl rfl
      | state | connect | publish | fetch | close | submit => exact .inl rfl
    · exact .inl rfl

/-- A session that keeps to the transport it was given does not see the network: beside it, the run
has the same answers and comes to the same session, and the network stays as it is. -/
theorem run_beside (react : ε → World β → World β) (hs : s.Given) {steps : List (Step ε)}
    (hsteps : ∀ step ∈ steps, step.Given) :
    run t.beside (besideReact react) (s.beside n) steps =
      ((run t react s steps).1, (run t react s steps).2.beside n) := by
  induction steps generalizing s with
  | nil => rfl
  | cons step rest ih =>
    have hstep := hsteps step List.mem_cons_self
    simp only [run, step_beside t n s react hs hstep, across]
    rw [ih (given_step t react hs hstep) fun x hx => hsteps x (List.mem_cons_of_mem _ hx)]

end Session
end

end TaskQueue
