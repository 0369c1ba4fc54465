import TaskQueue.Proofs.Client.Restoring
import TaskQueue.Proofs.Session.Moments

/-!
# `TaskQueue.Proofs.Session.Laziness`: connectors are opened and connected when they are needed

A program works with the broker in memory (`Memory.transport`), which notes for which hosts
connectors were opened, and counts the connects. `Session.connects_lazily` says of every moment of
every run what it adds to them, in terms of the moments before.

A client opens two connectors when it is made, and none later. It connects each of them in the first
moment that needs it since the client was made or closed (`Moment.first`). A handle opens a
connector in the first moment in which it is polled without a body, again since it was made or
closed. So in its life a handle opens at most one connector, and one more for each time that it is
closed (`HandleAccount.bound`), and all of them are for the host that it was made for. What only
reads leaves the whole broker as it is.

The state of a connector is told by the history: `ClientAccount` and `HandleAccount` are the
invariants, and one more moment preserves them.
-/

set_option autoImplicit false

namespace TaskQueue

open Memory (Broker Outside)

namespace Session

section
variable {past : List (Moment Memory.Connector Broker Outside)} {name : String}
variable {s : Session Memory.Connector Broker} {step : Step Outside}

/-! ## The account of a client -/

/-- What the history tells of a client.

- `origin`: the client was made for the two descriptors that it has;
- `opened`: two connectors were opened when it was made, and no more since;
- `broker`, `backend`: a connector is connected if it was needed since the client was made or
  closed;
- `connects`: since then there was one connect for each of the two that is connected. -/
structure ClientAccount (past : List (Moment Memory.Connector Broker Outside)) (name : String)
    (c : Client Memory.Connector) : Prop where
  origin : ∃ m rest, since (Moment.creates name) past = m :: rest ∧
    m.step = .newClient name c.broker.descriptor c.backend.descriptor
  opened : ((since (Moment.creates name) past).filter fun m =>
      m.creates name || m.serves name).flatMap Moment.opened =
    [c.broker.descriptor.host, c.backend.descriptor.host]
  broker : c.broker.connected = (since (Moment.resets name) past).any (Moment.needsBroker name)
  backend : c.backend.connected = (since (Moment.resets name) past).any (Moment.needsBackend name)
  connects :
    (((since (Moment.resets name) past).filter (Moment.serves name)).map Moment.connects).sum =
      c.broker.connected.toNat + c.backend.connected.toNat

/-- Making a client opens its two connectors. -/
theorem newClient_spent (name : String) (broker backend : Descriptor) :
    (moment Memory.transport Outside.react s (.newClient name broker backend)).opened =
        [broker.host, backend.host] ∧
      (moment Memory.transport Outside.react s (.newClient name broker backend)).connects = 0 := by
  obtain ⟨v, hcreate, hspent⟩ := Client.create_memory broker backend s.world
  refine Moment.opened_of_spent (hspent.congr rfl ?_)
  simp only [moment, Session.step, hcreate, withClient]

/-- What is done with a client opens nothing, and connects what is needed. -/
theorem client_spent {c : Client Memory.Connector} (hc : s.clients.get? name = some c)
    (a : ClientAct) :
    (moment Memory.transport Outside.react s (.client name a)).opened = [] ∧
      (moment Memory.transport Outside.react s (.client name a)).connects =
        c.cost (a.needsBroker s.world) a.needsBackend := by
  obtain ⟨-, -, hspent⟩ := s.actOnClient_memory name c a hc
  refine Moment.opened_of_spent (hspent.congr rfl ?_)
  simp only [moment, Session.step, hc]

/-- What is done with a client needs its connectors as the act does. -/
theorem client_needs (s : Session Memory.Connector Broker) (name : String) (a : ClientAct) :
    (moment Memory.transport Outside.react s (.client name a)).needsBroker name =
        a.needsBroker s.world ∧
      (moment Memory.transport Outside.react s (.client name a)).needsBackend name =
        a.needsBackend := by
  simp [moment, Moment.needsBroker, Moment.needsBackend]

namespace ClientAccount

/-- The account begins when the client is made. -/
theorem made (past : List (Moment Memory.Connector Broker Outside))
    (s : Session Memory.Connector Broker) (name : String) (broker backend : Descriptor) :
    ClientAccount
      (past ++ [moment Memory.transport Outside.react s (.newClient name broker backend)]) name
      ⟨⟨broker, false⟩, ⟨backend, false⟩⟩ := by
  let m := moment Memory.transport Outside.react s (.newClient name broker backend)
  have hcreates : m.creates name = true := decide_eq_true rfl
  have hresets : m.resets name = true := decide_eq_true rfl
  obtain ⟨hopened, -⟩ := s.newClient_spent name broker backend
  -- The life of the client is this moment alone.
  constructor
  · exact ⟨m, [], since_concat_of_pos hcreates past, rfl⟩
  · rw [since_concat_of_pos hcreates]
    simpa [m, hcreates] using hopened
  · rw [since_concat_of_pos hresets]
    rfl
  · rw [since_concat_of_pos hresets]
    rfl
  · rw [since_concat_of_pos hresets]
    rfl

/-- A moment that is not about the client changes nothing. -/
theorem kept {c : Client Memory.Connector} (h : ClientAccount past name c)
    {m : Moment Memory.Connector Broker Outside} (hcreates : m.creates name = false)
    (hserves : m.serves name = false) : ClientAccount (past ++ [m]) name c := by
  obtain ⟨hresets, hbroker, hbackend⟩ := Moment.client_idle hcreates hserves
  obtain ⟨m₀, rest, hlife, hstep⟩ := h.origin
  -- The moment belongs to the life of the client, but adds nothing to what it opened.
  constructor
  · exact ⟨m₀, rest ++ [m], by rw [since_concat_of_neg hcreates, hlife]; rfl, hstep⟩
  · rw [since_concat_of_neg hcreates]
    simpa [hcreates, hserves] using h.opened
  · rw [since_concat_of_neg hresets]
    simpa [hbroker] using h.broker
  · rw [since_concat_of_neg hresets]
    simpa [hbackend] using h.backend
  · rw [since_concat_of_neg hresets]
    simpa [hserves] using h.connects

/-- No act changes what the client was made for, and none opens a connector. -/
theorem origin_done {c : Client Memory.Connector} (h : ClientAccount past name c)
    (hc : s.clients.get? name = some c) (a : ClientAct) :
    let past := past ++ [moment Memory.transport Outside.react s (.client name a)]
    let c := a.done s.world c
    (∃ m rest, since (Moment.creates name) past = m :: rest ∧
        m.step = .newClient name c.broker.descriptor c.backend.descriptor) ∧
      ((since (Moment.creates name) past).filter fun m =>
          m.creates name || m.serves name).flatMap Moment.opened =
        [c.broker.descriptor.host, c.backend.descriptor.host] := by
  let m := moment Memory.transport Outside.react s (.client name a)
  obtain ⟨m₀, rest, hlife, hstep⟩ := h.origin
  have hserves : m.serves name = true := decide_eq_true rfl
  have hopened : m.opened = [] := (client_spent hc a).1
  have hdescriptors : (a.done s.world c).broker.descriptor = c.broker.descriptor ∧
      (a.done s.world c).backend.descriptor = c.backend.descriptor := by
    cases a <;> exact ⟨rfl, rfl⟩
  simp only [hdescriptors]
  constructor
  · exact ⟨m₀, rest ++ [m], by rw [since_concat_of_neg rfl, hlife]; rfl, hstep⟩
  · rw [since_concat_of_neg rfl]
    simpa [hserves, hopened, m] using h.opened

/-- Once the client is closed, neither connector is connected or was needed since. -/
theorem closed {c : Client Memory.Connector} (h : ClientAccount past name c)
    (hc : s.clients.get? name = some c) :
    ClientAccount (past ++ [moment Memory.transport Outside.react s (.client name .close)]) name
      c.closed := by
  let m := moment Memory.transport Outside.react s (.client name .close)
  have hresets : m.resets name = true := decide_eq_true rfl
  have hserves : m.serves name = true := decide_eq_true rfl
  obtain ⟨hbroker, hbackend⟩ : m.needsBroker name = false ∧ m.needsBackend name = false :=
    client_needs s name .close
  have hfree : m.connects = 0 := (client_spent hc .close).2
  obtain ⟨horigin, hhosts⟩ := h.origin_done hc .close
  refine ⟨horigin, hhosts, ?_, ?_, ?_⟩
  · rw [since_concat_of_pos hresets]
    simp [hbroker, Client.closed]
  · rw [since_concat_of_pos hresets]
    simp [hbackend, Client.closed]
  · rw [since_concat_of_pos hresets]
    simpa [hserves, Client.closed] using hfree

/-- What is done with the client without closing it connects what is needed and was not yet. -/
theorem used {c : Client Memory.Connector} (h : ClientAccount past name c)
    (hc : s.clients.get? name = some c) {a : ClientAct}
    (hresets : (moment Memory.transport Outside.react s (.client name a)).resets name = false)
    (hdone : a.done s.world c = c.use (a.needsBroker s.world) a.needsBackend) :
    ClientAccount (past ++ [moment Memory.transport Outside.react s (.client name a)]) name
      (a.done s.world c) := by
  let m := moment Memory.transport Outside.react s (.client name a)
  have hserves : m.serves name = true := decide_eq_true rfl
  obtain ⟨hbroker, hbackend⟩ : m.needsBroker name = a.needsBroker s.world ∧
    m.needsBackend name = a.needsBackend := client_needs s name a
  have hpaid : m.connects = c.cost (a.needsBroker s.world) a.needsBackend :=
    (client_spent hc a).2
  obtain ⟨horigin, hhosts⟩ := h.origin_done hc a
  refine ⟨horigin, hhosts, ?_, ?_, ?_⟩
  · rw [since_concat_of_neg hresets, List.any_append, ← h.broker, hdone]
    simp [m, hbroker, Client.use, Memory.Connector.use]
  · rw [since_concat_of_neg hresets, List.any_append, ← h.backend, hdone]
    simp [m, hbackend, Client.use, Memory.Connector.use]
  · have hearlier := h.connects
    rw [since_concat_of_neg hresets, List.filter_append, List.map_append, List.sum_append,
      hearlier, hdone, Client.use, Memory.Connector.toNat_use, Memory.Connector.toNat_use]
    simp only [List.filter_cons, hserves, if_true, List.filter_nil, List.map_cons, List.map_nil,
      List.sum_cons, List.sum_nil, hpaid, Client.cost, m]
    omega

/-- What is done with the client is entered. -/
theorem served {c : Client Memory.Connector} (h : ClientAccount past name c)
    (hc : s.clients.get? name = some c) (a : ClientAct) :
    ClientAccount (past ++ [moment Memory.transport Outside.react s (.client name a)]) name
      (a.done s.world c) := by
  cases a with
  | close => exact h.closed hc
  | connect | debug | fetchMessage | post => exact h.used hc rfl rfl

end ClientAccount

/-! ## The account of a handle -/

/-- The hosts for which a handle opened connectors since it was made. -/
def openedBy (past : List (Moment Memory.Connector Broker Outside)) (name : String) :
    List String :=
  ((since (Moment.makes name) past).filter (Moment.uses name)).flatMap Moment.opened

/-- As long as the handle is not made anew, what a moment opens for it is added. -/
theorem openedBy_concat {m : Moment Memory.Connector Broker Outside}
    (hmakes : m.makes name = false) (past : List (Moment Memory.Connector Broker Outside)) :
    openedBy (past ++ [m]) name =
      openedBy past name ++ if m.uses name then m.opened else [] := by
  rw [openedBy, since_concat_of_neg hmakes, List.filter_append, List.flatMap_append]
  cases huses : m.uses name <;> simp [openedBy, huses]

/-- What the history tells of a handle.

- `origin`: the handle was made for the descriptor that it has;
- `connector`: it has a connector if it needed one since it was made or closed;
- `hosts`: all connectors that it opened are for the host of its descriptor;
- `bound`: it opened at most one, and one more for each time that it was closed. While it has none,
  it may still open one. -/
structure HandleAccount (past : List (Moment Memory.Connector Broker Outside)) (name : String)
    (h : Handle Memory.Connector) : Prop where
  origin : ∃ m rest h₀, since (Moment.makes name) past = m :: rest ∧
    m.after.handles.get? name = some h₀ ∧ h₀.descriptor = h.descriptor
  connector :
    h.connector.isSome = (since (Moment.startsOver name) past).any (Moment.needsConnector name)
  hosts : ∀ host ∈ openedBy past name, host = h.descriptor.host
  bound : (openedBy past name).length + h.connector.isNone.toNat ≤
    1 + (since (Moment.makes name) past).countP (Moment.closes name)

/-- What is done with a handle opens a connector for its host if it needs one and has none. -/
theorem handle_opened {h : Handle Memory.Connector} (hh : s.handles.get? name = some h)
    (a : HandleAct) :
    (moment Memory.transport Outside.react s (.handle name a)).opened =
      if decide a.Polls && h.body.isNone && h.connector.isNone then [h.descriptor.host]
      else [] := by
  have hworld : (s.step Memory.transport Outside.react (.handle name a)).2.world =
      (h.after Memory.transport s.world a).2 := by
    simp only [Session.step, hh]
    exact (Handle.actOnHandle_after Memory.transport hh a).2
  simp only [Moment.opened, moment, hworld, (h.after_memory s.world a).2, List.drop_left]

/-- What is done with a handle makes no handle. -/
theorem makes_handle (name : String) (a : HandleAct) :
    (moment Memory.transport Outside.react s (.handle name a)).makes name = false := by
  cases a <;> rfl

/-- What is opened for a handle is what was opened before, and now if it is needed. -/
theorem openedBy_used {h : Handle Memory.Connector} (hh : s.handles.get? name = some h)
    (a : HandleAct) (past : List (Moment Memory.Connector Broker Outside)) :
    openedBy (past ++ [moment Memory.transport Outside.react s (.handle name a)]) name =
      openedBy past name ++
        if decide a.Polls && h.body.isNone && h.connector.isNone then [h.descriptor.host]
        else [] := by
  have huses : (moment Memory.transport Outside.react s (.handle name a)).uses name = true :=
    decide_eq_true rfl
  rw [openedBy_concat (makes_handle name a), huses, ← handle_opened hh a]
  rfl

/-- What is done with a handle needs a connector if it polls a result that is not known. -/
theorem handle_needs {h : Handle Memory.Connector} (hh : s.handles.get? name = some h)
    (a : HandleAct) :
    (moment Memory.transport Outside.react s (.handle name a)).needsConnector name =
      (decide a.Polls && h.body.isNone) := by
  rw [Moment.needsConnector, makes_handle, Bool.false_and, Bool.or_false]
  simp [moment, Moment.asks, hh]

namespace HandleAccount

/-- The account begins when the handle is made. -/
theorem made (past : List (Moment Memory.Connector Broker Outside))
    {m : Moment Memory.Connector Broker Outside} (hmakes : m.makes name = true)
    (huses : m.uses name = false) {h : Handle Memory.Connector}
    (hh : m.after.handles.get? name = some h) : HandleAccount (past ++ [m]) name h := by
  obtain ⟨hcloses, hasks⟩ := Moment.handle_idle huses
  have hstarts : m.startsOver name = true := by rw [Moment.startsOver, hmakes, Bool.true_or]
  have hquiet : openedBy (past ++ [m]) name = [] := by
    simp [openedBy, since_concat_of_pos hmakes, huses]
  -- The handle was made at this moment, so it has opened nothing yet.
  constructor
  · exact ⟨m, [], h, since_concat_of_pos hmakes past, hh, rfl⟩
  · rw [since_concat_of_pos hstarts]
    simp [Moment.needsConnector, hasks, hmakes, hh]
  · rw [hquiet]
    exact fun host hhost => absurd hhost List.not_mem_nil
  · rw [hquiet, since_concat_of_pos hmakes]
    cases h.connector <;> simp [hcloses]

/-- A moment that is not about the handle changes nothing. -/
theorem kept {h : Handle Memory.Connector} (account : HandleAccount past name h)
    {m : Moment Memory.Connector Broker Outside} (hmakes : m.makes name = false)
    (huses : m.uses name = false) : HandleAccount (past ++ [m]) name h := by
  obtain ⟨hcloses, hasks⟩ := Moment.handle_idle huses
  obtain ⟨m₀, rest, h₀, hlife, hh₀, hdescriptor⟩ := account.origin
  have hstarts : m.startsOver name = false := by rw [Moment.startsOver, hmakes, hcloses]; rfl
  have hneeds : m.needsConnector name = false := by
    rw [Moment.needsConnector, hmakes, hasks]
    rfl
  have hquiet : openedBy (past ++ [m]) name = openedBy past name := by
    rw [openedBy_concat hmakes, huses]
    exact List.append_nil _
  -- Nothing was asked of the handle, so it is as much in need of a connector as before.
  constructor
  · exact ⟨m₀, rest ++ [m], h₀, by rw [since_concat_of_neg hmakes, hlife]; rfl, hh₀, hdescriptor⟩
  · rw [since_concat_of_neg hstarts]
    simpa [hneeds] using account.connector
  · rw [hquiet]
    exact account.hosts
  · rw [hquiet, since_concat_of_neg hmakes]
    simpa [hcloses] using account.bound

/-- An operation of the handle does not make it anew. -/
theorem origin_used {h : Handle Memory.Connector} (account : HandleAccount past name h)
    (a : HandleAct) :
    ∃ m rest h₀, since (Moment.makes name)
        (past ++ [moment Memory.transport Outside.react s (.handle name a)]) = m :: rest ∧
      m.after.handles.get? name = some h₀ ∧
      h₀.descriptor = (h.after Memory.transport s.world a).1.descriptor := by
  obtain ⟨m, rest, h₀, hlife, hh₀, hdescriptor⟩ := account.origin
  rw [since_concat_of_neg (makes_handle name a), hlife,
    (Handle.after_same Memory.transport h s.world a).descriptor]
  exact ⟨m, rest ++ [_], h₀, rfl, hh₀, hdescriptor⟩

/-- What it opens is for the host of the handle, as all before. -/
theorem hosts_used {h : Handle Memory.Connector} (account : HandleAccount past name h)
    (hh : s.handles.get? name = some h) (a : HandleAct) :
    ∀ host ∈ openedBy (past ++ [moment Memory.transport Outside.react s (.handle name a)]) name,
      host = (h.after Memory.transport s.world a).1.descriptor.host := by
  intro host hhost
  rw [openedBy_used hh, List.mem_append] at hhost
  rw [(Handle.after_same Memory.transport h s.world a).descriptor]
  rcases hhost with hearlier | hnow
  · exact account.hosts host hearlier
  · split at hnow
    · exact List.mem_singleton.1 hnow
    · exact absurd hnow List.not_mem_nil

/-- Closing asks nothing, and the next poll may open a connector again. -/
theorem closed {h : Handle Memory.Connector} (account : HandleAccount past name h)
    (hh : s.handles.get? name = some h) :
    HandleAccount (past ++ [moment Memory.transport Outside.react s (.handle name .close)]) name
      (h.after Memory.transport s.world .close).1 := by
  let m := moment Memory.transport Outside.react s (.handle name .close)
  have hcloses : m.closes name = true := decide_eq_true rfl
  have hneeds : m.needsConnector name = false := handle_needs hh .close
  have hquiet : openedBy (past ++ [m]) name = openedBy past name :=
    (openedBy_used hh .close past).trans (List.append_nil _)
  refine ⟨account.origin_used .close, ?_, account.hosts_used hh .close, ?_⟩
  · rw [since_concat_of_pos (by rw [Moment.startsOver, hcloses, Bool.or_true]), List.any_cons,
      hneeds]
    exact (h.after_memory s.world .close).1
  · have hbound := account.bound
    have hatMost := Bool.toNat_le (h.after Memory.transport s.world .close).1.connector.isNone
    rw [hquiet, since_concat_of_neg (makes_handle name .close), List.countP_append,
      List.countP_singleton, hcloses]
    simp only [if_true]
    omega

/-- Any other operation leaves the handle with a connector if it had or needed one. -/
theorem asked {h : Handle Memory.Connector} (account : HandleAccount past name h)
    (hh : s.handles.get? name = some h) {a : HandleAct} (ha : a ≠ .close) :
    HandleAccount (past ++ [moment Memory.transport Outside.react s (.handle name a)]) name
      (h.after Memory.transport s.world a).1 := by
  let m := moment Memory.transport Outside.react s (.handle name a)
  have hmakes : m.makes name = false := makes_handle name a
  have hneeds : m.needsConnector name = (decide a.Polls && h.body.isNone) := handle_needs hh a
  have hcloses : m.closes name = false := by
    cases a with
    | close => exact absurd rfl ha
    | _ => rfl
  have hstarts : m.startsOver name = false := by rw [Moment.startsOver, hmakes, hcloses]; rfl
  have hkeeps : (h.after Memory.transport s.world a).1.connector.isSome =
      (h.connector.isSome || decide a.Polls && h.body.isNone) := by
    have hconnector := (h.after_memory s.world a).1
    cases a with
    | close => exact absurd rfl ha
    | _ => exact hconnector
  refine ⟨account.origin_used a, ?_, account.hosts_used hh a, ?_⟩
  · rw [since_concat_of_neg hstarts, List.any_append, ← account.connector, hkeeps]
    simp [hneeds]
  -- A connector is opened only where there was none, so what may still be opened goes down by one.
  · have hnow : (h.after Memory.transport s.world a).1.connector.isNone =
        !(h.connector.isSome || decide a.Polls && h.body.isNone) := by
      rw [← Option.not_isSome, hkeeps]
    have hbound := account.bound
    rw [openedBy_used hh, since_concat_of_neg hmakes, List.countP_append, List.countP_singleton,
      hcloses, hnow]
    revert hbound
    cases h.connector <;> cases decide a.Polls && h.body.isNone <;> simp

/-- What is done with the handle is entered. -/
theorem used {h : Handle Memory.Connector} (account : HandleAccount past name h)
    (hh : s.handles.get? name = some h) (a : HandleAct) :
    HandleAccount (past ++ [moment Memory.transport Outside.react s (.handle name a)]) name
      (h.after Memory.transport s.world a).1 := by
  by_cases ha : a = .close
  · subst ha
    exact account.closed hh
  · exact account.asked hh ha

end HandleAccount

end

/-! ## What one more moment costs -/

/-- The step only reads, or it makes a handle that is not given a connector. -/
def Step.Quiet : Step Outside → Prop
  | .handle _ a => a.Reads
  | .newHandle _ _ _ _ _ via | .restore _ _ via => via ≠ .connector
  | .client _ .debug | .connector _ .state | .pause _ => True
  | _ => False

/-- What a moment costs, in terms of the moments before.

- `made`: a client opens its two connectors when it is made, the one for the broker of tasks first;
- `client`: what is done with a client opens none. A connector is connected in the first moment
  that needs it since the client was made or closed;
- `handle`: what is done with a handle opens a connector for its host, in the first moment that
  needs one since the handle was made or closed, and none in any other;
- `posted`: a handle that comes from a submission is for the backend of results, and has no
  connector;
- `restored`: a handle that was read has no connector, unless it is given one at once;
- `quiet`: what only reads leaves the whole broker as it is;
- `grows`: what was opened and counted before stays. -/
structure Moment.Lazy (past : List (Moment Memory.Connector Broker Outside))
    (m : Moment Memory.Connector Broker Outside) : Prop where
  made : ∀ name broker backend, m.step = .newClient name broker backend →
    m.opened = [broker.host, backend.host] ∧ m.connects = 0
  client : ∀ name a c, m.step = .client name a → m.before.clients.get? name = some c →
    m.opened = [] ∧ m.connects =
      (first (needsBroker name) (resets name) past m).toNat +
        (first (needsBackend name) (resets name) past m).toNat
  handle : ∀ name a h, m.step = .handle name a → m.before.handles.get? name = some h →
    m.opened =
      if first (needsConnector name) (startsOver name) past m then [h.descriptor.host] else []
  posted : ∀ name c handle task arguments o wantResult id,
    m.step = .client name (.post handle task arguments o wantResult) →
    m.before.clients.get? name = some c → m.answer = .submitted true id →
    ∃ h, m.after.handles.get? handle = some h ∧ h.descriptor = c.backend.descriptor ∧
      h.connector = none
  restored : ∀ name text via, m.step = .restore name text via → via ≠ .connector →
    m.answer = .done → ∃ h, m.after.handles.get? name = some h ∧ h.connector = none
  quiet : m.step.Quiet → m.after.world.broker = m.before.world.broker
  grows : m.before.world.broker.openedFor <+: m.after.world.broker.openedFor ∧
    m.before.world.broker.connects ≤ m.after.world.broker.connects

section
variable (s : Session Memory.Connector Broker)

/-- A step that only reads leaves the broker alone. -/
theorem step_quiet {step : Step Outside} (hstep : step.Quiet) :
    (s.step Memory.transport Outside.react step).2.world.broker = s.world.broker := by
  cases step with
  | handle name a =>
    rw [Session.step]
    split
    · rename_i h hh
      rw [(Handle.actOnHandle_after Memory.transport hh a).2]
      exact h.after_reads s.world hstep
    · rfl
  -- Only a handle over a given connector makes one, and such a step is not quiet.
  | newHandle name target taskName arguments descriptor via =>
    obtain ⟨c, s', hkeep, -, hquiet⟩ := s.keepHandle_memory name
      (.new (s.targetId target) taskName arguments descriptor via.source) via
    rw [Session.step, hkeep]
    rw [(hquiet hstep).2]
  | restore name text via =>
    rw [Session.step]
    split
    · rfl
    · rename_i h _
      obtain ⟨c, s', hkeep, -, hquiet⟩ := s.keepHandle_memory name h via
      rw [hkeep]
      rw [(hquiet hstep).2]
  | client name a =>
    cases a with
    | debug =>
      rw [Session.step]
      split <;> rfl
    | connect | close | fetchMessage | post => exact hstep.elim
  | connector name a =>
    cases a with
    | state =>
      rw [Session.step]
      split <;> rfl
    | connect | publish | fetch | close | submit | publishEnvelope => exact hstep.elim
  | pause d => rfl
  | outside | newClient | newConnector => exact hstep.elim

/-- What was opened and counted stays. -/
theorem throughout_grows : Memory.transport.Throughout fun w v =>
    w.broker.openedFor <+: v.broker.openedFor ∧ w.broker.connects ≤ v.broker.connects where
  still _ _ h _ := by
    rw [h]
    exact ⟨List.prefix_rfl, Nat.le_refl _⟩
  trans _ _ _ h₁ h₂ := ⟨h₁.1.trans h₂.1, h₁.2.trans h₂.2⟩
  create _ d w := ⟨List.prefix_append _ _, Nat.le_refl _⟩
  connect c w := by
    obtain ⟨v, hconnect, hspent⟩ := Memory.connect_spent c w
    rw [hconnect]
    exact hspent.grows
  fetch c id remove w := by
    obtain ⟨found, v, hfetch, hspent⟩ := Memory.fetch_spent c id remove w
    rw [hfetch]
    exact hspent.grows
  close _ _ := ⟨List.prefix_rfl, Nat.le_refl _⟩
  publish c routingKey body properties w := by
    obtain ⟨accepted, v, hpublish, hspent⟩ := Memory.publish_spent c routingKey body properties w
    rw [hpublish]
    exact hspent.grows

/-- No step takes back what was opened or connected before. -/
theorem step_grows (step : Step Outside) :
    let v := (s.step Memory.transport Outside.react step).2.world
    s.world.broker.openedFor <+: v.broker.openedFor ∧
      s.world.broker.connects ≤ v.broker.connects := by
  cases step with
  | outside e => cases e <;> exact ⟨List.prefix_rfl, Nat.le_refl _⟩
  | _ => exact step_throughout throughout_grows Outside.react s trivial

/-- The accounts of all clients and handles are right. -/
structure Accounts (past : List (Moment Memory.Connector Broker Outside))
    (s : Session Memory.Connector Broker) : Prop where
  clients : ∀ name c, s.clients.get? name = some c → ClientAccount past name c
  handles : ∀ name h, s.handles.get? name = some h → HandleAccount past name h

namespace Accounts

variable {s} {past : List (Moment Memory.Connector Broker Outside)}

/-- At the start there is nothing to account for. -/
theorem start (w : World Broker) : Accounts [] { world := w } where
  clients name c hc := by
    rw [Named.get?] at hc
    cases hc
  handles name h hh := by
    rw [Named.get?] at hh
    cases hh

/-- One more moment keeps the accounts right. -/
theorem next (accounts : Accounts past s) (step : Step Outside) :
    Accounts (past ++ [moment Memory.transport Outside.react s step])
      (s.step Memory.transport Outside.react step).2 where
  clients name c' hc' := by
    rcases s.step_client hc' with ⟨broker, backend, rfl, rfl⟩ | ⟨a, c, rfl, hc, rfl⟩ |
      ⟨hcreates, hserves, hc⟩
    · exact .made past s name broker backend
    · exact (accounts.clients name c hc).served hc a
    · exact (accounts.clients name c' hc).kept hcreates hserves
  handles name h' hh' := by
    rcases s.step_handle hh' with ⟨hmakes, huses⟩ | ⟨a, h, rfl, hh, rfl⟩ | ⟨hmakes, huses, hh⟩
    · exact .made past hmakes huses hh'
    · exact (accounts.handles name h hh).used hh a
    · exact (accounts.handles name h' hh).kept hmakes huses

/-- If the accounts are right, then a moment opens and connects nothing too early or twice. -/
theorem lazy (accounts : Accounts past s)
    (step : Step Outside) : (moment Memory.transport Outside.react s step).Lazy past where
  made name broker backend hstep := by
    cases hstep
    exact s.newClient_spent name broker backend
  -- What the account says of the past is that the client opens now what it has not opened before.
  client name a c hstep hc := by
    cases hstep
    have account := accounts.clients name c hc
    obtain ⟨hopened, hconnects⟩ := client_spent hc a
    obtain ⟨hbroker, hbackend⟩ := client_needs s name a
    refine ⟨hopened, hconnects.trans ?_⟩
    rw [Moment.first, Moment.first, ← account.broker, ← account.backend, hbroker, hbackend]
    rfl
  handle name a h hstep hh := by
    cases hstep
    replace hh : s.handles.get? name = some h := hh
    rw [handle_opened hh a]
    have account := accounts.handles name h hh
    rw [Moment.first, ← account.connector, handle_needs hh a, Option.not_isSome]
  posted name c handle task arguments o wantResult id hstep hc hanswer := by
    cases hstep
    replace hc : s.clients.get? name = some c := hc
    simp only [moment, Session.step, hc] at hanswer ⊢
    rcases s.actOnClient_post name c handle task arguments o wantResult with
      ⟨-, h, -, hhandles, hdescriptor, hconnector⟩ | ⟨hother, -⟩
    · rw [hhandles]
      exact ⟨h, Named.get?_set_self .., hdescriptor, hconnector⟩
    · exact absurd hanswer (hother id)
  restored name text via hstep hvia hanswer := by
    cases hstep
    cases htext : (Handle.ofText via.source (text.getD s.saved) :
        Except Fault (Handle Memory.Connector)) with
    | error f =>
      simp only [moment, Session.step, htext] at hanswer
      cases hanswer
    | ok h =>
      obtain ⟨c, s', hkeep, hhandles, hquiet⟩ := s.keepHandle_memory name h via
      obtain ⟨hsame, -⟩ := hquiet hvia
      simp only [moment, Session.step, htext, hkeep, hhandles]
      exact ⟨_, Named.get?_set_self .., hsame.trans (Handle.ofText_fresh htext).1⟩
  quiet := s.step_quiet
  grows := s.step_grows step

end Accounts

/-! ## The theorem -/

/-- Take any run of a program with the broker in memory, and any step after it. The history tells
the state of every connector, and how many were opened and for which hosts (`ClientAccount`,
`HandleAccount`). The step opens and connects what it needs, and what was needed before is not
opened or connected again (`Moment.Lazy`). What only reads leaves the broker as it is.

Every connector counts here, whatever source it is from, since the registry leads to the broker in
memory as well. If no handle names the registry, the same happens where it leads to the network
(`Session.run_beside`). -/
theorem connects_lazily (w : World Broker) (steps : List (Step Outside)) (step : Step Outside) :
    let start : Session Memory.Connector Broker := { world := w }
    let past := history Memory.transport Outside.react start steps
    let now := (run Memory.transport Outside.react start steps).2
    Accounts past now ∧ (moment Memory.transport Outside.react now step).Lazy past := by
  intro start past now
  have accounts : Accounts past now :=
    history_induction (.start w) (fun ms s step h => h.next step) steps
  exact ⟨accounts, accounts.lazy step⟩

end
end Session
end TaskQueue
