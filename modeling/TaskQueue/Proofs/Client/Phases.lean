import TaskQueue.Proofs.Client.Watched
import TaskQueue.Proofs.Json.Reading
import TaskQueue.Session
import TaskQueue.Transport.Script

/-!
# `TaskQueue.Proofs.Client.Phases`: the two phases of a handle

A handle has a body or it has none. `Handle.Unresolved` and `Handle.Resolved` say what each of
its operations comes to in the two phases, and `Handle.phases` that one of them holds.

`Session.Step.Alone` are the steps that do something with one handle, and those of the rest of
the world: time passes, and things happen outside of the program. The latter can be anything, so
they also stand for what other handles and clients do with the broker. `Session.handle_phases`
follows the handle through any run of such steps over a watched transport: it makes the calls
that `Conduct` allows, and ends in one of the two phases. The invariant is `Session.Keeps`, which
one step preserves (`Session.keeps_step`).
-/

set_option autoImplicit false

namespace TaskQueue

namespace Handle

variable {κ β : Type}

/-! ## The phases -/

/-- What a handle without a body answers. An operation that fails leaves it without a body. -/
structure Unresolved (t : Transport κ β) (h : Handle κ) : Prop where
  status : h.status = .error (.prematureAccess "status")
  result : h.result = .error (.prematureAccess "result")
  traceback : h.traceback = .error (.prematureAccess "traceback")
  state : h.state = .pending
  stays : ∀ (s : Session κ β) (name : String) (a : Session.HandleAct) (e : Error),
    s.handles.get? name = some h → (Session.actOnHandle t s name h a).1 = .failed e →
    ∃ h', (Session.actOnHandle t s name h a).2.handles.get? name = some h' ∧ h'.body = none

/-- What a handle with a body answers, in every world. Nothing changes, so the broker is not
asked. -/
structure Resolved (t : Transport κ β) (h : Handle κ) (b : ResultBody) : Prop where
  status : h.status = .ok b.status
  result : h.result = .ok b.result
  traceback : h.traceback = .ok b.traceback
  state : h.state = b.state
  text : h.state.text = b.status
  isReady : ∀ w, h.isReady t w = (.ok true, h, w)
  isSuccess : ∀ w, h.isSuccess t w = (.ok b.isSuccess, h, w)
  failed : ∀ w, h.failed t w = (.ok (!b.isSuccess), h, w)
  resultIfReady : ∀ w, h.resultIfReady t w = (.ok (some b.result), h, w)
  get : ∀ (tries : Nat) (limit interval : Duration) (w : World β), 0 < tries →
    h.get t tries limit interval w = (some (.ok b.result), h, w)

/-- With a body, a handle is in the second phase. -/
theorem resolved_of_body (t : Transport κ β) {h : Handle κ} {b : ResultBody}
    (hb : h.body = some b) : Resolved t h b where
  status := by simp only [Handle.status, cached, hb, Except.map]
  result := by simp only [Handle.result, cached, hb, Except.map]
  traceback := by simp only [Handle.traceback, cached, hb, Except.map]
  state := by simp only [Handle.state, hb]
  text := by simp only [Handle.state, hb, ResultBody.state, TaskState.text_ofStatus]
  isReady w := isReady_of_body t hb w
  isSuccess w := by
    simp only [Handle.isSuccess, isReadyAnd, isReady_of_body t hb, cached, hb, Except.map]
  failed w := by
    simp only [Handle.failed, isReadyAnd, isReady_of_body t hb, cached, hb, Except.map]
  resultIfReady w := by
    simp only [Handle.resultIfReady, isReady_of_body t hb, hb, Option.map]
  -- A wait that looks at all finds the body at its first look, before any pause.
  get tries limit interval w hpos := by
    obtain ⟨n, rfl⟩ : ∃ n, tries = n + 1 := ⟨tries - 1, by omega⟩
    simp only [Handle.get, poll, isReady_of_body t hb, Handle.result, cached, hb, Except.map]

/-- A look that fails leaves the handle without a body. -/
theorem isReady_failed {t : Transport κ β} {h : Handle κ} {w : World β} {e : Error}
    (hb : h.body = none) (he : (h.isReady t w).1 = .error e) :
    (h.isReady t w).2.1.body = none := by
  rcases hr : h.isReady t w with ⟨r, h', w'⟩
  rw [hr] at he
  exact isReady_not_ready hb hr (by rw [show r = .error e from he]; simp)

/-- If the question whether the result meets a condition fails, then the look failed. -/
theorem isReadyAnd_failed {t : Transport κ β} {condition : ResultBody → Bool} {h : Handle κ}
    {w : World β} {e : Error} (hb : h.body = none)
    (he : (h.isReadyAnd t condition w).1 = .error e) : (h.isReady t w).1 = .error e := by
  unfold isReadyAnd at he
  rcases hr : h.isReady t w with ⟨e' | _ | _, h', w'⟩
  · rw [hr] at he
    exact he
  · rw [hr] at he
    cases he
  · obtain ⟨b, hb'⟩ := isReady_ready hb hr
    rw [hr] at he
    simp only [cached, hb', Except.map] at he
    cases he

/-- If asking for the result if it is there fails, then the look failed. -/
theorem resultIfReady_failed {t : Transport κ β} {h : Handle κ} {w : World β} {e : Error}
    (he : (h.resultIfReady t w).1 = .error e) : (h.isReady t w).1 = .error e := by
  unfold resultIfReady at he
  rcases hr : h.isReady t w with ⟨e' | _ | _, h', w'⟩ <;> rw [hr] at he <;> cases he
  rfl

/-- Waiting without success leaves the handle without a body. -/
theorem poll_failed (t : Transport κ β) (limit interval : Duration) (deadline : Option Nat)
    (tries : Nat) (h : Handle κ) (hb : h.body = none) (w : World β) {e : Error}
    (he : (poll t limit interval deadline tries h w).1 = some (.error e)) :
    (poll t limit interval deadline tries h w).2.1.body = none := by
  -- An error comes from the last look or from the deadline, and neither brings a body.
  induction tries generalizing h w with
  | zero => exact hb
  | succ tries ih =>
    rcases poll_cases t limit interval deadline tries h w with
      ⟨e', h', w', hr, heq⟩ | ⟨h', w', hr, heq⟩ | ⟨h', w', hr, heq⟩ | ⟨h', w', pause, hr, heq⟩
    · rw [heq]
      exact isReady_not_ready hb hr (by simp)
    · -- A look that found the result does not make the wait fail.
      obtain ⟨b, hb'⟩ := isReady_ready hb hr
      rw [heq] at he
      simp only [Handle.result, cached, hb', Except.map] at he
      cases he
    · rw [heq]
      exact isReady_not_ready hb hr (by simp)
    · rw [heq] at he ⊢
      exact ih h' (isReady_not_ready hb hr (by simp)) _ he

/-- Closing keeps the body. -/
theorem close_body (t : Transport κ β) (h : Handle κ) (w : World β) :
    (h.close t w).2.1.body = h.body := by
  unfold close
  split
  · rfl
  · split <;> rfl

/-- A handle and its world after something was done with it. -/
def after (t : Transport κ β) (h : Handle κ) (w : World β) : Session.HandleAct → Handle κ × World β
  | .isReady | .isSuccess | .failed | .resultIfReady => (h.isReady t w).2
  | .get limit interval => (h.get t (Session.tries w.clock limit interval) limit interval w).2
  | .forget => (h, h.forget w)
  | .revoke => (h, h.revoke w)
  | .close => (h.close t w).2
  | .status | .result | .traceback | .state | .info | .debug | .serialize => (h, w)

/-- A session keeps the handle and the world after something was done with the handle. -/
theorem actOnHandle_after (t : Transport κ β) {h : Handle κ} {s : Session κ β} {name : String}
    (hs : s.handles.get? name = some h) (a : Session.HandleAct) :
    (Session.actOnHandle t s name h a).2.handles.get? name = some (h.after t s.world a).1 ∧
      (Session.actOnHandle t s name h a).2.world = (h.after t s.world a).2 := by
  cases a with
  | isReady => exact ⟨Named.get?_set_self .., rfl⟩
  -- Some answers are computed from what a look found, but what the look leaves is kept as it is.
  | isSuccess =>
    have ha := isReadyAnd_after t (·.isSuccess) h s.world
    exact ⟨by rw [after, ← ha]; exact Named.get?_set_self .., by rw [after, ← ha]; rfl⟩
  | failed =>
    have ha := isReadyAnd_after t (fun b => !b.isSuccess) h s.world
    exact ⟨by rw [after, ← ha]; exact Named.get?_set_self .., by rw [after, ← ha]; rfl⟩
  | resultIfReady =>
    have ha := resultIfReady_after t h s.world
    exact ⟨by rw [after, ← ha]; exact Named.get?_set_self .., by rw [after, ← ha]; rfl⟩
  | get limit interval =>
    simp only [Session.actOnHandle, after]
    rcases h.get t (Session.tries s.world.clock limit interval) limit interval s.world with
      ⟨_ | r, h', w'⟩
    · exact ⟨Named.get?_set_self .., rfl⟩
    · exact ⟨Named.get?_set_self .., rfl⟩
  | close => exact ⟨Named.get?_set_self .., rfl⟩
  | status | result | traceback | state | info | forget | revoke | debug | serialize =>
    exact ⟨hs, rfl⟩

/-- At most the handle that something was done with is kept in another form. -/
theorem actOnHandle_handles (t : Transport κ β) (s : Session κ β) (name : String) (h : Handle κ)
    (a : Session.HandleAct) :
    (Session.actOnHandle t s name h a).2.handles = s.handles ∨
      (Session.actOnHandle t s name h a).2.handles =
        s.handles.set name (h.after t s.world a).1 := by
  cases a with
  -- The operations that look put back the handle they return; all others leave the table of handles
  -- alone.
  | isReady => exact .inr rfl
  | isSuccess =>
    rw [after, ← isReadyAnd_after t (·.isSuccess) h s.world]
    exact .inr rfl
  | failed =>
    rw [after, ← isReadyAnd_after t (fun b => !b.isSuccess) h s.world]
    exact .inr rfl
  | resultIfReady =>
    rw [after, ← resultIfReady_after t h s.world]
    exact .inr rfl
  | get limit interval =>
    simp only [Session.actOnHandle, after]
    rcases h.get t (Session.tries s.world.clock limit interval) limit interval s.world with
      ⟨_ | r, h', w'⟩ <;> exact .inr rfl
  | close => exact .inr rfl
  | status | result | traceback | state | info | forget | revoke | debug | serialize =>
    exact .inl rfl

/-- What a handle is about stays the same in a wait. -/
theorem poll_same (t : Transport κ β) (limit interval : Duration) (deadline : Option Nat)
    (tries : Nat) (h : Handle κ) (w : World β) :
    Same h (poll t limit interval deadline tries h w).2.1 := by
  refine poll_keeps (R := fun h _ h' _ => Same h h') t (isReady_same t) (fun h _ _ _ _ => .refl h)
    (fun hfirst hrest => hfirst.trans hrest) limit interval deadline tries h w

/-- It stays the same whatever is done with the handle. -/
theorem after_same (t : Transport κ β) (h : Handle κ) (w : World β) (a : Session.HandleAct) :
    Same h (h.after t w a).1 := by
  cases a with
  | isReady | isSuccess | failed | resultIfReady => exact isReady_same t h w
  | get limit interval => exact poll_same t limit interval _ _ h w
  | close =>
    rw [after, close]
    split
    · exact .refl h
    · split <;> exact .of_fields h _ _
  | status | result | traceback | state | info | forget | revoke | debug | serialize =>
    exact .refl h

/-- If something that is done with a handle fails and the handle has no body, it has none
afterwards. -/
theorem after_failed (t : Transport κ β) {h : Handle κ} (hb : h.body = none) {s : Session κ β}
    {name : String} {a : Session.HandleAct} {e : Error}
    (he : (Session.actOnHandle t s name h a).1 = .failed e) :
    (h.after t s.world a).1.body = none := by
  -- Only what looks for the result can change the body, and a look that fails brings none.
  cases a with
  | isReady => exact isReady_failed hb (Session.Answer.of_failed nofun he)
  | isSuccess =>
    exact isReady_failed hb (isReadyAnd_failed hb (Session.Answer.of_failed nofun he))
  | failed => exact isReady_failed hb (isReadyAnd_failed hb (Session.Answer.of_failed nofun he))
  | resultIfReady =>
    exact isReady_failed hb (resultIfReady_failed (Session.Answer.of_failed nofun he))
  | get limit interval =>
    refine poll_failed (e := e) t limit interval _ _ h hb s.world ?_
    simp only [Session.actOnHandle] at he
    rcases hg : h.get t (Session.tries s.world.clock limit interval) limit interval s.world with
      ⟨_ | r, h', w'⟩
    · rw [hg] at he
      cases he
    · rw [hg] at he
      have hr : r = .error e := Session.Answer.of_failed nofun he
      rw [← hr]
      exact congrArg (·.1) hg
  | close => exact (close_body t h s.world).trans hb
  | status | result | traceback | state | info | forget | revoke | debug | serialize => exact hb

/-- Without a body, a handle is in the first phase. -/
theorem unresolved_of_none (t : Transport κ β) {h : Handle κ} (hb : h.body = none) :
    Unresolved t h where
  status := by simp only [Handle.status, cached, hb, Except.map]
  result := by simp only [Handle.result, cached, hb, Except.map]
  traceback := by simp only [Handle.traceback, cached, hb, Except.map]
  state := by simp only [Handle.state, hb]
  stays s name a e hs he := by
    exact ⟨_, (actOnHandle_after t hs a).1, after_failed t hb he⟩

/-- A handle is always in one of the two phases. -/
theorem phases (t : Transport κ β) (h : Handle κ) :
    h.body = none ∧ Unresolved t h ∨ ∃ b, h.body = some b ∧ Resolved t h b := by
  cases hb : h.body with
  | none => exact .inl ⟨rfl, unresolved_of_none t hb⟩
  | some b => exact .inr ⟨b, rfl, resolved_of_body t hb⟩

/-- Whatever is done with a handle, it makes no more calls than are allowed. -/
theorem conducts_after (t : Transport κ β) (h : Handle κ) (w : World (β × List Call))
    (a : Session.HandleAct) :
    Conducts h w (h.after t.watched w a).1 (h.after t.watched w a).2 := by
  cases a with
  | isReady | isSuccess | failed | resultIfReady => exact conducts_isReady t h w
  | get limit interval => exact conducts_poll t limit interval _ _ h w
  | close => exact conducts_close t h w
  | status | result | traceback | state | info | forget | revoke | debug | serialize =>
    exact .idle h rfl

end Handle

namespace Session

variable {κ β ε : Type}

/-! ## Runs -/

/-- The handle asks the broker, if it has no body yet. -/
def HandleAct.Polls : HandleAct → Prop
  | .isReady | .isSuccess | .failed | .resultIfReady | .get .. => True
  | _ => False

/-- The step does something with the handle of that name, or it is none of the program's. -/
def Step.Alone (name : String) : Step ε → Prop
  | outside _ | pause _ => True
  | handle n _ => n = name
  | _ => False

/-- What happens outside of the program in a world that is watched. -/
def watchedReact (react : ε → World β → World β) (e : ε) (w : World (β × List Call)) :
    World (β × List Call) :=
  let v := react e (Transport.unwatched w)
  v.around (v.broker, w.broker.2)

/-- From one session to another, the handle of a name makes no more calls than are allowed. -/
def Keeps (name : String) (s₁ s₂ : Session κ (β × List Call)) : Prop :=
  ∀ h₁, s₁.handles.get? name = some h₁ →
    ∃ h₂, s₂.handles.get? name = some h₂ ∧ Handle.Conducts h₁ s₁.world h₂ s₂.world

/-- A step that is about one handle alone keeps to the calls that are allowed. -/
theorem keeps_step (t : Transport κ β) (react : ε → World β → World β)
    (s : Session κ (β × List Call)) {name : String} {step : Step ε} (ha : step.Alone name) :
    Keeps name s (s.step t.watched (watchedReact react) step).2 := by
  intro h hs
  cases step with
  | outside e => exact ⟨h, hs, .idle h rfl⟩
  | pause d => exact ⟨h, hs, .idle h rfl⟩
  | handle n a =>
    -- The step is about this handle and no other.
    cases ha
    obtain ⟨hget, hworld⟩ := Handle.actOnHandle_after t.watched hs a
    refine ⟨(h.after t.watched s.world a).1, ?_, ?_⟩
    · simp only [Session.step, hs]
      exact hget
    · simp only [Session.step, hs, hworld]
      exact Handle.conducts_after t h s.world a
  | _ => cases ha

/-- So does a run of such steps. -/
theorem keeps_run (t : Transport κ β) (react : ε → World β → World β)
    (s : Session κ (β × List Call)) {name : String} {steps : List (Step ε)}
    (ha : ∀ step ∈ steps, step.Alone name) :
    Keeps name s (run t.watched (watchedReact react) s steps).2 := by
  -- Conduct is transitive, so it is enough that each step keeps to it.
  induction steps generalizing s with
  | nil => exact fun h hs => ⟨h, hs, .idle h rfl⟩
  | cons step rest ih =>
    intro h hs
    obtain ⟨h₁, hs₁, hc₁⟩ := keeps_step t react s (ha step (by simp)) h hs
    obtain ⟨h₂, hs₂, hc₂⟩ := ih _ (fun x hx => ha x (by simp [hx])) h₁ hs₁
    exact ⟨h₂, hs₂, hc₁.trans hc₂⟩

/-- After any run of steps that are about one handle alone, the handle is in one of its phases,
and the calls that it made led there: without a body, no fetch brought one; with a body, either
it had that body from the beginning or exactly one fetch brought it, and since then it closed
connectors at most. -/
theorem handle_phases (t : Transport κ β) (react : ε → World β → World β)
    (s : Session κ (β × List Call)) (name : String) (h : Handle κ)
    (hs : s.handles.get? name = some h) (steps : List (Step ε))
    (ha : ∀ step ∈ steps, step.Alone name) :
    ∃ h' calls,
      (run t.watched (watchedReact react) s steps).2.handles.get? name = some h' ∧
      (run t.watched (watchedReact react) s steps).2.world.broker.2 =
        s.world.broker.2 ++ calls ∧
      Conduct h.body calls h'.body ∧
      (h'.body = none ∧ Handle.Unresolved t.watched h' ∨
        ∃ b, h'.body = some b ∧ Handle.Resolved t.watched h' b) := by
  obtain ⟨h', hs', -, calls, hlog, hconduct⟩ := keeps_run t react s ha h hs
  exact ⟨h', calls, hs', hlog, hconduct, Handle.phases t.watched h'⟩

/-- A session with one handle, whose first fetch will fail. -/
def lossy : Session Script.Connector (Script.Broker × List Call) where
  world := .start ({ fetches := [⟨0, .error .notConnected⟩] }, []) ⟨0, 0⟩ 0
  handles := [("sum", .new ⟨"7f3a"⟩ "add" "(1, 2)" {} .given)]

/-- A result that comes is that of the next fetch. -/
def arrives : Script.Outcome (Option ResultMessage) → World Script.Broker → World Script.Broker :=
  fun outcome w => w.setBroker (w.broker.addFetch outcome)

/-- The handle asks, is closed, and asks again after a result has come. -/
def lossySteps : List (Step (Script.Outcome (Option ResultMessage))) :=
  [.handle "sum" .isReady, .handle "sum" .close, .outside ⟨0, .ok (some (.success .null))⟩,
    .handle "sum" .isReady, .handle "sum" .state]

/-- The session after these steps. -/
def lossyEnd : Session Script.Connector (Script.Broker × List Call) :=
  (run Script.transport.watched (watchedReact arrives) lossy lossySteps).2

/-- The body of the result that comes. -/
def lossyBody : ResultBody := ⟨TaskState.successStatus, .null, none, []⟩

/-- The result that comes decodes to it. -/
theorem success_decode : (ResultMessage.success .null).decode = .ok lossyBody := by
  have hfits : (Json.object [("result", .null),
      ("status", .string TaskState.successStatus)]).Fits := by
    simp [Json.Fits, Json.FitsMembers]
  simp only [ResultMessage.success, ResultMessage.decode, ResultMessage.validate,
    ResultMessage.mistyped?, ResultMessage.ofJsonText, ResultMessage.ofJsonBytes,
    Decode.bytes_encode ResultBody.decode hfits]
  rfl

/-- The calls that the handle makes: the second look needs a new connector, and then there is no
other look. -/
def lossyCalls : List Call :=
  [.create, .connect, .fetch (.error .notConnected), .close, .create, .connect,
    .fetch (.ok (some (.success .null)))]

/-- The first fetch fails and leaves the handle in its first phase. The second brings a body, and
with it the second phase, in which the handle stays without a call. -/
theorem handle_phases_lossy :
    lossy.handles.get? "sum" = some (.new ⟨"7f3a"⟩ "add" "(1, 2)" {} .given) ∧
      (∀ step ∈ lossySteps, step.Alone "sum") ∧
      ∃ h', lossyEnd.handles.get? "sum" = some h' ∧ lossyEnd.world.broker.2 = lossyCalls ∧
        Conduct none lossyCalls h'.body ∧
        Handle.Resolved Script.transport.watched h' lossyBody := by
  have halone : ∀ step ∈ lossySteps, step.Alone "sum" := by simp [lossySteps, Step.Alone]
  obtain ⟨h', calls, hh', hcalls, hconduct, hphase⟩ :=
    handle_phases Script.transport arrives lossy "sum" _ rfl lossySteps halone
  -- The run is computed once, up to the decoding of the result.
  have hrun : lossyEnd.world.broker.2 = lossyCalls ∧
      (lossyEnd.handles.get? "sum").bind (·.body) = some lossyBody := by
    simp [lossyEnd, arrives, run, lossySteps, lossy, lossyCalls, step, actOnHandle,
      Handle.isReady, Handle.new, Handle.ask, Handle.connected, Handle.opened, Handle.close,
      Handle.receive, Transport.watched, Transport.logged, Transport.unwatched, World.around,
      watchedReact, Script.transport, Script.create, Script.connect, Script.take,
      Script.Broker.record, Script.Broker.addFetch, World.setBroker, World.start, World.sleep,
      World.count, World.note, withHandle, Named.get?, Named.set, success_decode]
  obtain ⟨hlog, hbody⟩ := hrun
  rw [← lossyEnd] at hh' hcalls
  rw [hh', Option.bind_some] at hbody
  have hsame : calls = lossyCalls := hcalls.symm.trans hlog
  refine ⟨rfl, halone, h', hh', hlog, hsame ▸ hconduct, ?_⟩
  rcases hphase with ⟨hnone, -⟩ | ⟨b, hb, hresolved⟩
  · cases hnone.symm.trans hbody
  · cases hb.symm.trans hbody
    exact hresolved

end Session
end TaskQueue
