import TaskQueue.Amqp.Direct
import TaskQueue.Amqp.Native
import TaskQueue.Proofs.Amqp.Elsewhere
import TaskQueue.Proofs.Dialogue.Transcript

/-!
# `TaskQueue.Proofs.Amqp.Sessions`: what is said around an operation

An AMQP connector opens a channel, does its work on it, and closes what it has opened. Whatever the
broker answers, there are few ways in which that can go: `Native.Session` and `Direct.Session` list
them for any work, with what the operation comes to. They are all the courses that there are, and
nothing else (`Native.course_onChannel_iff`, `Direct.course_inSession_iff`).

The work itself opens and closes nothing. `Request.Frames` are the requests that do, and the lemmas
on what is said inside of a session are about the others.
-/

set_option autoImplicit false

namespace TaskQueue

open Dialogue (Heard Course)

variable {α : Type}

/-- Of a dialogue that makes such requests only, no others are heard. -/
theorem Dialogue.Asks.of_course {Q : Type} {A : Q → Type} {P : Q → Prop} {d : Dialogue Q A α}
    (hd : d.Asks P) {heard : Heard Q A} {a : α} (h : Course d heard a) : ∀ x ∈ heard, P x.1 := by
  induction h with
  | done a => exact fun x hx => absurd hx List.not_mem_nil
  | note _ ih =>
    cases hd with
    | note next => exact ih next
  | ask reply _ ih =>
    cases hd with
    | ask here next => exact List.forall_mem_cons.2 ⟨here, ih (next reply)⟩

namespace Amqp

/-! ## Courses of a request -/

section
variable {heard : Heard Request Answer}

/-- Calling a method is one request, and what it is answered is what it comes to. -/
theorem course_call {m : Method} {x : Except String m.Reply} (h : Course (call m) heard x) :
    heard = [⟨.call m, x⟩] :=
  Course.of_ask h

/-- Dialling is one request. -/
theorem course_dial {url : String} {x : Except String Unit} (h : Course (dial url) heard x) :
    heard = [⟨.dial url, x⟩] :=
  Course.of_ask h

/-- Borrowing a connection is one request. -/
theorem course_lease {url : String} {x : Except String Unit} (h : Course (lease url) heard x) :
    heard = [⟨.lease url, x⟩] :=
  Course.of_ask h

section
variable {β : Type} {fault : String → ConnectorError} {t : Talk (Except String α)}
  {said : Except String α → (q : Request) × Answer q}
  (ht : ∀ {heard x}, Course t heard x → heard = [said x])
include ht

/-- A request that is demanded succeeds, or it fails with what is made of the reason. -/
theorem course_of_demand {r : Except ConnectorError α} (h : Course (demand fault t).run heard r) :
    ∃ x, heard = [said x] ∧ r = x.mapError fault := by
  obtain ⟨first, second, x, rfl, hfirst, hsecond⟩ := Course.bind h
  cases x with
  | error reason =>
    cases hsecond
    exact ⟨.error reason, by rw [ht hfirst]; rfl, rfl⟩
  | ok a =>
    cases hsecond
    exact ⟨.ok a, by rw [ht hfirst]; rfl, rfl⟩

/-- A request that is demanded fails and ends the talk, or it succeeds and the talk goes on. -/
theorem course_demand {f : α → Try β} {r : Except ConnectorError β}
    (h : Course (demand fault t >>= f).run heard r) :
    (∃ reason, heard = [said (.error reason)] ∧ r = .error (fault reason)) ∨
      ∃ a rest, heard = said (.ok a) :: rest ∧ Course (f a).run rest r := by
  -- The attempt says one thing, so the course is that, alone if it failed and with the rest behind
  -- it if not.
  rcases Attempt.course_bind h with ⟨e, hfirst, rfl⟩ | ⟨first, second, a, rfl, hfirst, hsecond⟩
  · obtain ⟨x, rfl, hx⟩ := course_of_demand ht hfirst
    cases x with
    | error reason =>
      cases hx
      exact .inl ⟨reason, rfl, rfl⟩
    | ok a => cases hx
  · obtain ⟨x, rfl, hx⟩ := course_of_demand ht hfirst
    cases x with
    | error reason => cases hx
    | ok b =>
      cases hx
      exact .inr ⟨a, second, rfl, hsecond⟩

end

/-- To close something is one request, whatever it is answered. -/
theorem course_closing {what : String} {m : Method} {u : Unit}
    (h : Course (closing what m) heard u) : ∃ x, heard = [⟨.call m, x⟩] := by
  obtain ⟨first, second, x, rfl, hfirst, hsecond⟩ := Course.bind h
  -- A failure is logged, which nobody hears.
  have hquiet : second = [] := by
    cases x with
    | ok a =>
      cases hsecond
      rfl
    | error reason => exact (Course.of_note hsecond).1
  exact ⟨x, by rw [course_call hfirst, hquiet, List.append_nil]⟩

end

/-! ## Requests that are answered in some way -/

/-- Whatever a method is answered, it can be called so. -/
theorem call_course (m : Method) (x : Except String m.Reply) :
    Course (call m) [⟨.call m, x⟩] x :=
  @Dialogue.course_ask Request Answer (.call m) x

/-- Whatever dialling is answered, it can go so. -/
theorem dial_course (url : String) (x : Except String Unit) :
    Course (dial url) [⟨.dial url, x⟩] x :=
  @Dialogue.course_ask Request Answer (.dial url) x

/-- Whatever borrowing is answered, it can go so. -/
theorem lease_course (url : String) (x : Except String Unit) :
    Course (lease url) [⟨.lease url, x⟩] x :=
  @Dialogue.course_ask Request Answer (.lease url) x

/-- A demand takes the course of its request. -/
theorem demand_course {β : Type} {fault : String → ConnectorError} {t : Talk (Except String β)}
    {heard : Heard Request Answer} {x : Except String β} (h : Course t heard x) :
    Course (demand fault t).run heard (x.mapError fault) := by
  rw [← List.append_nil heard]
  refine Course.append h ?_
  cases x with
  | error reason => exact .done _
  | ok b => exact .done _

/-- Whatever is answered when something is to be closed, the talk goes on. -/
theorem closing_course (what : String) (m : Method) (x : Except String m.Reply) :
    Course (closing what m) [⟨.call m, x⟩] () := by
  refine (call_course m x).append ?_
  cases x with
  | ok a => exact .done ()
  | error reason => exact .note (.done ())

/-! ## Sessions -/

/-- A channel was opened. -/
def openedChannel : (q : Request) × Answer q := ⟨.call .channelOpen, .ok ()⟩

/-- The channel was asked to close. -/
def closedChannel (x : Except String Unit) : (q : Request) × Answer q :=
  ⟨.call (.channelClose closeCode closeText), x⟩

/-- The connection was asked to close. -/
def closedConnection (x : Except String Unit) : (q : Request) × Answer q :=
  ⟨.call (.connectionClose closeCode closeText), x⟩

/-- A channel can be closed with any answer, which does not matter. -/
theorem closeChannel_course (x : Except String Unit) : Course closeChannel [closedChannel x] () :=
  closing_course "Channel" (.channelClose closeCode closeText) x

/-- So can a connection. -/
theorem closeConnection_course (x : Except String Unit) :
    Course closeConnection [closedConnection x] () :=
  closing_course "Connection" (.connectionClose closeCode closeText) x

namespace Native

/-- What is said to do something on a channel of one's own, and what that comes to.

- `unreached`: there is no connection to be had;
- `refused`: the connection gives no channel;
- `held`: something is done on a channel, and the channel is closed. -/
inductive Session (d : Descriptor) (work : Try α) :
    Heard Request Answer → Except ConnectorError α → Prop
  | unreached (reason : String) :
    Session d work [⟨.lease d.amqpUri, .error reason⟩] (.error (.pool (unavailable reason)))
  | refused (reason : String) :
    Session d work [⟨.lease d.amqpUri, .ok ()⟩, ⟨.call .channelOpen, .error reason⟩]
      (.error (.connection reason))
  | held {said : Heard Request Answer} {r : Except ConnectorError α} (x : Except String Unit) :
    Course work.run said r →
    Session d work (⟨.lease d.amqpUri, .ok ()⟩ :: openedChannel :: (said ++ [closedChannel x])) r

variable {d : Descriptor} {work : Try α} {heard : Heard Request Answer}
  {r : Except ConnectorError α}

/-- These are the courses of a session. -/
theorem course_onChannel_iff :
    Course (onChannel d work).run heard r ↔ Session d work heard r := by
  constructor
  · intro h
    rcases course_demand course_lease h with ⟨reason, rfl, rfl⟩ | ⟨_, rest, rfl, h₁⟩
    · exact .unreached reason
    rcases course_demand course_call h₁ with ⟨reason, rfl, rfl⟩ | ⟨_, rest, rfl, h₂⟩
    · exact .refused reason
    -- Whatever the work comes to, the channel is closed after it.
    obtain ⟨said, rest, outcome, rfl, hsaid, h₃⟩ := Course.bind h₂
    obtain ⟨closing, rest, _, rfl, hclosing, h₄⟩ := Course.bind h₃
    obtain ⟨x, rfl⟩ := course_closing hclosing
    cases h₄
    exact .held x hsaid
  · intro h
    cases h with
    | unreached reason =>
      exact Attempt.course_error (demand_course (lease_course d.amqpUri (.error reason)))
    | refused reason =>
      refine Attempt.course_append (demand_course (lease_course d.amqpUri (.ok ()))) ?_
      exact Attempt.course_error (demand_course (call_course .channelOpen (.error reason)))
    | held x hsaid =>
      refine Attempt.course_append (demand_course (lease_course d.amqpUri (.ok ()))) ?_
      refine Attempt.course_append (demand_course (call_course .channelOpen (.ok ()))) ?_
      exact hsaid.append ((closeChannel_course x).append (.done _))

end Native

namespace Direct

/-- What is said to do something on a connection of one's own, and what that comes to.

- `unconnected`: the connector was not connected, and nothing is said;
- `unreached`: the broker cannot be dialled;
- `refused`: the connection gives no channel, and is closed;
- `held`: something is done on a channel, and the channel and the connection are closed. -/
inductive Session (c : Direct) (work : Try α) :
    Heard Request Answer → Except ConnectorError α → Prop
  | unconnected : c.connected = false → Session c work [] (.error .notConnected)
  | unreached (reason : String) : c.connected = true →
    Session c work [⟨.dial c.url, .error reason⟩] (.error (.connection reason))
  | refused (reason : String) (x : Except String Unit) : c.connected = true →
    Session c work
      [⟨.dial c.url, .ok ()⟩, ⟨.call .channelOpen, .error reason⟩, closedConnection x]
      (.error (.connection reason))
  | held {said : Heard Request Answer} {r : Except ConnectorError α} (x y : Except String Unit) :
    c.connected = true → Course work.run said r →
    Session c work
      (⟨.dial c.url, .ok ()⟩ :: openedChannel :: (said ++ [closedChannel x, closedConnection y])) r

variable {c : Direct} {work : Try α} {heard : Heard Request Answer} {r : Except ConnectorError α}

/-- These are the courses of a session. -/
theorem course_inSession_iff :
    Course (c.inSession work).run heard r ↔ c.Session work heard r := by
  have hopen (hc : c.connected = true) : ¬ (!c.connected) = true := by rw [hc]; decide
  constructor
  · intro h
    cases hc : c.connected with
    | false =>
      rw [inSession, hc] at h
      cases h
      exact .unconnected hc
    | true =>
      rw [inSession, if_neg (hopen hc)] at h
      rcases course_demand course_dial h with ⟨reason, rfl, rfl⟩ | ⟨_, rest, rfl, h₁⟩
      · exact .unreached reason hc
      obtain ⟨opening, rest, x, rfl, hopening, h₂⟩ := Course.bind h₁
      obtain rfl := course_call hopening
      cases x with
      | error reason =>
        obtain ⟨closing, rest, _, rfl, hclosing, h₃⟩ := Course.bind h₂
        obtain ⟨x, rfl⟩ := course_closing hclosing
        cases h₃
        exact .refused reason x hc
      | ok a =>
        -- Both closes follow whatever the work came to, and their answers are dropped.
        obtain ⟨said, rest, outcome, rfl, hsaid, h₃⟩ := Course.bind h₂
        obtain ⟨closing, rest, _, rfl, hclosing, h₄⟩ := Course.bind h₃
        obtain ⟨closing', rest, _, rfl, hclosing', h₅⟩ := Course.bind h₄
        obtain ⟨x, rfl⟩ := course_closing hclosing
        obtain ⟨y, rfl⟩ := course_closing hclosing'
        cases h₅
        exact .held x y hc hsaid
  · intro h
    cases h with
    | unconnected hc =>
      rw [inSession, hc]
      exact .done _
    | unreached reason hc =>
      rw [inSession, if_neg (hopen hc)]
      exact Attempt.course_error (demand_course (dial_course c.url (.error reason)))
    | refused reason x hc =>
      rw [inSession, if_neg (hopen hc)]
      refine Attempt.course_append (demand_course (dial_course c.url (.ok ()))) ?_
      refine (call_course .channelOpen (.error reason)).append ?_
      exact (closeConnection_course x).append (.done _)
    | held x y hc hsaid =>
      rw [inSession, if_neg (hopen hc)]
      refine Attempt.course_append (demand_course (dial_course c.url (.ok ()))) ?_
      refine (call_course .channelOpen (.ok ())).append (hsaid.append ?_)
      exact (closeChannel_course x).append ((closeConnection_course y).append (.done _))

/-- How a session begins: with all that has to be said before there is a channel. -/
structure Begins (c : Direct) (heard : Heard Request Answer) (r : Except ConnectorError α) :
    Prop where
  /-- Nothing is said, and that is the fault, if and only if the connector is not connected. -/
  unconnected : heard = [] ∧ r = .error .notConnected ↔ c.connected = false
  /-- A connector that is connected dials first. -/
  dials : c.connected = true → ∃ a rest, heard = ⟨.dial c.url, a⟩ :: rest
  /-- If that succeeds, it asks for a channel. -/
  opens : ⟨.dial c.url, .ok ()⟩ ∈ heard → ∃ a rest,
    heard = ⟨.dial c.url, .ok ()⟩ :: ⟨.call .channelOpen, a⟩ :: rest

/-- All sessions begin in this way. -/
theorem Session.begins (h : c.Session work heard r) : c.Begins heard r := by
  cases h with
  | unconnected hc => exact ⟨by simp [hc], by simp [hc], nofun⟩
  | unreached reason hc => exact ⟨by simp [hc], fun _ => ⟨_, _, rfl⟩, by simp⟩
  | refused reason x hc => exact ⟨by simp [hc], fun _ => ⟨_, _, rfl⟩, fun _ => ⟨_, _, rfl⟩⟩
  | held x y hc hsaid => exact ⟨by simp [hc], fun _ => ⟨_, _, rfl⟩, fun _ => ⟨_, _, rfl⟩⟩

/-- What is said to connect, and what that comes to.

- `already`: the connector is connected, and nothing is said;
- `unreached`: the broker cannot be dialled;
- `reached`: a connection was opened, and is closed. -/
inductive Greeting (c : Direct) : Heard Request Answer → Except ConnectorError Unit → Prop
  | already : c.connected = true → Greeting c [] (.ok ())
  | unreached (reason : String) : c.connected = false →
    Greeting c [⟨.dial c.url, .error reason⟩] (.error (.connection reason))
  | reached (x : Except String Unit) : c.connected = false →
    Greeting c [⟨.dial c.url, .ok ()⟩, closedConnection x] (.ok ())

/-- These are the courses of connecting. -/
theorem course_connect_iff {heard : Heard Request Answer} {r : Except ConnectorError Unit} :
    Course c.connect.run heard r ↔ c.Greeting heard r := by
  have hopen (hc : c.connected = false) : ¬ c.connected = true := by rw [hc]; decide
  constructor
  · intro h
    cases hc : c.connected with
    | true =>
      rw [connect, hc] at h
      cases h
      exact .already hc
    | false =>
      rw [connect, if_neg (hopen hc)] at h
      rcases course_demand course_dial h with ⟨reason, rfl, rfl⟩ | ⟨_, rest, rfl, h₁⟩
      · exact .unreached reason hc
      -- A connection that was reached is closed at once, and it does not matter how that goes.
      obtain ⟨closing, rest, u, rfl, hclosing, h₂⟩ := Course.bind h₁
      obtain ⟨first, second, _, rfl, hfirst, h₃⟩ := Course.bind hclosing
      obtain ⟨x, rfl⟩ := course_closing hfirst
      cases h₃
      obtain ⟨rfl, rfl⟩ := Course.of_note h₂
      exact .reached x hc
  · intro h
    cases h with
    | already hc =>
      rw [connect, hc]
      exact .done _
    | unreached reason hc =>
      rw [connect, if_neg (hopen hc)]
      exact Attempt.course_error (demand_course (dial_course c.url (.error reason)))
    | reached x hc =>
      rw [connect, if_neg (hopen hc)]
      refine Attempt.course_append (demand_course (dial_course c.url (.ok ()))) ?_
      have hlift : Course (ExceptT.lift closeConnection : Try Unit).run [closedConnection x]
          (.ok ()) := (closeConnection_course x).append (.done _)
      exact Attempt.course_append hlift (.note (.done _))

end Direct

/-! ## Inside of a session -/

/-- Opens a connection or a channel, or closes one. -/
def Request.Frames : Request → Prop
  | .dial _ | .lease _ => True
  | .call .channelOpen | .call (.channelClose ..) | .call (.connectionClose ..) => True
  | _ => False

/-- Neither opens nor closes anything. -/
def Request.Inside (q : Request) : Prop := ¬ q.Frames

/-- A method that frames nothing stays inside of the session, also if it fails. -/
theorem method_inside (fault : String → ConnectorError) {m : Method}
    (hm : Request.Inside (.call m)) : (demand fault (call m)).run.Asks Request.Inside :=
  demand_asks (.ask hm fun _ => .done _)

/-- A publication stays inside of its session. -/
theorem publishEnvelope_inside (d : Descriptor) (routingKey : String) (envelope : Bytes)
    (properties : PublishProperties) :
    (publishEnvelope d routingKey envelope properties).run.Asks Request.Inside := by
  refine Attempt.asks_bind (method_inside _ id) fun _ => ?_
  refine Attempt.asks_bind (method_inside _ id) fun _ => ?_
  refine Attempt.asks_bind (method_inside _ id) fun _ => ?_
  refine Attempt.asks_bind (method_inside _ id) fun _ => ?_
  refine Attempt.asks_bind (method_inside _ id) fun confirmation => ?_
  cases confirmation with
  | ack => exact .note (.done _)
  | nack => exact .note (.done _)

/-- So does settling a message. -/
theorem settle_inside (queue : String) (delivery : Delivery) (remove : Bool) :
    (settle queue delivery remove).run.Asks Request.Inside := by
  cases remove with
  | false => exact Attempt.asks_bind (method_inside _ id) fun _ => .done _
  | true =>
    exact Attempt.asks_bind (method_inside _ id) fun _ =>
      Attempt.asks_bind (method_inside _ id) fun _ => .done _

/-- So does declaring a queue. -/
theorem declareResultQueue_inside (d : Descriptor) (queue : String) :
    (declareResultQueue d queue).run.Asks Request.Inside :=
  Attempt.asks_bind (method_inside _ id) fun _ => method_inside _ id

/-- So does finding nothing. -/
theorem notReady_inside (id : TaskId) : (notReady id).run.Asks Request.Inside := .note (.done _)

/-- A fetch of the native connector does all its work inside of its session. -/
theorem Native.fetchOnce_inside (d : Descriptor) (task : TaskId) (remove : Bool) :
    (fetchOnce d task remove).run.Asks Request.Inside := by
  refine Attempt.asks_bind (declareResultQueue_inside d _) fun _ => ?_
  refine Attempt.asks_bind (method_inside _ id) fun taken => ?_
  cases taken with
  | none => exact notReady_inside task
  | some delivery => exact Attempt.asks_bind (settle_inside _ delivery remove) fun _ => .done _

namespace Direct

/-- One look stays inside, if what may follow it does. -/
theorem look_inside (deadline : Nat) (task : TaskId) (remove : Bool)
    {again : Try (Option ResultMessage)} (hagain : again.run.Asks Request.Inside) :
    (look deadline task remove again).run.Asks Request.Inside := by
  refine Attempt.asks_bind (method_inside _ id) fun taken => ?_
  cases taken with
  | some delivery => exact Attempt.asks_bind (settle_inside _ delivery remove) fun _ => .done _
  | none =>
    refine Attempt.asks_bind (.ask id fun _ => .done _) fun now => ?_
    split
    · exact notReady_inside task
    · exact hagain

/-- So do all looks of a fetch, by induction on how many may follow. -/
theorem lookUntil_inside (deadline : Nat) (task : TaskId) (remove : Bool) (retries : Nat) :
    (lookUntil deadline task remove retries).run.Asks Request.Inside := by
  induction retries with
  | zero => exact look_inside deadline task remove (notReady_inside task)
  | succ retries ih =>
    exact look_inside deadline task remove
      (Attempt.asks_bind (.ask id fun _ => .done _) fun _ => ih)

/-- What a fetch does on its channel: it declares the queue, and looks until there is a result or
the time is over. -/
def watch (c : Direct) (id : TaskId) (remove : Bool) : Try (Option ResultMessage) := do
  let deadline := (← now) + c.descriptor.waitDuration.nanoseconds
  declareResultQueue c.descriptor id.resultQueue
  lookUntil deadline id remove (retries c.descriptor)

/-- A fetch of the direct connector does all its work inside of its session. -/
theorem watch_inside (c : Direct) (task : TaskId) (remove : Bool) :
    (c.watch task remove).run.Asks Request.Inside :=
  Attempt.asks_bind (.ask id fun _ => .done _) fun _ =>
    Attempt.asks_bind (declareResultQueue_inside _ _) fun _ => lookUntil_inside _ task remove _

end Direct
end Amqp
end TaskQueue
