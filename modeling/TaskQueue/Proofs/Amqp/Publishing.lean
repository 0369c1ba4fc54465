import TaskQueue.Proofs.Amqp.Sessions
import TaskQueue.Proofs.Client.Stages
import TaskQueue.Proofs.Transport.LifeCycle

/-!
# `TaskQueue.Proofs.Amqp.Publishing`: what a publication over AMQP says to the broker

The native and the direct connector say the same once they have a channel. `Amqp.Sent` are the ways
in which that can go: a method before the publication fails, or the publication is answered, be it
with a failure, an ack or a nack. `Amqp.Attempted` adds what the connector says to open a channel
and to close it again, where it may fail before there is a channel.

`Amqp.Publication` is what is promised of such a talk, in terms of what the broker heard and
answered. It says what never happens, such as a second publication, and also what does happen: a
connected connector asks for a connection, for a channel, for what has to be declared and for the
publication, each as soon as the one before has succeeded (`Amqp.Takes`). Nothing is assumed of the
broker. `Connector.heard` is the talk of a connector with a party, and `Connector.publish_confirmed`
is the main result. A producer reports a success if and only if the broker acked, on any transport
that a party serves (`Party.Serves`).
-/

set_option autoImplicit false

namespace TaskQueue

open Dialogue (Heard Course)

namespace Amqp

/-! ## On a channel -/

/-- What succeeds before a publication, in this order. The queue and the exchange are durable. -/
def prepared (d : Descriptor) : Heard Request Answer :=
  [⟨.call (.queueDeclare d.binding { durable := true } []), .ok ()⟩,
    ⟨.call (.exchangeDeclare d.exchange "direct" true false), .ok ()⟩,
    ⟨.call (.queueBind d.binding d.exchange d.binding), .ok ()⟩,
    ⟨.call .confirmSelect, .ok ()⟩]

section
variable (d : Descriptor) (routingKey : String) (envelope : Bytes) (properties : PublishProperties)

/-- The publication of an envelope. -/
def publication : Method :=
  .basicPublish d.exchange routingKey (basicProperties properties) envelope

/-- What a publication comes to by what it is answered. -/
def outcomeOf : Except String Confirmation → Except ConnectorError Bool
  | .error reason => .error (.publish reason)
  | .ok c => .ok (decide (c = .ack))

/-- What is said on a channel, and what it comes to.

- `unprepared`: a method before the publication fails, after those before it succeeded;
- `answered`: they all succeed, and the publication fails or is acked or nacked. -/
inductive Sent : Except ConnectorError Bool → Heard Request Answer → Prop
  | unprepared (done : Heard Request Answer) {rest : Heard Request Answer} {m : Method}
    {a : Answer (.call m)} (reason : String) : prepared d = done ++ ⟨.call m, a⟩ :: rest →
    Sent (.error (.publish reason)) (done ++ [⟨.call m, .error reason⟩])
  | answered (a : Except String Confirmation) :
    Sent (outcomeOf a)
      (prepared d ++ [⟨.call (publication d routingKey envelope properties), a⟩])

variable {d routingKey envelope properties}

/-- A publication on its channel is sent, or it stops at the first method that fails. -/
theorem sent_of_course {heard : Heard Request Answer} {r : Except ConnectorError Bool}
    (h : Course (publishEnvelope d routingKey envelope properties).run heard r) :
    Sent d routingKey envelope properties r heard := by
  rcases course_demand course_call h with ⟨reason, rfl, rfl⟩ | ⟨_, rest, rfl, h₁⟩
  · exact .unprepared [] reason rfl
  rcases course_demand course_call h₁ with ⟨reason, rfl, rfl⟩ | ⟨_, rest, rfl, h₂⟩
  · exact .unprepared ((prepared d).take 1) reason rfl
  rcases course_demand course_call h₂ with ⟨reason, rfl, rfl⟩ | ⟨_, rest, rfl, h₃⟩
  · exact .unprepared ((prepared d).take 2) reason rfl
  rcases course_demand course_call h₃ with ⟨reason, rfl, rfl⟩ | ⟨_, rest, rfl, h₄⟩
  · exact .unprepared ((prepared d).take 3) reason rfl
  rcases course_demand course_call h₄ with ⟨reason, rfl, rfl⟩ | ⟨c, rest, rfl, h₅⟩
  · exact .answered (.error reason)
  -- After the confirmation there is only something to log.
  cases c with
  | nack =>
    obtain ⟨rfl, rfl⟩ := Course.of_note h₅
    exact .answered (.ok .nack)
  | ack =>
    obtain ⟨rfl, rfl⟩ := Course.of_note h₅
    exact .answered (.ok .ack)

end

/-! ## From the first request to the last -/

/-- The error says that there is no channel. -/
def NoChannel (e : ConnectorError) : Prop :=
  e = .notConnected ∨ (∃ reason, e = .connection reason) ∨ ∃ reason, e = .pool reason

/-- The reason why a request failed, if it did. -/
def failure? : (q : Request) × Answer q → Option String
  | ⟨.dial _, .error reason⟩ => some reason
  | ⟨.lease _, .error reason⟩ => some reason
  | ⟨.call _, .error reason⟩ => some reason
  | _ => none

/-- What a publication fails with when a request fails. -/
def faultOf : Request → String → ConnectorError
  | .dial _, reason => .connection reason
  | .lease _, reason => .pool (Native.unavailable reason)
  | .call .channelOpen, reason => .connection reason
  | _, reason => .publish reason

/-- Asks for a connection. -/
def Request.Connects : Request → Prop
  | .dial _ | .lease _ => True
  | _ => False

/-- Asks for a channel or a connection to be closed. -/
def Request.Closes : Request → Prop
  | .call (.channelClose ..) | .call (.connectionClose ..) => True
  | _ => False

section
variable (first : Request) (d : Descriptor) (routingKey : String) (envelope : Bytes)
  (properties : PublishProperties)

/-- The requests of a publication at which nothing fails, where `first` asks for a connection. -/
def steps : List Request :=
  first :: .call .channelOpen ::
    ((prepared d).map Sigma.fst ++ [.call (publication d routingKey envelope properties)])

/-- What is said when an envelope is published, and what it comes to.

- `unconnected`: the connector is not connected, and nothing is said;
- `unreached`: there is no connection to be had;
- `refused`: the connection gives no channel;
- `reached`: a connection and a channel are opened, something is said on the channel, and they are
  closed again. -/
inductive Attempted (connected : Bool) : Except ConnectorError Bool → Heard Request Answer → Prop
  | unconnected : connected = false → Attempted connected (.error .notConnected) []
  | unreached {a : Answer first} (reason : String) : connected = true →
    failure? ⟨first, a⟩ = some reason →
    Attempted connected (.error (faultOf first reason)) [⟨first, a⟩]
  | refused {a : Answer first} (reason : String) {closing : Heard Request Answer} :
    connected = true → failure? ⟨first, a⟩ = none → (∀ x ∈ closing, x.1.Closes) →
    Attempted connected (.error (.connection reason))
      (⟨first, a⟩ :: ⟨.call .channelOpen, .error reason⟩ :: closing)
  | reached {a : Answer first} {r : Except ConnectorError Bool} (sent : Heard Request Answer)
    {closing : Heard Request Answer} : connected = true → failure? ⟨first, a⟩ = none →
    Sent d routingKey envelope properties r sent → (∀ x ∈ closing, x.1.Closes) →
    Attempted connected r (⟨first, a⟩ :: openedChannel :: (sent ++ closing))

variable {d routingKey envelope properties}

/-- The native connector publishes on a channel of its own. -/
theorem Native.attempted {heard : Heard Request Answer} {r : Except ConnectorError Bool}
    (h : Course (Native.publish d routingKey envelope properties).run heard r) :
    Attempted (.lease d.amqpUri) d routingKey envelope properties true r heard := by
  cases course_onChannel_iff.1 h with
  | unreached reason => exact .unreached reason rfl rfl
  | refused reason => exact .refused reason rfl rfl nofun
  | held x hsent =>
    exact .reached _ rfl rfl (sent_of_course hsent) (by simp [Request.Closes, closedChannel])

/-- The direct connector publishes on a channel of a connection of its own. -/
theorem Direct.attempted {c : Direct} {heard : Heard Request Answer}
    {r : Except ConnectorError Bool}
    (h : Course (c.publish routingKey envelope properties).run heard r) :
    Attempted (.dial c.url) c.descriptor routingKey envelope properties c.connected r heard := by
  cases course_inSession_iff.1 h with
  | unconnected hc => exact .unconnected hc
  | unreached reason hc => exact .unreached reason hc rfl
  | refused reason x hc =>
    exact .refused reason hc rfl (by simp [Request.Closes, closedConnection])
  | held x y hc hsent =>
    exact .reached _ hc rfl (sent_of_course hsent)
      (by simp [Request.Closes, closedChannel, closedConnection])

end

/-! ## What is promised -/

/-- Publishes something. -/
def Request.publishes : Request → Bool
  | .call (.basicPublish ..) => true
  | _ => false

/-- The properties as they travel say what was given, and nothing else. -/
structure Delivers (p : PublishProperties) (travelling : BasicProperties) : Prop where
  contentType : travelling.contentType = some p.contentType
  contentEncoding : travelling.contentEncoding = some p.contentEncoding
  deliveryMode : travelling.deliveryMode = p.deliveryMode
  headers : travelling.headers.getD [] =
    p.headers.entries.map fun h => (h.1, .longString h.2)

/-- The properties of an envelope travel without a change. -/
theorem delivers_basicProperties (p : PublishProperties) : Delivers p (basicProperties p) where
  contentType := rfl
  contentEncoding := rfl
  deliveryMode := rfl
  headers := by
    cases hp : p.headers.entries with
    | nil => simp [basicProperties, hp]
    | cons h hs => simp [basicProperties, hp]

/-- Requests are made in this order, each as soon as the one before has succeeded. After one that
fails, and after the last, there is only something to close.

- `over`: all of them have succeeded;
- `failed`: the first one fails, for this reason;
- `taken`: the first one succeeds, and it goes on with the others. -/
inductive Takes : List Request → Heard Request Answer → Option (Request × String) → Prop
  | over {closing : Heard Request Answer} : (∀ x ∈ closing, x.1.Closes) → Takes [] closing none
  | failed {q : Request} {a : Answer q} {reason : String} {rest : List Request}
    {closing : Heard Request Answer} : failure? ⟨q, a⟩ = some reason →
    (∀ x ∈ closing, x.1.Closes) → Takes (q :: rest) (⟨q, a⟩ :: closing) (some (q, reason))
  | taken {q : Request} {a : Answer q} {rest : List Request} {heard : Heard Request Answer}
    {fault : Option (Request × String)} : failure? ⟨q, a⟩ = none → Takes rest heard fault →
    Takes (q :: rest) (⟨q, a⟩ :: heard) fault

/-- How far a publication gets, where `first` asks for a connection. -/
structure Progress (connected : Bool) (first : Request) (d : Descriptor) (routingKey : String)
    (envelope : Bytes) (properties : PublishProperties) (r : Except ConnectorError Bool)
    (heard : Heard Request Answer) : Prop where
  /-- It fails for want of a connected connector if that is so, and not otherwise. -/
  unconnected : r = .error .notConnected ↔ connected = false
  /-- Then nothing is said. -/
  silent : connected = false → heard = []
  /-- A connected connector takes all the steps of a publication as long as they succeed, and it
  fails with the one that fails. -/
  takes : connected = true → ∃ fault,
    Takes (steps first d routingKey envelope properties) heard fault ∧
      ∀ q reason, fault = some (q, reason) → r = .error (faultOf q reason)

/-- How an envelope is published: what the connector says to a broker and is answered, and what the
publication comes to. -/
structure Publication (connected : Bool) (first : Request) (d : Descriptor) (routingKey : String)
    (envelope : Bytes) (properties : PublishProperties) (r : Except ConnectorError Bool)
    (heard : Heard Request Answer) : Prop extends
    Progress connected first d routingKey envelope properties r heard where
  /-- There is at most one publication. -/
  once : (heard.filter fun x => x.1.publishes).length ≤ 1
  /-- A publication carries what was given. -/
  carries : ∀ exchange key travelling body a,
    ⟨.call (.basicPublish exchange key travelling body), a⟩ ∈ heard →
    exchange = d.exchange ∧ key = routingKey ∧ body = envelope ∧ Delivers properties travelling
  /-- It comes right after the declarations, the binding and the demand for confirmations, which all
  succeeded. -/
  follows : ∀ exchange key travelling body a,
    ⟨.call (.basicPublish exchange key travelling body), a⟩ ∈ heard →
    ∃ first after, heard = first :: openedChannel ::
      (prepared d ++ ⟨.call (.basicPublish exchange key travelling body), a⟩ :: after)
  /-- It is accepted if and only if the broker acked it. -/
  accepted : r = .ok true ↔
    ⟨.call (publication d routingKey envelope properties), .ok Confirmation.ack⟩ ∈ heard
  /-- It is rejected if and only if the broker nacked it. -/
  rejected : r = .ok false ↔
    ⟨.call (publication d routingKey envelope properties), .ok Confirmation.nack⟩ ∈ heard
  /-- Once there is a channel, it fails with the reason of a method that failed. -/
  failed : openedChannel ∈ heard → ∀ e, r = .error e →
    ∃ m reason, ⟨.call m, .error reason⟩ ∈ heard ∧ e = .publish reason
  /-- Without a channel it fails before anything is declared or published. -/
  unopened : openedChannel ∉ heard →
    (∃ e, r = .error e ∧ NoChannel e) ∧ ∀ x ∈ heard, x.1.Frames

section
variable {connected : Bool} {first : Request} {d : Descriptor} {routingKey : String}
  {envelope : Bytes} {properties : PublishProperties} {r : Except ConnectorError Bool}
  {heard : Heard Request Answer}

/-- To ask for a connection is no work yet. -/
theorem Request.Connects.frames {q : Request} (h : q.Connects) : q.Frames := by
  cases q with
  | dial _ => trivial
  | lease _ => trivial
  | _ => exact h.elim

/-- To close something is no work any more. -/
theorem Request.Closes.frames {q : Request} (h : q.Closes) : q.Frames := by
  cases q with
  | call m =>
    cases m with
    | channelClose _ _ => trivial
    | connectionClose _ _ => trivial
    | _ => exact h.elim
  | _ => exact h.elim

/-- Without a connection there is no channel, but that is not the fault of the connector. -/
theorem noChannel_of_connects (hfirst : first.Connects) (reason : String) :
    NoChannel (faultOf first reason) ∧ faultOf first reason ≠ .notConnected := by
  cases first with
  | dial _ => exact ⟨.inr (.inl ⟨reason, rfl⟩), nofun⟩
  | lease _ => exact ⟨.inr (.inr ⟨_, rfl⟩), nofun⟩
  | _ => exact hfirst.elim

/-- Steps that have all succeeded come before the others. -/
theorem Takes.after {done : Heard Request Answer} (hdone : ∀ x ∈ done, failure? x = none)
    {rest : List Request} {fault : Option (Request × String)} (h : Takes rest heard fault) :
    Takes (done.map Sigma.fst ++ rest) (done ++ heard) fault := by
  induction done with
  | nil => exact h
  | cons x done ih =>
    obtain ⟨hx, hdone⟩ := List.forall_mem_cons.1 hdone
    exact .taken hx (ih hdone)

/-- The methods before the publication, as long as they succeed, report no failure. -/
theorem failure_prepared (d : Descriptor) : ∀ x ∈ prepared d, failure? x = none := by
  simp [prepared, failure?]

/-- What is prepared and published are steps on the channel. -/
theorem Sent.takes {closing : Heard Request Answer} (hclosing : ∀ x ∈ closing, x.1.Closes)
    {sent : Heard Request Answer} (h : Sent d routingKey envelope properties r sent) :
    ∃ fault, Takes ((prepared d).map Sigma.fst ++
        [.call (publication d routingKey envelope properties)]) (sent ++ closing) fault ∧
      ∀ q reason, fault = some (q, reason) → r = .error (faultOf q reason) := by
  cases h with
  | @unprepared done rest m a reason hsplit =>
    have hprepared := failure_prepared d
    have hdone : ∀ x ∈ done, failure? x = none := fun x hx => hprepared x (by simp [hsplit, hx])
    refine ⟨some (.call m, reason), ?_, ?_⟩
    · rw [hsplit, List.map_append, List.append_assoc, List.append_assoc]
      exact Takes.after hdone (.failed rfl hclosing)
    · rintro q reason' ⟨⟩
      -- Only the request for a channel fails otherwise, and it is not among what is prepared.
      have hm : m ≠ .channelOpen := by
        rintro rfl
        have hmem : (⟨.call .channelOpen, a⟩ : (q : Request) × Answer q) ∈ prepared d := by
          simp [hsplit]
        simp [prepared] at hmem
      cases m with
      | channelOpen => exact (hm rfl).elim
      | _ => rfl
  | answered a =>
    have hprepared := failure_prepared d
    rcases a with reason | c
    · refine ⟨some (.call (publication d routingKey envelope properties), reason), ?_, ?_⟩
      · rw [List.append_assoc]
        exact Takes.after hprepared (.failed rfl hclosing)
      · rintro q reason' ⟨⟩
        rfl
    · refine ⟨none, ?_, nofun⟩
      rw [List.append_assoc]
      exact Takes.after hprepared (.taken rfl (.over hclosing))

/-- What is said on a channel is not for want of a connected connector. -/
theorem Sent.ne_notConnected {sent : Heard Request Answer}
    (h : Sent d routingKey envelope properties r sent) : r ≠ .error .notConnected := by
  cases h with
  | unprepared done reason hsplit => exact nofun
  | answered a => cases a <;> exact nofun

/-- Whatever is attempted, it gets as far as the answers allow. -/
theorem Attempted.progress (hfirst : first.Connects)
    (h : Attempted first d routingKey envelope properties connected r heard) :
    Progress connected first d routingKey envelope properties r heard := by
  cases h with
  | unconnected hc => exact ⟨iff_of_true rfl hc, fun _ => rfl, fun h => by simp [hc] at h⟩
  -- From here on the connector is connected, and each case ends one request later than the one
  -- before.
  | @unreached a reason hc hfails =>
    refine ⟨iff_of_false ?_ (by simp [hc]), fun h => by simp [hc] at h, fun _ => ?_⟩
    · simpa using (noChannel_of_connects hfirst reason).2
    · exact ⟨some (first, reason), .failed hfails nofun, by rintro q reason' ⟨⟩; rfl⟩
  | @refused a reason closing hc hopened hclosing =>
    refine ⟨iff_of_false nofun (by simp [hc]), fun h => by simp [hc] at h, fun _ => ?_⟩
    exact ⟨some (.call .channelOpen, reason), .taken hopened (.failed rfl hclosing),
      by rintro q reason' ⟨⟩; rfl⟩
  | @reached a r sent closing hc hopened hsent hclosing =>
    refine ⟨iff_of_false hsent.ne_notConnected (by simp [hc]), fun h => by simp [hc] at h,
      fun _ => ?_⟩
    obtain ⟨fault, htakes, hfault⟩ := hsent.takes hclosing
    exact ⟨fault, .taken hopened (.taken rfl htakes), hfault⟩

/-- What opens or closes something publishes nothing. -/
theorem Request.publishes_of_frames {q : Request} (h : q.Frames) : q.publishes = false := by
  cases q with
  | call m =>
    cases m with
    | basicPublish => exact h.elim
    | _ => rfl
  | _ => rfl

/-- Opening the channel publishes nothing. -/
theorem publishes_openedChannel : openedChannel.1.publishes = false := rfl

/-- Nothing is published on the way to the publication. -/
theorem publishes_prepared (d : Descriptor) : ∀ x ∈ prepared d, x.1.publishes = false := by
  simp [prepared, Request.publishes]

/-- Where nothing is published, there is no publication to be found. -/
theorem filter_publishes (h : ∀ x ∈ heard, x.1.publishes = false) :
    heard.filter (fun x => x.1.publishes) = [] := by
  simpa using h

/-- Where nothing is published, there is nothing to promise of a publication. -/
theorem publication_of_silent {e : ConnectorError}
    (hprogress : Progress connected first d routingKey envelope properties (.error e) heard)
    (hsilent : ∀ x ∈ heard, x.1.publishes = false)
    (hfailed : openedChannel ∈ heard →
      ∃ m reason, ⟨.call m, .error reason⟩ ∈ heard ∧ e = .publish reason)
    (hunopened : openedChannel ∉ heard → NoChannel e ∧ ∀ x ∈ heard, x.1.Frames) :
    Publication connected first d routingKey envelope properties (.error e) heard := by
  -- Everything said about the publication is about a request that was never made.
  have hnone {exchange key : String} {travelling : BasicProperties} {body : Bytes}
      {a : Except String Confirmation}
      (h : ⟨.call (.basicPublish exchange key travelling body), a⟩ ∈ heard) : False :=
    Bool.noConfusion (hsilent _ h)
  exact {
    hprogress with
    once := by simp [filter_publishes hsilent]
    carries := fun _ _ _ _ _ h => (hnone h).elim
    follows := fun _ _ _ _ _ h => (hnone h).elim
    accepted := iff_of_false nofun hnone
    rejected := iff_of_false nofun hnone
    failed := fun hopened e' he => by
      cases he
      exact hfailed hopened
    unopened := fun hclosed => ⟨⟨e, rfl, (hunopened hclosed).1⟩, (hunopened hclosed).2⟩ }

/-- Only an ack is a success. -/
theorem outcomeOf_true {a : Except String Confirmation} :
    outcomeOf a = .ok true ↔ a = .ok .ack := by
  rcases a with reason | c
  · simp [outcomeOf]
  · cases c <;> simp [outcomeOf]

/-- Only a nack is a refusal. -/
theorem outcomeOf_false {a : Except String Confirmation} :
    outcomeOf a = .ok false ↔ a = .ok .nack := by
  rcases a with reason | c
  · simp [outcomeOf]
  · cases c <;> simp [outcomeOf]

/-- An error is one of publishing, and gives the reason that was heard. -/
theorem outcomeOf_error {a : Except String Confirmation} {e : ConnectorError}
    (h : outcomeOf a = .error e) : ∃ reason, a = .error reason ∧ e = .publish reason := by
  cases a with
  | error reason =>
    cases h
    exact ⟨reason, rfl, rfl⟩
  | ok c => cases h

/-- What is promised holds of a publication that came to be answered. -/
theorem publication_of_answered {opening : (q : Request) × Answer q}
    {closing : Heard Request Answer} (a : Except String Confirmation)
    (hprogress : Progress connected first d routingKey envelope properties (outcomeOf a)
      (opening :: openedChannel :: (prepared d ++
        ⟨.call (publication d routingKey envelope properties), a⟩ :: closing)))
    (hopening : opening.1.Frames) (hclosing : ∀ x ∈ closing, x.1.Frames) :
    Publication connected first d routingKey envelope properties (outcomeOf a)
      (opening :: openedChannel :: (prepared d ++
        ⟨.call (publication d routingKey envelope properties), a⟩ :: closing)) := by
  generalize hheard : opening :: openedChannel :: (prepared d ++
    ⟨.call (publication d routingKey envelope properties), a⟩ :: closing) = heard at hprogress ⊢
  -- Only one thing that was said is a publication.
  have honly : heard.filter (fun x => x.1.publishes) =
      [⟨.call (publication d routingKey envelope properties), a⟩] := by
    have hpublishes : (Request.call (publication d routingKey envelope properties)).publishes =
        true := rfl
    have hprepared := filter_publishes (publishes_prepared d)
    have hclosed := filter_publishes fun x hx => Request.publishes_of_frames (hclosing x hx)
    simp [← hheard, Request.publishes_of_frames hopening, publishes_openedChannel, hprepared,
      hclosed, hpublishes]
  have hsame {x : (q : Request) × Answer q} (hx : x.1.publishes = true) :
      x ∈ heard ↔ x = ⟨.call (publication d routingKey envelope properties), a⟩ := by
    rw [← List.mem_singleton, ← honly, List.mem_filter]
    exact (and_iff_left hx).symm
  have hconfirmed (c : Confirmation) : a = .ok c ↔
      ⟨.call (publication d routingKey envelope properties), .ok c⟩ ∈ heard := by
    constructor
    · rintro rfl
      exact (hsame rfl).2 rfl
    · intro h
      cases (hsame rfl).1 h
      rfl
  have hopened : openedChannel ∈ heard := by simp [← hheard]
  exact {
    hprogress with
    once := by simp [honly]
    carries := fun exchange key travelling body a' h => by
      cases (hsame rfl).1 h
      exact ⟨rfl, rfl, rfl, delivers_basicProperties properties⟩
    follows := fun exchange key travelling body a' h => by
      cases (hsame rfl).1 h
      exact ⟨opening, closing, hheard.symm⟩
    accepted := outcomeOf_true.trans (hconfirmed .ack)
    rejected := outcomeOf_false.trans (hconfirmed .nack)
    failed := fun _ e he => by
      obtain ⟨reason, rfl, rfl⟩ := outcomeOf_error he
      exact ⟨_, reason, (hsame rfl).2 rfl, rfl⟩
    unopened := fun h => absurd hopened h }

/-- Whatever is attempted, what is promised of a publication holds. -/
theorem Attempted.publication (hfirst : first.Connects)
    (h : Attempted first d routingKey envelope properties connected r heard) :
    Publication connected first d routingKey envelope properties r heard := by
  have hprogress := h.progress hfirst
  have hopening : ∀ a : Answer first, (⟨first, a⟩ : (q : Request) × Answer q) ≠ openedChannel := by
    rintro a heq
    cases heq
    exact hfirst
  cases h with
  | unconnected hc =>
    exact publication_of_silent hprogress nofun nofun fun _ => ⟨.inl rfl, nofun⟩
  | @unreached a reason hc hfails =>
    refine publication_of_silent hprogress ?_ ?_ fun _ =>
      ⟨(noChannel_of_connects hfirst reason).1, ?_⟩
    · exact List.forall_mem_singleton.2 (Request.publishes_of_frames hfirst.frames)
    · exact fun hopened => (hopening a (List.mem_singleton.1 hopened).symm).elim
    · exact List.forall_mem_singleton.2 hfirst.frames
  | @refused a reason closing hc hopened hclosing =>
    have hframes : ∀ x ∈ (⟨first, a⟩ :: ⟨.call .channelOpen, .error reason⟩ :: closing :
        Heard Request Answer), x.1.Frames :=
      List.forall_mem_cons.2 ⟨hfirst.frames, List.forall_mem_cons.2
        ⟨trivial, fun x hx => (hclosing x hx).frames⟩⟩
    refine publication_of_silent hprogress (fun x hx => Request.publishes_of_frames (hframes x hx))
      ?_ fun _ => ⟨.inr (.inl ⟨reason, rfl⟩), hframes⟩
    -- The channel was asked for and not given, and what comes after that opens nothing.
    intro hmem
    rcases List.mem_cons.1 hmem with heq | hmem
    · exact (hopening a heq.symm).elim
    rcases List.mem_cons.1 hmem with heq | hmem
    · cases heq
    · exact (hclosing _ hmem).elim
  | @reached a r sent closing hc hopened hsent hclosing =>
    have hframes : ∀ x ∈ closing, x.1.Frames := fun x hx => (hclosing x hx).frames
    cases hsent with
    | @unprepared done rest m b reason hsplit =>
      -- The method that failed is one of those that come before a publication.
      have hdone : ∀ x ∈ done, x.1.publishes = false := fun x hx =>
        publishes_prepared d x (by simp [hsplit, hx])
      have hm : (Request.call m).publishes = false :=
        publishes_prepared d ⟨.call m, b⟩ (by simp [hsplit])
      refine publication_of_silent hprogress ?_ (fun _ => ⟨m, reason, by simp, rfl⟩)
        fun h => absurd (by simp) h
      intro x hx
      simp only [List.mem_cons, List.mem_append, List.not_mem_nil, or_false] at hx
      rcases hx with rfl | rfl | (hx | rfl) | hx
      · exact Request.publishes_of_frames hfirst.frames
      · exact publishes_openedChannel
      · exact hdone x hx
      · exact hm
      · exact Request.publishes_of_frames (hframes x hx)
    | answered c =>
      rw [List.append_assoc, List.singleton_append] at hprogress ⊢
      exact publication_of_answered c hprogress hfirst.frames hframes

end

end Amqp

/-! ## Connectors and producers -/

namespace Connector

open Amqp (Request Answer)

variable {σ : Type}

/-- The connector talks to an AMQP broker. -/
def IsAmqp : Connector → Prop
  | redis _ => False
  | native .. => True
  | direct _ => True

/-- What an AMQP connector says to a party to publish an envelope, and what it is answered. -/
def heard (p : Party σ) (routingKey : String) (envelope : Bytes) (properties : PublishProperties) :
    Connector → σ → Heard Request Answer
  | redis _, _ => []
  | native _ none, _ => []
  | native d (some link), s =>
    (Amqp.Native.publish d routingKey envelope properties).run.transcript p.amqp (link, s)
  | direct c, s => (c.publish routingKey envelope properties).run.transcript p.amqp ({}, s)

/-- The request with which an AMQP connector asks for a connection when it has something to do. -/
def opening : (c : Connector) → c.IsAmqp → Request
  | redis _, h => h.elim
  | native d _, _ => .lease d.amqpUri
  | direct c, _ => .dial c.url

/-- It asks for a connection, and for nothing else. -/
theorem connects_opening {c : Connector} (hc : c.IsAmqp) : (c.opening hc).Connects := by
  cases c with
  | redis c => exact hc.elim
  | native d link => trivial
  | direct c => trivial

/-- What a connector says when it publishes is what the party hears. -/
theorem said_publish (p : Party σ) {c : Connector} (hc : c.IsAmqp) (routingKey : String)
    (envelope : Bytes) (properties : PublishProperties) (s : σ) :
    (c.work p (.publish routingKey envelope properties) s).2.1 =
      (c.heard p routingKey envelope properties s).map fun x => .amqp x.1 := by
  cases c with
  | redis c => exact hc.elim
  | native d link =>
    -- Without its channel the native connector asks nothing, whatever the party would answer.
    cases link with
    | none => rfl
    | some link =>
      simp only [work, Job.publish, Party.overAmqp, heard, Dialogue.asked_eq_map, List.map_map]
      rfl
  | direct c =>
    simp only [work, Job.publish, Party.overAmqp, heard, Dialogue.asked_eq_map, List.map_map]
    rfl

/-- With any party a connector that publishes takes one of the ways that there are. -/
theorem attempted (p : Party σ) {c : Connector} (hc : c.IsAmqp) (routingKey : String)
    (envelope : Bytes) (properties : PublishProperties) (s : σ) :
    Amqp.Attempted (c.opening hc) c.descriptor routingKey envelope properties c.isConnected
      (c.work p (.publish routingKey envelope properties) s).1
      (c.heard p routingKey envelope properties s) := by
  cases c with
  | redis c => exact hc.elim
  | native d link =>
    cases link with
    | none => exact .unconnected rfl
    | some link =>
      exact Amqp.Native.attempted (Dialogue.course_transcript p.amqp _ (link, s))
  | direct c => exact Amqp.Direct.attempted (Dialogue.course_transcript p.amqp _ ({}, s))

/-- Connecting does not make another kind of connector. -/
theorem isAmqp_connectTo (p : Party σ) {c : Connector} (hc : c.IsAmqp) (s : σ) :
    (c.connectTo p s).2.2.1.IsAmqp ∧ (c.connectTo p s).2.2.1.descriptor = c.descriptor := by
  cases c with
  | redis c => exact hc.elim
  | native d link => cases link <;> exact ⟨trivial, rfl⟩
  | direct c => exact ⟨trivial, rfl⟩

end Connector

/-- The party is at the other end of a transport: connecting and publishing come to the same as with
the party. -/
structure Party.Serves {β : Type} (p : Party (World β)) (t : Transport Connector β) : Prop where
  descriptor : ∀ c, t.descriptor c = c.descriptor
  connect : ∀ c w, (t.connect c w).1 = (c.connectTo p w).1 ∧
    (t.connect c w).2.1 = (c.connectTo p w).2.2.1
  publish : ∀ c routingKey envelope properties w,
    (t.publish c routingKey envelope properties w).1 =
      (c.work p (.publish routingKey envelope properties) w).1

/-- The brokers of the network are at the other end of its transport. -/
theorem Connector.network_serves : Connector.network.Serves Network.transport where
  descriptor _ := rfl
  connect c w := by
    obtain ⟨events, h⟩ := connect_network c w
    rw [h]
    exact ⟨rfl, rfl⟩
  publish c routingKey envelope properties w := by
    obtain ⟨events, h⟩ := publish_network c routingKey envelope properties w
    rw [h]

/-- A producer succeeds if it gets a connection and the envelope is accepted, and not otherwise. -/
theorem Producer.publish_ok_iff {κ β : Type} (t : Transport κ β) (c : κ) (e : Envelope)
    (routingKey : Option String) (w : World β) :
    (Producer.publish t c e routingKey w).1 = .ok () ↔
      ∃ c₁ w₁, t.connect c w = (.ok (), c₁, w₁) ∧
        (t.publish c₁ (routingKey.getD (t.descriptor c).binding) e.toBytes
          (Producer.properties (t.descriptor c)) (Producer.announced t c e w₁)).1 = .ok true := by
  rcases Producer.publish_cases t c e routingKey w with
    ⟨fault, c₁, w₁, hc, heq⟩ | ⟨c₁, w₁, outcome, c₂, w₂, hc, hp, heq⟩
  · rw [heq, hc]
    refine iff_of_false nofun ?_
    rintro ⟨c', w', h, -⟩
    cases h
  -- Once there is a connection, it is up to what the broker made of the envelope.
  · have hsettle : (Producer.settle e (t.descriptor c).exchange (t.kind c).name w₁.clock outcome
        w₂).1 = .ok () ↔ outcome = .ok true := by
      rcases outcome with fault | accepted
      · simp [Producer.settle]
      · cases accepted <;> simp [Producer.settle]
    rw [heq, hsettle]
    constructor
    · rintro rfl
      exact ⟨c₁, w₁, hc, by rw [hp]⟩
    · rintro ⟨c', w', h, haccepted⟩
      rw [hc] at h
      cases h
      rw [hp] at haccepted
      exact haccepted

/-- Whoever answers an AMQP connector that publishes an envelope, what is said and what it comes to
are as promised, and it gets as far as the answers allow. A producer that publishes over such a
connector succeeds if and only if it gets a connection and hears the ack. -/
theorem Connector.publish_confirmed {σ : Type} (p : Party σ) {c : Connector} (hc : c.IsAmqp)
    (routingKey : String) (envelope : Bytes) (properties : PublishProperties) (s : σ) :
    Amqp.Publication c.isConnected (c.opening hc) c.descriptor routingKey envelope properties
      (c.work p (.publish routingKey envelope properties) s).1
      (c.heard p routingKey envelope properties s) ∧
    (c.work p (.publish routingKey envelope properties) s).2.1 =
      (c.heard p routingKey envelope properties s).map (fun x => .amqp x.1) ∧
    ∀ (β : Type) (q : Party (World β)) (t : Transport Connector β), q.Serves t →
      ∀ (e : Envelope) (key : Option String) (w : World β),
      (Producer.publish t c e key w).1 = .ok () ↔
        ∃ c₁ w₁, t.connect c w = (.ok (), c₁, w₁) ∧
          ⟨.call (Amqp.publication c.descriptor (key.getD c.descriptor.binding) e.toBytes
              (Producer.properties c.descriptor)), .ok Amqp.Confirmation.ack⟩ ∈
            c₁.heard q (key.getD c.descriptor.binding) e.toBytes
              (Producer.properties c.descriptor) (Producer.announced t c e w₁) := by
  refine ⟨(c.attempted p hc routingKey envelope properties s).publication (connects_opening hc),
    said_publish p hc routingKey envelope properties s, fun β q t ht e key w => ?_⟩
  rw [Producer.publish_ok_iff]
  refine exists_congr fun c₁ => exists_congr fun w₁ => and_congr_right fun hconnect => ?_
  have hconnector : c₁ = (c.connectTo q w).2.2.1 := by
    have hsame := (ht.connect c w).2
    rw [hconnect] at hsame
    exact hsame
  obtain ⟨hc₁, hd⟩ := isAmqp_connectTo q hc w
  rw [← hconnector] at hc₁ hd
  have haccepted := (c₁.attempted q hc₁ (key.getD c.descriptor.binding) e.toBytes
    (Producer.properties c.descriptor) (Producer.announced t c e w₁)).publication
      (connects_opening hc₁) |>.accepted
  rw [hd] at haccepted
  rw [ht.publish, ht.descriptor]
  exact haccepted

/-- A connector with a connection to a broker. -/
def Connector.leased : Connector := native { host := "rabbit" } (some { isOpen := true })

/-- A connector that opens a connection for each operation, when it is connected. -/
def Connector.dialling (connected : Bool) : Connector :=
  direct { Amqp.Direct.plain { host := Amqp.Broker.host } with connected }

/-- A task for which they publish the envelope. -/
def Connector.sumTask : Envelope := ⟨⟨"t-1"⟩, "tasks.add", [.int 2, .int 2], [], 0, none, none, []⟩

/-- A broker at which some methods fail. -/
def Connector.rabbit (failing : List String) : World Network :=
  .start { amqp := { failing := failing } } ⟨0, 0⟩ 0

/-- The broker acks a publication, and the producer reports a success. Another broker nacks it, and
a third does not bind the queue. A direct connector takes all the steps and closes what it has
opened; it gets no further than to the channel where none is given, and says nothing if it is not
connected. -/
theorem Connector.publish_confirmed_leased :
    (leased.work network (.publish "celery" sumTask.toBytes .json) (rabbit [])).1 = .ok true ∧
      (leased.work network (.publish "celery" sumTask.toBytes .json) (rabbit ["nack"])).1 =
        .ok false ∧
      (∃ reason, (leased.work network (.publish "celery" sumTask.toBytes .json)
        (rabbit ["queue.bind"])).1 = .error (.publish reason)) ∧
      (Producer.publish Network.transport leased sumTask none (rabbit [])).1 = .ok () ∧
      (∃ closing : List Amqp.Request, (∀ q ∈ closing, q.Closes) ∧
        ((dialling true).heard network "celery" sumTask.toBytes .json (rabbit [])).map Sigma.fst =
          Amqp.steps (.dial (dialling true).descriptor.amqpUri) (dialling true).descriptor "celery"
            sumTask.toBytes .json ++ closing ∧
        ((dialling true).work network (.publish "celery" sumTask.toBytes .json) (rabbit [])).1 =
          .ok true) ∧
      (∃ reason, ((dialling true).work network (.publish "celery" sumTask.toBytes .json)
        (rabbit ["channel.open"])).1 = .error (.connection reason)) ∧
      ((dialling false).work network (.publish "celery" sumTask.toBytes .json) (rabbit [])).1 =
        .error .notConnected := by
  have hamqp : leased.IsAmqp := trivial
  have hdials (connected : Bool) : (dialling connected).IsAmqp := trivial
  obtain ⟨htaken, -, hproducer⟩ :=
    publish_confirmed network hamqp "celery" sumTask.toBytes .json (rabbit [])
  obtain ⟨hrefused, -, -⟩ :=
    publish_confirmed network hamqp "celery" sumTask.toBytes .json (rabbit ["nack"])
  obtain ⟨hbroken, -, -⟩ :=
    publish_confirmed network hamqp "celery" sumTask.toBytes .json (rabbit ["queue.bind"])
  obtain ⟨hdialled, -, -⟩ :=
    publish_confirmed network (hdials true) "celery" sumTask.toBytes .json (rabbit [])
  obtain ⟨hunopened, -, -⟩ :=
    publish_confirmed network (hdials true) "celery" sumTask.toBytes .json (rabbit ["channel.open"])
  obtain ⟨hunconnected, -, -⟩ :=
    publish_confirmed network (hdials false) "celery" sumTask.toBytes .json (rabbit [])
  -- The lease and the channel, what is prepared, and the publication as the seventh request.
  have hacked : (leased.heard network "celery" sumTask.toBytes .json (rabbit []))[6]? =
      some ⟨.call (Amqp.publication leased.descriptor "celery" sumTask.toBytes .json),
        .ok Amqp.Confirmation.ack⟩ := rfl
  have hnacked : (leased.heard network "celery" sumTask.toBytes .json (rabbit ["nack"]))[6]? =
      some ⟨.call (Amqp.publication leased.descriptor "celery" sumTask.toBytes .json),
        .ok Amqp.Confirmation.nack⟩ := rfl
  have hopened : (leased.heard network "celery" sumTask.toBytes .json
      (rabbit ["queue.bind"]))[1]? = some Amqp.openedChannel := rfl
  refine ⟨htaken.accepted.2 (List.mem_of_getElem? hacked),
    hrefused.rejected.2 (List.mem_of_getElem? hnacked), ?_, ?_, ?_, ?_,
    hunconnected.unconnected.2 rfl⟩
  · obtain ⟨m, reason, -, he⟩ := hbroken.failed (List.mem_of_getElem? hopened) _ rfl
    exact ⟨reason, congrArg Except.error he⟩
  · refine (hproducer _ network Network.transport network_serves sumTask none (rabbit [])).2 ?_
    exact ⟨_, _, rfl, List.mem_of_getElem? (i := 6) rfl⟩
  · refine ⟨[.call (.channelClose Amqp.closeCode Amqp.closeText),
      .call (.connectionClose Amqp.closeCode Amqp.closeText)], ?_, rfl, ?_⟩
    · simp [Amqp.Request.Closes]
    · exact hdialled.accepted.2 (List.mem_of_getElem? (i := 6) rfl)
  -- The dial succeeds, so it is the second step that fails.
  · obtain ⟨fault, htakes, hfault⟩ := hunopened.takes rfl
    cases htakes with
    | failed hfails => cases hfails
    | taken _ htakes =>
      cases htakes with
      | failed hfails => exact ⟨_, hfault _ _ rfl⟩
      | taken hopened => cases hopened

end TaskQueue
