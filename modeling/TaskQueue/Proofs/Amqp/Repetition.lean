import TaskQueue.Proofs.Amqp.Rounds

/-!
# `TaskQueue.Proofs.Amqp.Repetition`: a direct fetch is a native one with more looks

A fetch of the direct connector opens a session, declares the queue of the task, and looks at it in
rounds. A fetch of the native connector does the same with a single look.

`Direct.fetch_repeats` is the main result. It holds for all answers and for any time that a method
takes: how often the direct connector looks, when it does and when it gives up, and that without the
looks that found nothing it says on its channel what the native connector says, with the same
outcome. A fetch that may wait for less than an interval looks once.
-/

set_option autoImplicit false

namespace TaskQueue

open Dialogue (Heard Course)

namespace Amqp

/-! ## Declaring the queue -/

/-- The declaration of the queue of a task. -/
def declaring (d : Descriptor) (id : TaskId) : Method :=
  .queueDeclare id.resultQueue (resultQueueFlags d) (resultQueueArguments d)

/-- The binding of the queue of a task. -/
def binding (id : TaskId) : Method := .queueBind id.resultQueue resultsExchange id.resultQueue

/-- What is said to do something once the queue is declared and bound, and what that comes to. -/
inductive Declared (d : Descriptor) (id : TaskId) (work : Try (Option ResultMessage)) :
    Heard Request Answer → Except ConnectorError (Option ResultMessage) → Prop
  | undeclared (reason : String) :
    Declared d id work [⟨.call (declaring d id), .error reason⟩] (.error (.consume reason))
  | unbound (reason : String) :
    Declared d id work
      [⟨.call (declaring d id), .ok ()⟩, ⟨.call (binding id), .error reason⟩]
      (.error (.consume reason))
  | declared {rest : Heard Request Answer} {r : Except ConnectorError (Option ResultMessage)} :
    Course work.run rest r →
    Declared d id work
      (⟨.call (declaring d id), .ok ()⟩ :: ⟨.call (binding id), .ok ()⟩ :: rest) r

/-- These are the courses of such a talk. -/
theorem course_declared_iff {d : Descriptor} {id : TaskId} {work : Try (Option ResultMessage)}
    {heard : Heard Request Answer} {r : Except ConnectorError (Option ResultMessage)} :
    Course (do declareResultQueue d id.resultQueue; work : Try (Option ResultMessage)).run heard r ↔
      Declared d id work heard r := by
  constructor
  · intro h
    rcases Attempt.course_bind h with ⟨e, hfirst, rfl⟩ | ⟨first, rest, _, rfl, hfirst, hwork⟩
    -- One of the two failed: the declaration, or the binding after it.
    · rcases course_demand course_call hfirst with ⟨reason, rfl, he⟩ | ⟨_, rest, rfl, hbound⟩
      · cases he
        exact .undeclared reason
      obtain ⟨x, rfl, hx⟩ := course_of_demand course_call hbound
      cases x with
      | error reason =>
        cases hx
        exact .unbound reason
      | ok a => cases hx
    · rcases course_demand course_call hfirst with ⟨reason, -, he⟩ | ⟨_, rest, rfl, hbound⟩
      · cases he
      obtain ⟨x, rfl, hx⟩ := course_of_demand course_call hbound
      cases x with
      | error reason => cases hx
      | ok a => exact .declared hwork
  · have hdeclared : Course (demand ConnectorError.consume (call (declaring d id))).run
        [⟨.call (declaring d id), .ok ()⟩] (.ok ()) :=
      demand_course (call_course (declaring d id) (.ok ()))
    have hbound (x : Except String Unit) :
        Course (demand ConnectorError.consume (call (binding id))).run
          [⟨.call (binding id), x⟩] (x.mapError .consume) :=
      demand_course (call_course (binding id) x)
    intro h
    cases h with
    | undeclared reason =>
      exact Attempt.course_error
        (Attempt.course_error (demand_course (call_course (declaring d id) (.error reason))))
    | unbound reason =>
      exact Attempt.course_error (Attempt.course_append hdeclared (hbound (.error reason)))
    | declared hwork =>
      have hboth : Course (declareResultQueue d id.resultQueue).run
          [⟨.call (declaring d id), .ok ()⟩, ⟨.call (binding id), .ok ()⟩] (.ok ()) :=
        Attempt.course_append hdeclared (hbound (.ok ()))
      exact Attempt.course_append (f := fun _ => work) hboth hwork

/-- The native connector looks once. -/
theorem Native.course_fetchOnce_iff {d : Descriptor} {id : TaskId} {remove : Bool}
    {heard : Heard Request Answer} {r : Except ConnectorError (Option ResultMessage)} :
    Course (fetchOnce d id remove).run heard r ↔ Declared d id (lookOnce id remove) heard r :=
  course_declared_iff

/-- The direct connector reads the clock before it declares the queue. -/
theorem Direct.course_watch {c : Direct} {id : TaskId} {remove : Bool}
    {heard : Heard Request Answer} {r : Except ConnectorError (Option ResultMessage)}
    (h : Course (c.watch id remove).run heard r) :
    ∃ now rest, heard = ⟨.clock, now⟩ :: rest ∧
      Declared c.descriptor id (lookUntil (now + c.descriptor.waitDuration.nanoseconds) id remove
        (retries c.descriptor)) rest r := by
  obtain ⟨first, rest, outcome, rfl, hclock, h₁⟩ := Course.bind h
  obtain ⟨first, second, now, rfl, hread, hlift⟩ := Course.bind hclock
  cases hlift
  obtain rfl := Course.of_ask hread
  exact ⟨now, rest, rfl, course_declared_iff.1 h₁⟩

/-- There are retries for all the time that a fetch has. -/
theorem Direct.lt_retries (d : Descriptor) :
    d.waitDuration.nanoseconds < (retries d + 1) * retryInterval := by
  rw [Nat.succ_mul]
  exact Nat.lt_div_mul_add (by decide)

/-- Intervals that fit into the time that a fetch has. -/
theorem Direct.le_of_intervals {d : Descriptor} {n : Nat}
    (h : n * retryInterval ≤ d.waitDuration.nanoseconds) : n ≤ d.waitTimeoutMillis.toNat / 100 := by
  have h : n * (100 * 1000000) ≤ d.waitTimeoutMillis.toNat * 1000000 := h
  omega

/-! ## Fetches -/

/-- The session has its channel since this time. -/
def OpenedAt (timeline : List Stamped) (time : Nat) : Prop :=
  ∃ x ∈ timeline, x.said = openedChannel ∧ x.stop = time

/-- What is promised of a fetch of the direct connector, in terms of what was said, when, and what
that came to. -/
structure Direct.Repeats (c : Direct) (id : TaskId) (remove : Bool) (timeline : List Stamped)
    (r : Except ConnectorError (Option ResultMessage)) : Prop extends
    c.Begins (timeline.map Stamped.said) r where
  /-- On its channel the queue is declared once. -/
  declares : openedChannel ∈ timeline.map Stamped.said →
    ((timeline.map Stamped.said).filter (calls "queue.declare")).map Sigma.fst =
      [.call (declaring c.descriptor id)]
  /-- When that succeeds, it is bound once. -/
  binds : ⟨.call (declaring c.descriptor id), .ok ()⟩ ∈ timeline.map Stamped.said →
    ((timeline.map Stamped.said).filter (calls "queue.bind")).map Sigma.fst = [.call (binding id)]
  /-- When that succeeds, there is a look. -/
  looked : ⟨.call (binding id), .ok ()⟩ ∈ timeline.map Stamped.said → looks timeline ≠ []
  /-- There are no more looks than intervals, and one. -/
  bounded : (looks timeline).length ≤ c.descriptor.waitTimeoutMillis.toNat / 100 + 1
  /-- A look begins an interval after the last one has ended. -/
  spaced : (looks timeline).IsChain fun a b => b.start = a.stop + retryInterval
  /-- None but the first begins when the time is over. -/
  punctual : ∀ opened, OpenedAt timeline opened → ∀ a ∈ (looks timeline).tail,
    a.start ≤ opened + c.descriptor.waitDuration.nanoseconds
  /-- If there is no result, no look has found any, and an interval after the last the time was
  over. -/
  patient : r = .ok none → (∀ a ∈ looks timeline, a.said = nothing id) ∧
    ∃ opened last, OpenedAt timeline opened ∧ (looks timeline).getLast? = some last ∧
      opened + c.descriptor.waitDuration.nanoseconds < last.stop + retryInterval
  /-- Without the looks that were followed by others, which found nothing, the same is said on the
  channel as by the native connector, with the same outcome. -/
  native : ⟨.dial c.url, .ok ()⟩ ∈ timeline.map Stamped.said → ∃ before after,
    channelLevel (timeline.map Stamped.said) =
        before ++ (List.replicate ((looks timeline).length - 1) (nothing id) ++ after) ∧
      Course (Native.fetch c.descriptor id remove).run
        (⟨.lease c.descriptor.amqpUri, .ok ()⟩ :: (before ++ after)) r
  /-- If the time is shorter than an interval, there are no such looks: what is said on the channel
  is what the native connector says. -/
  same : ⟨.dial c.url, .ok ()⟩ ∈ timeline.map Stamped.said →
    c.descriptor.waitTimeoutMillis.toNat < 100 →
    Course (Native.fetch c.descriptor id remove).run
      (⟨.lease c.descriptor.amqpUri, .ok ()⟩ :: channelLevel (timeline.map Stamped.said)) r

section
variable {c : Direct} {id : TaskId} {remove : Bool}
  {timeline opening watched closing : List Stamped} {heard : Heard Request Answer}
  {r : Except ConnectorError (Option ResultMessage)} {start stop now : Nat}
  {x y : Except String Unit}

/-- A fetch that fails before it looks. -/
theorem Direct.Repeats.of_unlooked (hheard : timeline.map Stamped.said = heard)
    (hbegins : c.Begins heard r)
    (hunlooked : ∀ x ∈ heard, calls "basic.get" x = false) (hr : r ≠ .ok none)
    (hdeclares : openedChannel ∈ heard →
      (heard.filter (calls "queue.declare")).map Sigma.fst = [.call (declaring c.descriptor id)])
    (hbinds : ⟨.call (declaring c.descriptor id), .ok ()⟩ ∈ heard →
      (heard.filter (calls "queue.bind")).map Sigma.fst = [.call (binding id)])
    (hunbound : ⟨.call (binding id), .ok ()⟩ ∉ heard)
    (hnative : ⟨.dial c.url, .ok ()⟩ ∈ heard → Course (Native.fetch c.descriptor id remove).run
      (⟨.lease c.descriptor.amqpUri, .ok ()⟩ :: channelLevel heard) r) :
    c.Repeats id remove timeline r := by
  subst hheard
  have hlooks := looks_eq_nil hunlooked
  -- Without a look, everything said about looks is about an empty list.
  exact {
    hbegins with
    declares := hdeclares
    binds := hbinds
    looked := fun h => (hunbound h).elim
    bounded := by simp [hlooks]
    spaced := by simp [hlooks]
    punctual := by simp [hlooks]
    patient := fun h => (hr h).elim
    native := fun h => ⟨[], channelLevel (timeline.map Stamped.said), by simp [hlooks], hnative h⟩
    same := fun h _ => hnative h }

/-- What is said until the queue is bound. -/
def opened (c : Direct) (id : TaskId) (now : Nat) : Heard Request Answer :=
  [⟨.dial c.url, .ok ()⟩, openedChannel, ⟨.clock, now⟩,
    ⟨.call (declaring c.descriptor id), .ok ()⟩, ⟨.call (binding id), .ok ()⟩]

/-- The clock is read when the channel has been opened. -/
theorem openedAt_opened (hopening : opening.map Stamped.said = opened c id now)
    (htime : Elapses start opening stop) :
    now ≤ stop ∧ ∀ t, OpenedAt opening t ↔ t = now := by
  obtain ⟨x₁, rest, rfl, h₁, hrest⟩ := List.map_eq_cons_iff.1 hopening
  obtain ⟨x₂, rest, rfl, h₂, hrest⟩ := List.map_eq_cons_iff.1 hrest
  obtain ⟨x₃, rest, rfl, h₃, hrest⟩ := List.map_eq_cons_iff.1 hrest
  obtain ⟨-, -, htime⟩ := htime.of_cons
  obtain ⟨-, -, htime⟩ := htime.of_cons
  obtain ⟨hstart, hread, htime⟩ := htime.of_cons
  obtain ⟨rfl, hstop⟩ := hread.clock h₃
  refine ⟨hstop ▸ htime.le, fun t => ⟨?_, ?_⟩⟩
  -- Of these requests only the second opens a channel, and the clock is read right after it.
  · rintro ⟨x, hx, hopened, rfl⟩
    have hx : x = x₁ ∨ x = x₂ ∨ x = x₃ ∨ x ∈ rest := by simpa using hx
    rcases hx with rfl | rfl | rfl | hx
    · simp [h₁, openedChannel] at hopened
    · exact hstart.symm
    · simp [h₃, openedChannel] at hopened
    · -- After the clock there are only the declaration and the binding.
      have hsaid := List.mem_map_of_mem (f := Stamped.said) hx
      rw [List.map_cons, List.cons.injEq] at hrest
      rw [hrest.2, hopened] at hsaid
      simp [openedChannel, declaring, binding] at hsaid
  · rintro rfl
    exact ⟨x₂, by simp, h₂, hstart.symm⟩

/-- What is said in the session of a fetch that looks. -/
theorem said_session (hopening : opening.map Stamped.said = opened c id now)
    (hclosing : closing.map Stamped.said = [closedChannel x, closedConnection y]) :
    (opening ++ (watched ++ closing)).map Stamped.said =
      opened c id now ++ (watched.map Stamped.said ++ [closedChannel x, closedConnection y]) := by
  rw [List.map_append, List.map_append, hopening, hclosing]

/-- What calls no such method may be left out. -/
theorem filter_calls_of_quiet {name : String} {before said after : Heard Request Answer}
    (hquiet : ∀ x ∈ said, calls name x = false) :
    (before ++ (said ++ after)).filter (calls name) = (before ++ after).filter (calls name) := by
  have hsaid : said.filter (calls name) = [] :=
    List.filter_eq_nil_iff.2 fun x hx => by simp [hquiet x hx]
  rw [List.filter_append, List.filter_append, hsaid, List.nil_append, List.filter_append]

/-- Only the rounds have looks. -/
theorem looks_session (hopening : opening.map Stamped.said = opened c id now)
    (hclosing : closing.map Stamped.said = [closedChannel x, closedConnection y]) :
    looks (opening ++ (watched ++ closing)) = looks watched := by
  have hfirst : looks opening = [] := looks_eq_nil (by
    rw [hopening]
    simp [opened, openedChannel, declaring, binding, calls, Method.name])
  have hlast : looks closing = [] := looks_eq_nil (by
    rw [hclosing]
    simp [closedChannel, closedConnection, calls, Method.name])
  rw [looks_append, looks_append, hfirst, hlast, List.nil_append, List.append_nil]

/-- Only the opening opens a channel. -/
theorem openedAt_session
    (hclosing : closing.map Stamped.said = [closedChannel x, closedConnection y])
    (hinside : ∀ x ∈ watched.map Stamped.said, x.1.Inside) (t : Nat) :
    OpenedAt (opening ++ (watched ++ closing)) t ↔ OpenedAt opening t := by
  constructor
  · rintro ⟨z, hz, hopened, rfl⟩
    -- Neither what is said inside of the session nor its closing opens a channel.
    rcases List.mem_append.1 hz with hz | hz
    · exact ⟨z, hz, hopened, rfl⟩
    rcases List.mem_append.1 hz with hz | hz
    · have hframes := hinside z.said (List.mem_map_of_mem hz)
      rw [hopened] at hframes
      exact (hframes trivial).elim
    · have hsaid := List.mem_map_of_mem (f := Stamped.said) hz
      simp [hclosing, hopened, openedChannel, closedChannel, closedConnection] at hsaid
  · rintro ⟨z, hz, h⟩
    exact ⟨z, List.mem_append_left _ hz, h⟩

/-- Each look but the first takes an interval of the time that a fetch has. -/
theorem Rounds.bounded {d : Descriptor}
    (h : Rounds (now + d.waitDuration.nanoseconds) id remove watched r)
    (htime : Elapses start watched stop) (hle : now ≤ start) :
    (looks watched).length ≤ d.waitTimeoutMillis.toNat / 100 + 1 := by
  rcases h.fit htime with hsingle | hfit
  · omega
  · have hmore : (looks watched).length - 1 ≤ d.waitTimeoutMillis.toNat / 100 :=
      Direct.le_of_intervals (by omega)
    omega

/-- Without the looks that were followed by others, the session is that of a fetch that looks
once. -/
theorem native_session {deadline : Nat} (hopening : opening.map Stamped.said = opened c id now)
    (hclosing : closing.map Stamped.said = [closedChannel x, closedConnection y])
    (htime : Elapses start watched stop) (h : Rounds deadline id remove watched r) :
    ∃ before after, channelLevel ((opening ++ (watched ++ closing)).map Stamped.said) =
        before ++ (List.replicate ((looks watched).length - 1) (nothing id) ++ after) ∧
      Course (Native.fetch c.descriptor id remove).run
        (⟨.lease c.descriptor.amqpUri, .ok ()⟩ :: (before ++ after)) r := by
  -- The rounds with all but the last vain look taken out are those of a fetch that looks once.
  obtain ⟨once, hchannel, honce⟩ := h.lookOnce htime
  refine ⟨[openedChannel, ⟨.call (declaring c.descriptor id), .ok ()⟩,
    ⟨.call (binding id), .ok ()⟩], once ++ [closedChannel x], ?_, ?_⟩
  · rw [said_session hopening hclosing, channelLevel, List.filter_append, List.filter_append]
    rw [channelLevel] at hchannel
    rw [hchannel, List.append_assoc]
    rfl
  · exact Native.course_onChannel_iff.2
      (.held x (Native.course_fetchOnce_iff.2 (.declared honce)))

/-- A fetch that looks. -/
theorem Direct.Repeats.of_rounds (hopening : opening.map Stamped.said = opened c id now)
    (hclosing : closing.map Stamped.said = [closedChannel x, closedConnection y])
    (hinside : ∀ x ∈ watched.map Stamped.said, x.1.Inside)
    (htime : Elapses start (opening ++ (watched ++ closing)) stop)
    (hbegins : c.Begins ((opening ++ (watched ++ closing)).map Stamped.said) r)
    (h : Course (lookUntil (now + c.descriptor.waitDuration.nanoseconds) id remove
      (retries c.descriptor)).run (watched.map Stamped.said) r) :
    c.Repeats id remove (opening ++ (watched ++ closing)) r := by
  -- The time counts from `now`, and the rounds begin when the queue is bound, which is later.
  obtain ⟨t, htimeOpening, htimeRest⟩ := htime.of_append
  obtain ⟨t', htime, -⟩ := htimeRest.of_append
  obtain ⟨hle, hopened⟩ := openedAt_opened hopening htimeOpening
  have hopened : ∀ t, OpenedAt (opening ++ (watched ++ closing)) t ↔ t = now := fun t =>
    (openedAt_session hclosing hinside t).trans (hopened t)
  have hlooks : looks (opening ++ (watched ++ closing)) = looks watched :=
    looks_session hopening hclosing
  have hretries := Direct.lt_retries c.descriptor
  have hrounds := rounds_of_course htime (by omega) h
  obtain ⟨first, others, hfirst, -⟩ := hrounds.looks_first htime
  have hbounded := hrounds.bounded htime hle
  have hnative := native_session hopening hclosing htime hrounds
  refine {
    hbegins with
    declares := fun _ => ?_
    binds := fun _ => ?_
    looked := fun _ => by simp [hlooks, hfirst]
    bounded := hlooks ▸ hbounded
    spaced := hlooks ▸ hrounds.spaced htime
    punctual := fun t ht => ?_
    patient := fun hr => ?_
    native := fun _ => hlooks ▸ hnative
    same := fun _ hshort => ?_ }
  · rw [said_session hopening hclosing, filter_calls_of_quiet fun x hx => (hrounds.quiet x hx).1]
    rfl
  · rw [said_session hopening hclosing, filter_calls_of_quiet fun x hx => (hrounds.quiet x hx).2]
    rfl
  · obtain rfl := (hopened t).1 ht
    exact hlooks ▸ hrounds.punctual htime
  · obtain ⟨hnothing, last, hlast, hlate⟩ := hrounds.patient htime hr
    rw [hlooks]
    exact ⟨hnothing, now, last, (hopened now).2 rfl, hlast, hlate⟩
  · obtain ⟨before, after, heq, hcourse⟩ := hnative
    have hsingle : (looks watched).length - 1 = 0 := by omega
    rw [hsingle] at heq
    rwa [heq]

/-- Whatever a fetch of the direct connector is answered, and however long that takes: it declares
and binds the queue once and looks at it at intervals until there is something to settle or the time
is over. Without the looks that found nothing it is a fetch of the native connector. -/
theorem Direct.fetch_repeats (htime : Elapses start timeline stop)
    (h : Course (c.fetch id remove).run (timeline.map Stamped.said) r) :
    c.Repeats id remove timeline r := by
  generalize hheard : timeline.map Stamped.said = heard at h
  have hbegins := (course_inSession_iff.1 h).begins
  -- One case for each request that may fail before there is a look, and one for the rounds.
  cases course_inSession_iff.1 h with
  | unconnected _ =>
    exact .of_unlooked hheard hbegins (by simp) (by simp) (by simp) (by simp) (by simp) (by simp)
  | unreached reason _ =>
    exact .of_unlooked hheard hbegins (by simp [calls]) (by simp) (by simp [openedChannel])
      (by simp [declaring]) (by simp [binding]) (by simp)
  | refused reason x _ =>
    refine .of_unlooked hheard hbegins ?_ (by simp) ?_ ?_ ?_ fun _ => ?_
    · simp [calls, Method.name, closedConnection]
    · simp [openedChannel, closedConnection]
    · simp [declaring, closedConnection]
    · simp [binding, closedConnection]
    · exact Native.course_onChannel_iff.2 (.refused reason)
  | held x y _ hsaid =>
    obtain ⟨now, rest, rfl, hdeclared⟩ := course_watch hsaid
    cases hdeclared with
    | undeclared reason =>
      refine .of_unlooked hheard hbegins ?_ (by simp) (fun _ => rfl) ?_ ?_ fun _ => ?_
      · simp [calls, Method.name, openedChannel, declaring, closedChannel, closedConnection]
      · simp [openedChannel, declaring, closedChannel, closedConnection]
      · simp [openedChannel, declaring, binding, closedChannel, closedConnection]
      · exact Native.course_onChannel_iff.2
          (.held x (Native.course_fetchOnce_iff.2 (.undeclared reason)))
    | unbound reason =>
      refine .of_unlooked hheard hbegins ?_ (by simp) (fun _ => rfl) (fun _ => rfl) ?_ fun _ => ?_
      · simp [calls, Method.name, openedChannel, declaring, binding, closedChannel,
          closedConnection]
      · simp [openedChannel, declaring, binding, closedChannel, closedConnection]
      · exact Native.course_onChannel_iff.2
          (.held x (Native.course_fetchOnce_iff.2 (.unbound reason)))
    | @declared rest r hwork =>
      have hsplit : timeline.map Stamped.said =
          opened c id now ++ (rest ++ [closedChannel x, closedConnection y]) := hheard
      obtain ⟨opening, tail, rfl, hopening, htail⟩ := List.map_eq_append_iff.1 hsplit
      obtain ⟨watched, closing, rfl, rfl, hclosing⟩ := List.map_eq_append_iff.1 htail
      have hinside := (lookUntil_inside _ id remove (retries c.descriptor)).of_course hwork
      exact .of_rounds hopening hclosing hinside htime (hheard ▸ hbegins) hwork

end

/-- A connector that may wait for a quarter of a second. -/
def Direct.hurried : Direct :=
  { plain { host := Broker.host, waitTimeoutMillis := 250 } with connected := true }

/-- A broker with no message. -/
def Peer.empty : Peer := ⟨{}, {}, 0⟩

/-- It looks three times at an empty queue. -/
theorem Direct.fetch_repeats_thrice :
    let t : Try (Option ResultMessage) := Direct.hurried.fetch ⟨"t-1"⟩ true
    let said := timeline Peer.answer Peer.clock t.run .empty
    (looks said).map Stamped.start = [4000, 100005000, 200006000] ∧
      (t.run.run Peer.answer .empty).1 = .ok none ∧
      Direct.hurried.Repeats ⟨"t-1"⟩ true said (.ok none) := by
  intro t said
  have hresult : (t.run.run Peer.answer .empty).1 = .ok none := by rfl
  have hcourse : Course t.run (said.map Stamped.said) (.ok none) := by
    rw [said_timeline, ← hresult]
    exact Dialogue.course_transcript Peer.answer t.run .empty
  have helapses := elapses_timeline Peer.keepsTime t.run .empty
  exact ⟨by rfl, hresult, Direct.fetch_repeats helapses hcourse⟩

end Amqp
end TaskQueue
