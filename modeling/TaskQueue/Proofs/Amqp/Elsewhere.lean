import TaskQueue.Proofs.Amqp.Faults

/-!
# `TaskQueue.Proofs.Amqp.Elsewhere`: queues that a fetch does not speak of

A fetch asks for the queue of its task and for no other (`Dialogue.Asks`), and
`Trial.answer_elsewhere` says that the messages of a queue stay where they are as long as nobody
takes one from it or deletes it. Faults make no difference: what goes back when a channel ends goes
to where it came from.
-/

set_option autoImplicit false

namespace TaskQueue

namespace Amqp

/-- The request takes no message from the queue and does not delete it. -/
def Request.Spares (other : String) : Request → Prop
  | .call (.basicGet queue _) => queue ≠ other
  | .call (.queueDelete queue _ _) => queue ≠ other
  | _ => True

/-! ## The broker -/

namespace Queues

variable {queue other : String}

/-- A change to one queue is none to another. -/
theorem messages_modify_of_ne (h : queue ≠ other) (f : List ResultMessage → List ResultMessage)
    (qs : Queues) : (qs.modify queue f).messages other = qs.messages other := by
  induction qs with
  | nil => rfl
  | cons q rest ih =>
    by_cases hq : q.1 = queue
    · have hne : q.1 ≠ other := fun ho => h (hq.symm.trans ho)
      simp [modify, messages, get?, hq, h]
    · by_cases ho : q.1 = other
      · simp [modify, messages, get?, ho, Ne.symm h]
      · simpa [modify, messages, get?, hq, ho] using ih

/-- Removing one queue leaves another as it is. -/
theorem messages_remove_of_ne (h : queue ≠ other) (qs : Queues) :
    (qs.remove queue).messages other = qs.messages other := by
  induction qs with
  | nil => rfl
  | cons q rest ih =>
    by_cases hq : q.1 = queue
    · simpa [remove, messages, get?, hq, h] using ih
    · by_cases ho : q.1 = other
      · simp [remove, messages, get?, ho, Ne.symm h]
      · simpa [remove, messages, get?, hq, ho] using ih

end Queues

variable {other : String} {ms : List ResultMessage}

/-- Messages that come from other queues go back to these. -/
theorem putBackAll_elsewhere {us : List Unsettled} (h : ∀ u ∈ us, u.queue ≠ other) (b : Broker) :
    (b.putBackAll us).queues.messages other = b.queues.messages other := by
  induction us with
  | nil => rfl
  | cons u us ih =>
    have hrest := ih fun v hv => h v (List.mem_cons_of_mem _ hv)
    exact (Queues.messages_modify_of_ne (h u List.mem_cons_self) _ _).trans hrest

/-- The queue has these messages, and no channel holds one that comes from it. -/
structure Elsewhere (other : String) (ms : List ResultMessage) (p : Peer) : Prop where
  messages : p.broker.queues.messages other = ms
  held : ∀ c ∈ p.link.channel, ∀ u ∈ c.unsettled, u.queue ≠ other

/-- A method that is executed on a channel. -/
theorem execute_elsewhere {b : Broker} {c : Channel} {m : Method}
    (hm : Request.Spares other (.call m)) (hb : b.queues.messages other = ms)
    (hc : ∀ u ∈ c.unsettled, u.queue ≠ other) :
    (b.execute c m).2.2.queues.messages other = ms ∧
      ∀ u ∈ (b.execute c m).2.1.unsettled, u.queue ≠ other := by
  have hfilter : ∀ f : Unsettled → Bool, ∀ u ∈ c.unsettled.filter f, u.queue ≠ other :=
    fun f u hu => hc u ((List.mem_filter.1 hu).1)
  cases m with
  | queueDeclare queue flags arguments =>
    exact ⟨(Queues.messages_declare other queue b.queues).trans hb, hc⟩
  | queueDelete queue ifUnused ifEmpty =>
    exact ⟨(Queues.messages_remove_of_ne hm b.queues).trans hb, hc⟩
  | basicGet queue noAck =>
    -- What is taken comes from the queue that was asked for, and that is another one.
    simp only [Broker.execute, Broker.take]
    split
    · refine ⟨(Queues.messages_modify_of_ne hm _ b.queues).trans hb, fun u hu => ?_⟩
      rcases List.mem_append.1 hu with hu | hu
      · exact hc u hu
      · rw [List.mem_singleton.1 hu]
        exact hm
    · exact ⟨hb, hc⟩
  | basicAck tag multiple => exact ⟨hb, hfilter _⟩
  | basicNack tag multiple requeue =>
    -- What is given back goes to the queue that it came from.
    refine ⟨?_, hfilter _⟩
    cases requeue with
    | false => exact hb
    | true => exact (putBackAll_elsewhere (hfilter _) b).trans hb
  | _ => exact ⟨hb, hc⟩

/-- A method that is called on a channel: it is executed, or the channel ends. -/
theorem callOn_elsewhere {b : Broker} {c : Channel} {m : Method}
    (hm : Request.Spares other (.call m)) (hb : b.queues.messages other = ms)
    (hc : ∀ u ∈ c.unsettled, u.queue ≠ other) :
    (b.callOn c m).2.2.queues.messages other = ms ∧
      ∀ c' ∈ (b.callOn c m).2.1.channel, ∀ u ∈ c'.unsettled, u.queue ≠ other := by
  unfold Broker.callOn
  dsimp only
  split
  · exact ⟨(putBackAll_elsewhere hc (b.record m)).trans hb, nofun⟩
  · obtain ⟨hqueues, hheld⟩ := execute_elsewhere (b := b.record m) hm hb hc
    refine ⟨hqueues, fun c' hc' => ?_⟩
    rw [Option.mem_def, Option.some.injEq] at hc'
    rw [← hc']
    exact hheld

/-- A method that is called on a connection, whatever comes of it. -/
theorem call_elsewhere {b : Broker} {l : Link} {m : Method} (hm : Request.Spares other (.call m))
    (hb : b.queues.messages other = ms)
    (hl : ∀ c ∈ l.channel, ∀ u ∈ c.unsettled, u.queue ≠ other) :
    (b.call l m).2.2.queues.messages other = ms ∧
      ∀ c ∈ (b.call l m).2.1.channel, ∀ u ∈ c.unsettled, u.queue ≠ other := by
  unfold Broker.call
  split
  · exact ⟨hb, nofun⟩
  obtain ⟨isOpen, channel⟩ := l
  cases m with
  | channelOpen =>
    dsimp only
    split
    · exact ⟨hb, nofun⟩
    · refine ⟨hb, fun c hc => ?_⟩
      rw [Option.mem_def, Option.some.injEq] at hc
      rw [← hc]
      nofun
  | connectionClose code text =>
    refine ⟨(putBackAll_elsewhere ?_ (b.record (.connectionClose code text))).trans hb, nofun⟩
    cases channel with
    | none => nofun
    | some c => exact hl c rfl
  | channelClose code text =>
    cases channel with
    | none => exact ⟨hb, nofun⟩
    | some c =>
      exact ⟨(putBackAll_elsewhere (hl c rfl) (b.record (.channelClose code text))).trans hb,
        nofun⟩
  -- Every other method is called on the channel, if there is one.
  | _ =>
    cases channel with
    | none => exact ⟨hb, hl⟩
    | some c => exact callOn_elsewhere hm hb (hl c rfl)

/-! ## Anybody who answers -/

/-- Dialling touches no queue, and the new link holds nothing. -/
theorem accept_elsewhere (b : Broker) (url : String) :
    (b.accept url).2.2.queues = b.queues ∧ (b.accept url).2.1.channel = none := by
  obtain ⟨r, link, log, h, hchannel, -⟩ := b.accept_cases url
  rw [h]
  exact ⟨rfl, hchannel⟩

/-- Any request that spares the queue leaves it as it is. -/
theorem Peer.answer_elsewhere {q : Request} {p : Peer} (hq : q.Spares other)
    (h : Elsewhere other ms p) : Elsewhere other ms (Peer.answer q p).2 := by
  -- A connection begins without a channel, so nothing of the queue is held over it.
  have hdial : ∀ url, Elsewhere other ms (Peer.answer (.dial url) p).2 := fun url => by
    obtain ⟨hqueues, hchannel⟩ := accept_elsewhere p.broker url
    refine ⟨(congrArg (Queues.messages other) hqueues).trans h.messages, fun c hc => ?_⟩
    rw [show (Peer.answer (.dial url) p).2.link.channel = none from hchannel] at hc
    cases hc
  cases q with
  | dial url => exact hdial url
  | lease url =>
    rcases answer_lease_cases p url with ⟨-, -, hsame⟩ | hsame
    · rw [hsame]
      exact h
    · rw [hsame]
      exact hdial url
  | call m =>
    obtain ⟨hqueues, hheld⟩ := call_elsewhere hq h.messages h.held
    exact ⟨hqueues, hheld⟩
  | clock => exact h
  | sleep nanoseconds => exact ⟨h.messages, h.held⟩

/-- A fault that cuts the connection does not reach the queue, since nothing of it is held. -/
theorem Elsewhere.cut {p : Peer} (h : Elsewhere other ms p) (severs : Bool) :
    Elsewhere other ms (p.cut severs) := by
  refine ⟨(putBackAll_elsewhere ?_ p.broker).trans h.messages, nofun⟩
  cases hc : p.link.channel with
  | none => nofun
  | some c => exact h.held c hc

/-- Whatever becomes of a request, the queue stays as it is if the request itself leaves it so. -/
theorem Trial.attempt_elsewhere {α : Type} {real : Peer → Except String α × Peer} {t : Trial}
    (hreal : Elsewhere other ms (real t.peer).2) (h : Elsewhere other ms t.peer) :
    Elsewhere other ms (t.attempt real).2.peer := by
  rcases attempt_cases real t with ⟨-, hpeer⟩ | ⟨-, -, severs, hcut | hcut⟩
  · rw [hpeer]
    exact hreal
  · rw [hcut]
    exact hreal.cut severs
  · rw [hcut]
    exact h.cut severs

/-- Requests that spare a queue leave its messages where they are, whatever becomes of them. -/
theorem Trial.answer_elsewhere {q : Request} {t : Trial} (hq : q.Spares other)
    (h : Elsewhere other ms t.peer) : Elsewhere other ms (Trial.answer q t).2.peer := by
  have hreal := Peer.answer_elsewhere hq h
  cases q with
  | dial url => exact attempt_elsewhere hreal h
  | lease url => exact attempt_elsewhere hreal h
  | call m => exact attempt_elsewhere hreal h
  | clock => exact h
  | sleep nanoseconds => exact hreal

/-! ## What a fetch asks for -/

section
variable {α : Type} {id : TaskId}

/-- Giving up on an error adds no request. -/
theorem demand_asks {fault : String → ConnectorError} {t : Talk (Except String α)}
    {P : Request → Prop} (ht : t.Asks P) : (demand fault t).run.Asks P := by
  refine Dialogue.Asks.bind ht fun r => ?_
  cases r with
  | ok a => exact .done _
  | error reason => exact .done _

/-- A method is called by one request. -/
theorem call_asks {m : Method} (h : Request.Spares other (.call m)) :
    (call m).Asks (Request.Spares other) := .ask h fun _ => .done _

/-- A close makes one request, whatever it is answered. -/
theorem closing_asks {what : String} {m : Method} (h : Request.Spares other (.call m)) :
    (closing what m).Asks (Request.Spares other) := by
  refine Dialogue.Asks.bind (call_asks h) fun r => ?_
  cases r with
  | ok a => exact .done _
  | error reason => exact .note (.done _)

/-- Declaring a queue spares every queue. -/
theorem declareResultQueue_asks (d : Descriptor) (queue : String) :
    (declareResultQueue d queue).run.Asks (Request.Spares other) :=
  Attempt.asks_bind (demand_asks (call_asks trivial)) fun _ => demand_asks (call_asks trivial)

/-- Finding nothing asks for nothing. -/
theorem notReady_asks : (notReady id).run.Asks (Request.Spares other) :=
  Attempt.asks_bind (.note (.done _)) fun _ => .done _

/-- A dialogue with such requests only leaves the queue alone. -/
theorem talk_elsewhere {t : Talk α} (ht : t.Asks (Request.Spares other)) :
    Dialogue.Triple Trial.answer (fun t => Elsewhere other ms t.peer) t
      fun _ t => Elsewhere other ms t.peer :=
  ht.triple fun _ hq _ h => Trial.answer_elsewhere hq h

/-- What makes no other requests than those that spare the queue leaves it as it is. -/
theorem try_elsewhere {t : Try α} (ht : t.run.Asks (Request.Spares other)) :
    Attempt.Triple Trial.answer (fun t => Elsewhere other ms t.peer) t
      (fun _ t => Elsewhere other ms t.peer) fun _ t => Elsewhere other ms t.peer := by
  refine Dialogue.Triple.mono (talk_elsewhere ht) (fun _ h => h) fun r _ h => ?_
  cases r with
  | ok a => exact h
  | error e => exact h

variable (hother : id.resultQueue ≠ other)
include hother

/-- Getting a message of one task spares the queue of another. -/
theorem getOne_asks : (getOne id.resultQueue).run.Asks (Request.Spares other) :=
  demand_asks (call_asks hother)

/-- So does settling it, which may delete the queue of its own task. -/
theorem settle_asks (delivery : Delivery) (remove : Bool) :
    (settle id.resultQueue delivery remove).run.Asks (Request.Spares other) := by
  cases remove with
  | false =>
    exact Attempt.asks_bind (demand_asks (call_asks trivial)) fun _ => .done _
  | true =>
    exact Attempt.asks_bind (demand_asks (call_asks trivial)) fun _ =>
      Attempt.asks_bind (demand_asks (call_asks hother)) fun _ => .done _

/-- So do all parts of a fetch. -/
theorem fetchRules_elsewhere (d : Descriptor) (remove : Bool) :
    FetchRules Trial.answer d id remove (fun t => Elsewhere other ms t.peer)
      (fun t => Elsewhere other ms t.peer) (fun _ t => Elsewhere other ms t.peer)
      fun _ t => Elsewhere other ms t.peer where
  channelOpen := by
    refine .mono (talk_elsewhere (call_asks trivial)) (fun _ h => h) fun r _ h => ?_
    cases r with
    | ok a => exact h
    | error reason => exact h
  declare := try_elsewhere (declareResultQueue_asks d _)
  getOne := try_elsewhere (getOne_asks hother)
  settle delivery := try_elsewhere (settle_asks hother delivery remove)
  notReady := try_elsewhere notReady_asks
  again _ h := h
  clock _ := rfl
  sleep _ _ h := ⟨h.messages, h.held⟩
  closeChannel _ := talk_elsewhere (closing_asks trivial)
  closeConnection _ := talk_elsewhere (closing_asks trivial)

/-- And so do the fetches of both connectors. -/
theorem Native.fetch_elsewhere (d : Descriptor) (remove : Bool) :
    Ending Trial.answer (fun t => Elsewhere other ms t.peer) (Native.fetch d id remove)
      fun _ t => Elsewhere other ms t.peer :=
  (fetchRules_elsewhere hother d remove).native
    (try_elsewhere (demand_asks (.ask trivial fun _ => .done _)))

/-- A fetch of the direct connector leaves the queue of another task as it is. -/
theorem Direct.fetch_elsewhere (c : Direct) (remove : Bool) :
    Ending Trial.answer (fun t => Elsewhere other ms t.peer) (c.fetch id remove)
      fun _ t => Elsewhere other ms t.peer := by
  cases hc : c.connected with
  | false =>
    rw [Direct.fetch, Direct.inSession, hc]
    exact .done fun _ h => h
  | true =>
    exact (fetchRules_elsewhere hother c.descriptor remove).direct rfl hc
      (try_elsewhere (demand_asks (.ask trivial fun _ => .done _)))

end

end Amqp
end TaskQueue
