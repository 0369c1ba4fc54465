import TaskQueue.Proofs.Amqp.Keeping

/-!
# `TaskQueue.Proofs.Amqp.Faults`: requests that fail at any point

The broker of `Peer` fails the methods that it is set to fail, and always in the same way. Here
any request may fail, each in its own way: the broker may have carried it out or not, and the
channel is lost or the whole connection. `Trial` is a peer with a list of such fates for the
requests that come next; a client that runs out of fates is back with the broker as it is
(`Trial.run_unharmed`).

A fault ends the channel, and what the channel holds goes back to its queue. `Settles` says of a
state what a fault would leave of the queues. Faults come in at one place, `Trial.attempt_cases`: a
request has the answer of the peer, or it fails with a cut after it or before it.
-/

set_option autoImplicit false

namespace TaskQueue
namespace Amqp

open Attempt (Outcome)

/-- How a request fails. -/
structure Fault where
  /-- What the client is told. -/
  reason : String
  /-- The broker has carried out the request, and only the answer is lost. -/
  carriedOut : Bool
  /-- The connection is lost, not only the channel. -/
  severs : Bool
deriving DecidableEq, Repr

/-- The channel ends, or the whole connection. What the channel has not settled goes back. -/
def Peer.cut (p : Peer) (severs : Bool) : Peer where
  broker := p.broker.endChannel (p.link.channel.getD {})
  link := { isOpen := p.link.isOpen && !severs }
  clock := p.clock

/-- A peer, and what becomes of the requests that come next. -/
structure Trial where
  peer : Peer
  fates : List (Option Fault)
deriving Repr

namespace Trial

/-- Has a request answered by the peer, unless it is its fate to fail. -/
def attempt {α : Type} (real : Peer → Except String α × Peer) (t : Trial) :
    Except String α × Trial :=
  match t.fates with
  | some f :: fates =>
    (.error f.reason, ⟨(if f.carriedOut then (real t.peer).2 else t.peer).cut f.severs, fates⟩)
  | none :: fates => ((real t.peer).1, ⟨(real t.peer).2, fates⟩)
  | [] => ((real t.peer).1, ⟨(real t.peer).2, []⟩)

/-- Answers a request. Looking at the clock and waiting cannot fail. -/
def answer : (q : Request) → Trial → Answer q × Trial
  | .dial url, t => t.attempt (Peer.answer (.dial url))
  | .lease url, t => t.attempt (Peer.answer (.lease url))
  | .call m, t => t.attempt (Peer.answer (.call m))
  | .clock, t => (t.peer.clock, t)
  | .sleep nanoseconds, t =>
    ((), { t with peer := (Peer.answer (.sleep nanoseconds) t.peer).2 })

/-- Without faults, a trial is the broker as it is. -/
theorem run_unharmed {α : Type} (d : Talk α) (p : Peer) :
    (d.run answer ⟨p, []⟩).1 = (d.run Peer.answer p).1 ∧
      (d.run answer ⟨p, []⟩).2.2 = ⟨(d.run Peer.answer p).2.2, []⟩ := by
  induction d generalizing p with
  | done a => exact ⟨rfl, rfl⟩
  | note e d ih => exact ih p
  | ask q k ih => cases q <;> exact ih _ _

end Trial

/-! ## Queues at rest -/

/-- No channel holds a message, and the queues are in such a state. -/
structure Quiet (Q : Queues → Prop) (p : Peer) : Prop where
  queues : Q p.broker.queues
  empty : ∀ c ∈ p.link.channel, c.unsettled = []

/-- The state is one in which a fault may come: after it, the queues are in such a state. -/
def Settles (Q : Queues → Prop) (p : Peer) : Prop := ∀ severs, Quiet Q (p.cut severs)

variable {b : Broker} {queue : String} {p : Peer} {Q : Queues → Prop}

/-- Queues at rest are so in any state that follows from theirs. -/
theorem Quiet.mono {Q' : Queues → Prop} (h : Quiet Q p) (hQ : ∀ qs, Q qs → Q' qs) : Quiet Q' p :=
  ⟨hQ _ h.queues, h.empty⟩

/-- Where there is no channel, none holds a message. -/
theorem Quiet.of_none (hqueues : Q p.broker.queues) (hc : p.link.channel = none) : Quiet Q p :=
  ⟨hqueues, by rw [hc]; intro c hc; cases hc⟩

/-- Where no message is held, a fault puts none back. -/
theorem Quiet.settles (h : Quiet Q p) : Settles Q p := by
  intro severs
  refine .of_none ?_ rfl
  rw [Peer.cut, endChannel_getD p.broker h.empty]
  exact h.queues

/-- The messages of the queue are as they were on the broker `b`. -/
def Same (b : Broker) (queue : String) (qs : Queues) : Prop :=
  qs.messages queue = b.queues.messages queue

/-- A queue whose messages are as they were is at rest. -/
theorem AtRest.quiet (h : AtRest b queue p) : Quiet (Same b queue) p := ⟨h.messages, h.empty⟩

/-- A message in hand goes back. -/
theorem InHand.settles {d : Delivery} (h : InHand b queue d p) : Settles (Same b queue) p := by
  intro severs
  obtain ⟨c, hc, hheld⟩ := h.channel
  obtain ⟨rest, hrest, hfirst⟩ := h.messages
  refine .of_none ?_ rfl
  simp [Peer.cut, hc, Broker.endChannel, hheld, Broker.putBackAll, Broker.putBack, Same,
    putBack_messages d.message hrest, hfirst]

/-- A fault leaves the queue as it was, whether or not a message was taken from it. -/
theorem Got.settles {taken : Option Delivery} (h : Got b queue taken p) :
    Settles (Same b queue) p := by
  cases taken with
  | none => exact h.1.atRest.quiet.settles
  | some d => exact InHand.settles h

/-! ## Acknowledging and deleting -/

/-- The queue is gone. -/
def Gone (queue : String) (qs : Queues) : Prop := qs.get? queue = none

/-- What may be left of a queue when the message that came first is being acknowledged and the queue
deleted: everything, the other messages, or nothing. -/
def Torn (b : Broker) (queue : String) (qs : Queues) : Prop :=
  Same b queue qs ∨ qs.messages queue = (b.queues.messages queue).tail ∨ Gone queue qs

/-- The message is acknowledged and out of its queue, in which the others still are. Or the
acknowledgement was not taken: then the channel is gone, and the message is back. -/
inductive Acked (b : Broker) (queue : String) (p : Peer) : Prop where
  | taken {c : Channel} (up : p.broker.listening = true) (isOpen : p.link.isOpen = true)
      (channel : p.link.channel = some c) (empty : c.unsettled = [])
      (left : p.broker.queues.messages queue = (b.queues.messages queue).tail)
  | refused (atRest : AtRest b queue p) (channel : p.link.channel = none)

/-- After an acknowledgement the queue is at rest, with or without the message. -/
theorem Acked.quiet (h : Acked b queue p) : Quiet (Torn b queue) p := by
  cases h with
  | taken up isOpen channel empty left =>
    refine ⟨.inr (.inl left), fun c hc => ?_⟩
    rw [channel, Option.mem_some] at hc
    rw [← hc, empty]
  | refused atRest channel => exact atRest.quiet.mono fun _ hqs => .inl hqs

/-- An acknowledgement is not answered. If it fails, the message goes back with the channel. -/
theorem answer_ack_acked {d : Delivery} (h : InHand b queue d p) :
    Replied (fun _ => Acked b queue) (fun _ => False)
      (Peer.answer (.call (.basicAck d.tag false)) p).1
      (Peer.answer (.call (.basicAck d.tag false)) p).2 := by
  obtain ⟨c, hc, hheld⟩ := h.channel
  obtain ⟨rest, hrest, hfirst⟩ := h.messages
  have hcall := call_eq_callOn (m := .basicAck d.tag false) trivial h.up h.isOpen hc
  simp only [Peer.answer, hcall, Broker.callOn]
  split
  · exact .refused (h.ended hc _ _ rfl _) rfl
  · refine .taken h.up rfl rfl (by simp [Broker.execute, hheld]) ?_
    rw [hfirst]
    simp [Broker.execute, Broker.record, Queues.messages, hrest]

/-- A queue that was deleted is not there. -/
theorem Queues.get?_remove (queue : String) (qs : Queues) :
    (qs.remove queue).get? queue = none := by
  induction qs with
  | nil => rfl
  | cons q rest ih =>
    by_cases h : q.1 = queue
    · simpa [Queues.remove, h] using ih
    · simpa [Queues.remove, Queues.get?, h] using ih

/-- Deleting the queue deletes all that is left in it, or it fails. -/
theorem answer_delete_acked (h : Acked b queue p) :
    Replied (fun _ => Quiet (Gone queue)) (Quiet (Torn b queue))
      (Peer.answer (.call (.queueDelete queue false false)) p).1
      (Peer.answer (.call (.queueDelete queue false false)) p).2 := by
  cases h with
  | @taken c up isOpen channel empty left =>
    have hcall := call_eq_callOn (m := .queueDelete queue false false) trivial up isOpen channel
    simp only [Peer.answer, hcall, Broker.callOn]
    split
    · refine .of_none (.inr (.inl ?_)) rfl
      rw [endChannel_empty _ empty]
      exact left
    · refine ⟨Queues.get?_remove queue _, fun c' hc' => ?_⟩
      simp only [Broker.execute, Option.mem_def, Option.some.injEq] at hc'
      rw [← hc', empty]
  | refused atRest channel =>
    -- Without a channel nothing is deleted.
    have hquiet : Quiet (Torn b queue) p := (Acked.refused atRest channel).quiet
    cases hup : (p.broker.listening && p.link.isOpen) with
    | false =>
      simp only [Peer.answer, Broker.call, hup]
      exact .of_none hquiet.queues rfl
    | true =>
      simp only [Peer.answer, Broker.call, hup, channel]
      exact ⟨hquiet.queues, hquiet.empty⟩

/-- A connection that is taken up holds nothing either. -/
theorem answer_lease_atRest (h : AtRest b queue p) (url : String) :
    Replied (fun _ p' => Linked b queue p' ∧ AtRest b queue p') (Unreached b queue url)
      (Peer.answer (.lease url) p).1 (Peer.answer (.lease url) p).2 := by
  rcases answer_lease_cases p url with ⟨hup, hopen, hsame⟩ | hdial
  · rw [hsame]
    exact ⟨⟨h.toKept, hup, hopen⟩, h⟩
  · rw [hdial]
    exact answer_dial h.toKept url

/-! ## Requests of a trial -/

namespace Trial

variable {α : Type} {R : α → Peer → Prop} {E : Peer → Prop}

/-- A request has the outcome that the peer gives it, or it fails, and there is a cut after it or
before it. -/
theorem attempt_cases (real : Peer → Except String α × Peer) (t : Trial) :
    ((t.attempt real).1 = (real t.peer).1 ∧ (t.attempt real).2.peer = (real t.peer).2) ∨
      ∃ reason, (t.attempt real).1 = .error reason ∧
        ∃ severs, (t.attempt real).2.peer = (real t.peer).2.cut severs ∨
          (t.attempt real).2.peer = t.peer.cut severs := by
  rcases t with ⟨peer, _ | ⟨_ | f, fates⟩⟩
  · exact .inl ⟨rfl, rfl⟩
  · exact .inl ⟨rfl, rfl⟩
  · refine .inr ⟨f.reason, rfl, f.severs, ?_⟩
    cases hf : f.carriedOut with
    | true => exact .inl (by simp [attempt, hf])
    | false => exact .inr (by simp [attempt, hf])

/-- A request that is answered has the outcome of its answer, and one that fails leaves what its
faults leave. -/
theorem attempt_replied {real : Peer → Except String α × Peer} {t : Trial}
    (hbefore : Settles Q t.peer) (h : Replied R E (real t.peer).1 (real t.peer).2)
    (hR : ∀ a p, R a p → Settles Q p) (hE : ∀ p, E p → Quiet Q p) :
    Replied R (Quiet Q) (t.attempt real).1 (t.attempt real).2.peer := by
  have hreal : Replied R (Quiet Q) (real t.peer).1 (real t.peer).2 := by
    revert h
    cases (real t.peer).1 with
    | ok a => exact fun h => h
    | error reason => exact hE _
  -- The broker may have carried the request out before it failed.
  have hafter : Settles Q (real t.peer).2 := by
    revert h
    cases (real t.peer).1 with
    | ok a => exact hR a _
    | error reason => exact fun h => (hE _ h).settles
  rcases attempt_cases real t with ⟨hanswer, hpeer⟩ | ⟨reason, hanswer, severs, hcut | hcut⟩
  · rw [hanswer, hpeer]
    exact hreal
  · rw [hanswer, hcut]
    exact hafter severs
  · rw [hanswer, hcut]
    exact hbefore severs

/-- Calling a method, from what the peer makes of it. -/
theorem call_triple {m : Method} {P : Peer → Prop} {R : m.Reply → Peer → Prop}
    (h : ∀ p, P p → Replied R E (Peer.answer (.call m) p).1 (Peer.answer (.call m) p).2)
    (hP : ∀ p, P p → Settles Q p) (hR : ∀ a p, R a p → Settles Q p)
    (hE : ∀ p, E p → Quiet Q p) :
    Dialogue.Triple answer (fun t => P t.peer) (call m) fun r t => Replied R (Quiet Q) r t.peer :=
  .ask (M := fun r t => Replied R (Quiet Q) r t.peer)
    (fun _ ht => attempt_replied (hP _ ht) (h _ ht) hR hE) fun _ => .done fun _ hs => hs

/-- What leaves quiet queues as they are does so in a trial. -/
theorem answer_quiet {m : Method}
    (hm : ∀ p, Quiet Q p → Quiet Q (Peer.answer (.call m) p).2) (t : Trial)
    (h : Quiet Q t.peer) : Quiet Q (answer (.call m) t).2.peer := by
  rcases attempt_cases (Peer.answer (.call m)) t with ⟨-, hreal⟩ | ⟨-, -, severs, hcut | hcut⟩
  · rw [answer, hreal]
    exact hm t.peer h
  · rw [answer, hcut]
    exact (hm t.peer h).settles severs
  · rw [answer, hcut]
    exact h.settles severs

/-- Closing the channel leaves the queues at rest, also if the close is lost. -/
theorem closeChannel_triple :
    Dialogue.Triple answer (fun t => Quiet Q t.peer) closeChannel fun _ t => Quiet Q t.peer := by
  refine closing_triple _ (answer_quiet fun p h => ?_)
  obtain ⟨log, link, hp, hlink⟩ := answer_channelClose_eq h.empty closeCode closeText
  rw [hp]
  exact ⟨h.queues, hlink⟩

/-- So does closing the connection. -/
theorem closeConnection_triple :
    Dialogue.Triple answer (fun t => Quiet Q t.peer) closeConnection
      fun _ t => Quiet Q t.peer := by
  refine closing_triple _ (answer_quiet fun p h => ?_)
  obtain ⟨log, link, hp, hlink⟩ := answer_connectionClose_eq h.empty closeCode closeText
  rw [hp]
  exact ⟨h.queues, hlink⟩

/-- Dialling leads to a new connection, or it fails; in any case no message is moved. -/
theorem dial_triple (fault : String → ConnectorError) (url : String) :
    Attempt.Triple answer (fun t => AtRest b queue t.peer) (demand fault (dial url))
      (fun _ t => Linked b queue t.peer ∧ AtRest b queue t.peer)
      (fun e t => ∃ reason, e = fault reason ∧ Quiet (Same b queue) t.peer) := by
  have hdial : Dialogue.Triple answer (fun t => AtRest b queue t.peer) (dial url) fun r t =>
      Replied (fun _ p => Linked b queue p ∧ AtRest b queue p) (Quiet (Same b queue)) r t.peer := by
    refine .ask (fun t ht => ?_) fun _ => .done fun _ h => h
    exact attempt_replied ht.quiet.settles (answer_dial ht.toKept url)
      (fun _ _ h => h.2.quiet.settles) fun _ h => h.1.quiet
  exact demand_triple fault hdial

/-- So does taking up a connection, unless it is still there. -/
theorem lease_triple (fault : String → ConnectorError) (url : String) :
    Attempt.Triple answer (fun t => AtRest b queue t.peer) (demand fault (lease url))
      (fun _ t => Linked b queue t.peer ∧ AtRest b queue t.peer)
      (fun e t => ∃ reason, e = fault reason ∧ Quiet (Same b queue) t.peer) := by
  have hlease : Dialogue.Triple answer (fun t => AtRest b queue t.peer) (lease url) fun r t =>
      Replied (fun _ p => Linked b queue p ∧ AtRest b queue p) (Quiet (Same b queue)) r t.peer := by
    refine .ask (fun t ht => ?_) fun _ => .done fun _ h => h
    exact attempt_replied ht.quiet.settles (answer_lease_atRest ht url)
      (fun _ _ h => h.2.quiet.settles) fun _ h => h.1.quiet
  exact demand_triple fault hlease

end Trial

end Amqp
end TaskQueue
