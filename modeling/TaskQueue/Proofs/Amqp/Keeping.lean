import TaskQueue.Amqp.Broker
import TaskQueue.Proofs.Amqp.Fetch

/-!
# `TaskQueue.Proofs.Amqp.Keeping`: what a fetch over AMQP reports and keeps

`Amqp.Broker.found` says what the broker has for a task. The two main theorems,
`Native.fetch_triple` and `Direct.fetch_triple`, say that a fetch reports it. If a fetch reports
something else, then a method failed or the broker could not be reached. A fetch that does not
remove leaves the messages of the queue as they are, whatever fails on the way.

The proofs follow a message. At first no channel holds one (`AtRest`), then the channel is open
(`Ready`), then it holds the message that was taken (`InHand`). From there a message that is kept
is at rest again, and one that is removed is acknowledged (`Spent`).
-/

set_option autoImplicit false

namespace TaskQueue
namespace Amqp

open Attempt (Outcome)

/-! ## Queues -/

namespace Queues

/-- The messages in a queue. One that is not there has none. -/
def messages (queue : String) (qs : Queues) : List ResultMessage := (qs.get? queue).getD []

/-- A queue that is looked up after a change has the changed messages. -/
theorem get?_modify (queue : String) (f : List ResultMessage → List ResultMessage) (qs : Queues) :
    (qs.modify queue f).get? queue = (qs.get? queue).map f := by
  induction qs with
  | nil => rfl
  | cons q rest ih =>
    by_cases h : q.1 = queue
    · simp [modify, get?, h]
    · simp [modify, get?, h, ih]

/-- A queue that is new has no messages. -/
theorem get?_append_nil {queue other : String} {qs : Queues} (h : qs.get? queue = none) :
    (get? queue (qs ++ [(other, [])])).getD [] = [] := by
  induction qs with
  | nil =>
    by_cases ho : other = queue <;> simp [get?, ho]
  | cons q rest ih =>
    by_cases hq : q.1 = queue
    · simp [get?, hq] at h
    · rw [get?, if_neg hq] at h
      simp [get?, hq, ih h]

/-- A queue that is found first is found also if there are more behind it. -/
theorem get?_append {queue : String} {ms : List ResultMessage} {qs : Queues} (more : Queues)
    (h : qs.get? queue = some ms) : get? queue (qs ++ more) = some ms := by
  induction qs with
  | nil => cases h
  | cons q rest ih =>
    by_cases hq : q.1 = queue
    · simpa [get?, hq] using h
    · rw [get?, if_neg hq] at h
      simp [get?, hq, ih h]

/-- Declaring a queue adds and removes no message. -/
@[simp] theorem messages_declare (queue other : String) (qs : Queues) :
    messages queue (qs.declare other) = messages queue qs := by
  unfold declare
  split
  · rfl
  · cases h : qs.get? queue with
    | none => rw [messages, messages, get?_append_nil h, h, Option.getD_none]
    | some ms => rw [messages, messages, get?_append _ h, h]

end Queues

/-! ## The broker -/

namespace Broker

/-- What a broker has for a task, as a fetch reports it. -/
def found (b : Broker) (id : TaskId) : Found :=
  match (b.queues.messages id.resultQueue).head? with
  | none => .ok none
  | some m => (checked m).map some

/-- The URL leads to the broker, and no method fails. -/
def Calm (b : Broker) (url : String) : Prop := b.failing = [] ∧ (b.accept url).1 = .ok ()

/-- Dialling logs methods, and opens a link without a channel if it succeeds. -/
theorem accept_cases (b : Broker) (url : String) :
    ∃ r link log, b.accept url = (r, link, { b with log }) ∧ link.channel = none ∧
      (r = .ok () → link.isOpen = true ∧ b.listening = true) := by
  unfold accept
  split
  · exact ⟨_, {}, b.log, rfl, rfl, nofun⟩
  · rename_i u _
    split
    · exact ⟨_, {}, b.log, rfl, rfl, nofun⟩
    -- From here on the broker was reached, which it is only while it listens.
    · rename_i hreached
      have hlistening : b.listening = true := by
        simp only [isReachedBy, Bool.not_eq_true', Bool.and_eq_true, Bool.not_eq_false] at hreached
        exact hreached.1.1.1
      dsimp only
      split
      · exact ⟨_, {}, _, rfl, rfl, nofun⟩
      · split
        · exact ⟨_, {}, _, rfl, rfl, nofun⟩
        · exact ⟨_, { isOpen := true }, _, rfl, rfl, fun _ => ⟨rfl, hlistening⟩⟩

/-- Whether dialling succeeds is up to the settings of the broker. -/
theorem accept_congr {b b' : Broker} (hl : b'.listening = b.listening)
    (hf : b'.failing = b.failing) (url : String) : (b'.accept url).1 = (b.accept url).1 := by
  unfold accept
  split
  · rfl
  · rename_i u _
    have hreached : b'.isReachedBy u = b.isReachedBy u := by simp only [isReachedBy, hl]
    -- What is left to decide it are the two methods of the introduction.
    simp only [hreached, fails, record, hf]
    by_cases h : b.isReachedBy u = true
    · by_cases hs : (introduction u).1.name ∈ b.failing <;>
        by_cases ho : (introduction u).2.name ∈ b.failing <;> simp [h, hs, ho]
    · simp [h]

end Broker

/-! ## Where the message is -/

variable {b₀ : Broker} {queue : String} {p : Peer}

/-- The settings of the broker and the messages of the queue are as they were. -/
structure Kept (b₀ : Broker) (queue : String) (p : Peer) : Prop where
  listening : p.broker.listening = b₀.listening
  failing : p.broker.failing = b₀.failing
  messages : p.broker.queues.messages queue = b₀.queues.messages queue

/-- What is found for a task is up to the messages of its queue. -/
theorem Kept.found {id : TaskId} (h : Kept b₀ id.resultQueue p) :
    p.broker.found id = b₀.found id := by
  rw [Broker.found, Broker.found, h.messages]

/-- A calm broker stays calm. -/
theorem Kept.calm {url : String} (h : Kept b₀ queue p) (hcalm : b₀.Calm url) :
    p.broker.Calm url :=
  ⟨h.failing.trans hcalm.1, (Broker.accept_congr h.listening h.failing url).trans hcalm.2⟩

/-- No channel holds a message. -/
structure AtRest (b₀ : Broker) (queue : String) (p : Peer) : Prop extends Kept b₀ queue p where
  empty : ∀ c ∈ p.link.channel, c.unsettled = []

/-- The connection is there. -/
structure Linked (b₀ : Broker) (queue : String) (p : Peer) : Prop extends Kept b₀ queue p where
  up : p.broker.listening = true
  isOpen : p.link.isOpen = true

/-- A channel is open, and it holds no message. -/
structure Ready (b₀ : Broker) (queue : String) (p : Peer) : Prop extends Linked b₀ queue p where
  channel : ∃ c, p.link.channel = some c ∧ c.unsettled = []

/-- A channel holds the message that was first in the queue. -/
structure InHand (b₀ : Broker) (queue : String) (d : Delivery) (p : Peer) : Prop where
  listening : p.broker.listening = b₀.listening
  failing : p.broker.failing = b₀.failing
  up : p.broker.listening = true
  isOpen : p.link.isOpen = true
  channel : ∃ c, p.link.channel = some c ∧ c.unsettled = [⟨queue, d⟩]
  messages : ∃ rest, p.broker.queues.get? queue = some rest ∧
    b₀.queues.messages queue = d.message :: rest

/-- A channel that is ready holds no message. -/
theorem Ready.atRest (h : Ready b₀ queue p) : AtRest b₀ queue p where
  toKept := h.toKept
  empty c hc := by
    obtain ⟨c', hc', hempty⟩ := h.channel
    rw [hc', Option.mem_some] at hc
    rw [← hc, hempty]

/-- The message in hand is the one that was first in the queue. -/
theorem InHand.first {d : Delivery} (h : InHand b₀ queue d p) :
    (b₀.queues.messages queue).head? = some d.message := by
  obtain ⟨rest, -, hfirst⟩ := h.messages
  rw [hfirst]
  rfl

/-- Nothing is in hand, and something failed. -/
def Stopped (b₀ : Broker) (queue : String) (p : Peer) : Prop :=
  AtRest b₀ queue p ∧ b₀.failing ≠ []

/-! ## Methods -/

/-- A method that fails is set to fail. -/
theorem failing_ne_nil {b : Broker} {m : Method} (h : b.fails m = true) : b.failing ≠ [] := by
  intro hnil
  rw [Broker.fails, hnil] at h
  cases h

/-- The method neither opens nor closes anything. -/
def Method.OnChannel : Method → Prop
  | .channelOpen | .channelClose .. | .connectionClose .. => False
  | _ => True

/-- Such a method is called on the channel. -/
theorem call_eq_callOn {c : Channel} {m : Method} (hm : m.OnChannel)
    (hup : p.broker.listening = true) (hopen : p.link.isOpen = true)
    (hc : p.link.channel = some c) : p.broker.call p.link m = p.broker.callOn c m := by
  have hlink : p.link = { isOpen := true, channel := some c } := by rw [← hopen, ← hc]
  rw [hlink]
  cases m with
  | channelOpen => exact hm.elim
  | channelClose => exact hm.elim
  | connectionClose => exact hm.elim
  | _ => simp [Broker.call, hup]

/-- On an open channel that holds nothing, a method that is answered either fails, which changes
nothing but the link, or it is executed. -/
theorem call_ready (h : Ready b₀ queue p) {m : Method} (ha : Broker.isAnswered m = true)
    (hm : m.OnChannel) :
    (∃ reason p', Peer.answer (.call m) p = (.error reason, p') ∧ Stopped b₀ queue p') ∨
    ∃ c, c.unsettled = [] ∧ Peer.answer (.call m) p =
      (.ok ((p.broker.record m).execute c m).1,
        ⟨((p.broker.record m).execute c m).2.2,
          ⟨true, some ((p.broker.record m).execute c m).2.1⟩, p.clock + Peer.methodTime⟩) := by
  obtain ⟨c, hc, hempty⟩ := h.channel
  have hcall := call_eq_callOn hm h.up h.isOpen hc
  cases hf : p.broker.fails m with
  | true =>
    have hfail : (p.broker.record m).fails m = true := hf
    refine .inl ⟨"channel closed", ⟨(p.broker.record m).endChannel c, { isOpen := true },
      p.clock + Peer.methodTime⟩, ?_, ?_, ?_⟩
    · simp only [Peer.answer, hcall, Broker.callOn, hfail, if_true, ha]
    -- The channel ends, but there is nothing that it could give back.
    · have hend : (p.broker.record m).endChannel c = p.broker.record m := by
        rw [Broker.endChannel, hempty]
        rfl
      rw [hend]
      exact ⟨⟨h.listening, h.failing, h.messages⟩, nofun⟩
    · rw [← h.failing]
      exact failing_ne_nil hf
  | false =>
    have hok : (p.broker.record m).fails m = false := hf
    refine .inr ⟨c, hempty, ?_⟩
    simp only [Peer.answer, hcall, Broker.callOn, hok]
    rfl

/-- What holds after a request that may fail. -/
def Replied {α : Type} (R : α → Peer → Prop) (E : Peer → Prop) : Except String α → Peer → Prop
  | .ok a => R a
  | .error _ => E

/-- The broker could not be reached. -/
def Unreached (b₀ : Broker) (queue url : String) (p : Peer) : Prop :=
  AtRest b₀ queue p ∧ ¬ b₀.Calm url

/-- Dialling leads to a new link, or it fails because the broker cannot be reached. -/
theorem answer_dial (h : Kept b₀ queue p) (url : String) :
    Replied (fun _ p' => Linked b₀ queue p' ∧ AtRest b₀ queue p') (Unreached b₀ queue url)
      (Peer.answer (.dial url) p).1 (Peer.answer (.dial url) p).2 := by
  have hcongr := Broker.accept_congr h.listening h.failing url
  obtain ⟨r, link, log, ha, hchannel, hok⟩ := p.broker.accept_cases url
  -- Whatever is answered, the link is a new one and holds no message.
  have hrest : AtRest b₀ queue ⟨{ p.broker with log }, link, p.clock + Peer.methodTime⟩ := by
    refine ⟨⟨h.listening, h.failing, h.messages⟩, fun c hc => ?_⟩
    simp only [hchannel] at hc
    cases hc
  simp only [Peer.answer, ha]
  rw [ha] at hcongr
  cases r with
  | ok =>
    obtain ⟨hopen, hup⟩ := hok rfl
    exact ⟨⟨⟨h.listening, h.failing, h.messages⟩, hup, hopen⟩, hrest⟩
  | error reason =>
    refine ⟨hrest, fun hcalm => ?_⟩
    rw [hcalm.2] at hcongr
    cases hcongr

/-- A connection that is still there is taken up as it is, and otherwise the broker is dialled. -/
theorem answer_lease_cases (p : Peer) (url : String) :
    p.broker.listening = true ∧ p.link.isOpen = true ∧
        Peer.answer (.lease url) p = (.ok (), p) ∨
      Peer.answer (.lease url) p = Peer.answer (.dial url) p := by
  cases hup : p.broker.listening && p.link.isOpen with
  | true =>
    obtain ⟨hlistening, hopen⟩ := Bool.and_eq_true_iff.1 hup
    exact .inl ⟨hlistening, hopen, by simp only [Peer.answer, hup, if_true]⟩
  | false => exact .inr (by simp only [Peer.answer, hup, Bool.false_eq_true, if_false])

/-- So taking up a connection leads to a link or fails like dialling. -/
theorem answer_lease (h : Kept b₀ queue p) (url : String) :
    Replied (fun _ => Linked b₀ queue) (Unreached b₀ queue url)
      (Peer.answer (.lease url) p).1 (Peer.answer (.lease url) p).2 := by
  rcases answer_lease_cases p url with ⟨hup, hopen, hsame⟩ | hdial
  · rw [hsame]
    exact ⟨h, hup, hopen⟩
  · have hreplied := answer_dial h url
    rw [hdial]
    revert hreplied
    cases (Peer.answer (.dial url) p).1 with
    | ok a => exact fun hreplied => hreplied.1
    | error reason => exact fun hreplied => hreplied

/-- A new channel holds nothing. -/
theorem answer_channelOpen (h : Linked b₀ queue p) :
    Replied (fun _ => Ready b₀ queue) (Stopped b₀ queue)
      (Peer.answer (.call .channelOpen) p).1 (Peer.answer (.call .channelOpen) p).2 := by
  have hup : (p.broker.listening && p.link.isOpen) = true := by rw [h.up, h.isOpen]; rfl
  cases hf : (p.broker.record .channelOpen).fails .channelOpen with
  -- A failing method ends the connection, and the list of what fails is not empty then.
  | true =>
    have hcall : p.broker.call p.link .channelOpen =
        (.error "connection closed", {}, p.broker.record .channelOpen) := by
      simp only [Broker.call, hup, hf]
      rfl
    simp only [Peer.answer, hcall]
    refine ⟨⟨⟨h.listening, h.failing, h.messages⟩, nofun⟩, ?_⟩
    rw [← h.failing]
    exact failing_ne_nil hf
  | false =>
    have hcall : p.broker.call p.link .channelOpen =
        (.ok (), { isOpen := true, channel := some {} }, p.broker.record .channelOpen) := by
      simp only [Broker.call, hup, hf]
      rfl
    simp only [Peer.answer, hcall]
    exact ⟨⟨⟨h.listening, h.failing, h.messages⟩, h.up, rfl⟩, {}, rfl, rfl⟩

/-- Declaring a queue moves no message. -/
theorem answer_declare (h : Ready b₀ queue p) (other : String) (flags : QueueFlags)
    (arguments : Table) :
    Replied (fun _ => Ready b₀ queue) (Stopped b₀ queue)
      (Peer.answer (.call (.queueDeclare other flags arguments)) p).1
      (Peer.answer (.call (.queueDeclare other flags arguments)) p).2 := by
  have hmessages : (p.broker.queues.declare other).messages queue = b₀.queues.messages queue := by
    rw [Queues.messages_declare, h.messages]
  rcases call_ready h (m := .queueDeclare other flags arguments) rfl trivial with
    ⟨reason, p', hp, hstopped⟩ | ⟨c, hc, hp⟩
  · rw [hp]
    exact hstopped
  · rw [hp]
    exact ⟨⟨⟨h.listening, h.failing, hmessages⟩, h.up, rfl⟩, c, rfl, hc⟩

/-- So does binding it. -/
theorem answer_bind (h : Ready b₀ queue p) (other exchange routingKey : String) :
    Replied (fun _ => Ready b₀ queue) (Stopped b₀ queue)
      (Peer.answer (.call (.queueBind other exchange routingKey)) p).1
      (Peer.answer (.call (.queueBind other exchange routingKey)) p).2 := by
  rcases call_ready h (m := .queueBind other exchange routingKey) rfl trivial with
    ⟨reason, p', hp, hstopped⟩ | ⟨c, hc, hp⟩
  · rw [hp]
    exact hstopped
  · rw [hp]
    exact ⟨⟨⟨h.listening, h.failing, h.messages⟩, h.up, rfl⟩, c, rfl, hc⟩

/-- What holds when a queue was asked for a message. -/
def Got (b₀ : Broker) (queue : String) : Option Delivery → Peer → Prop
  | none => fun p => Ready b₀ queue p ∧ b₀.queues.messages queue = []
  | some d => InHand b₀ queue d

/-- Getting a message takes the first one, if there is one. -/
theorem answer_get (h : Ready b₀ queue p) :
    Replied (Got b₀ queue) (Stopped b₀ queue)
      (Peer.answer (.call (.basicGet queue false)) p).1
      (Peer.answer (.call (.basicGet queue false)) p).2 := by
  rcases call_ready h (m := .basicGet queue false) rfl trivial with
    ⟨reason, p', hp, hstopped⟩ | ⟨c, hc, hp⟩
  · rw [hp]
    exact hstopped
  · rw [hp]
    have hmessages := h.messages
    -- A queue that is not there and one that is empty are both answered with nothing.
    cases hq : p.broker.queues.get? queue with
    | none =>
      rw [Queues.messages, hq] at hmessages
      simp only [Broker.execute, Broker.take, Broker.record, hq]
      exact ⟨⟨⟨⟨h.listening, h.failing, h.messages⟩, h.up, rfl⟩, c, rfl, hc⟩, hmessages.symm⟩
    | some ms =>
      rw [Queues.messages, hq] at hmessages
      cases ms with
      | nil =>
        simp only [Broker.execute, Broker.take, Broker.record, hq]
        exact ⟨⟨⟨⟨h.listening, h.failing, h.messages⟩, h.up, rfl⟩, c, rfl, hc⟩, hmessages.symm⟩
      | cons m rest =>
        simp only [Broker.execute, Broker.take, Broker.record, hq]
        exact {
          listening := h.listening
          failing := h.failing
          up := h.up
          isOpen := rfl
          channel := ⟨_, rfl, by simp [hc]⟩
          messages := ⟨rest, by simp [Queues.get?_modify, hq], hmessages.symm⟩ }

/-- The message in hand goes back to the front of its queue. -/
theorem putBack_messages {q : Queues} {rest : List ResultMessage} (m : ResultMessage)
    (h : q.get? queue = some rest) : (q.modify queue (m :: ·)).messages queue = m :: rest := by
  rw [Queues.messages, Queues.get?_modify, h]
  rfl

/-- A channel that ends gives back the message in hand. -/
theorem InHand.ended {d : Delivery} (h : InHand b₀ queue d p) {c : Channel}
    (hc : p.link.channel = some c) (m : Method) (link : Link) (hlink : link.channel = none)
    (clock : Nat) : AtRest b₀ queue ⟨(p.broker.record m).endChannel c, link, clock⟩ := by
  obtain ⟨c', hc', hheld⟩ := h.channel
  obtain ⟨rest, hrest, hfirst⟩ := h.messages
  cases hc'.symm.trans hc
  have hend : (p.broker.record m).endChannel c = (p.broker.record m).putBack ⟨queue, d⟩ := by
    rw [Broker.endChannel, hheld]
    rfl
  rw [hend]
  refine ⟨⟨h.listening, h.failing, (putBack_messages d.message hrest).trans hfirst.symm⟩, ?_⟩
  rw [hlink]
  nofun

/-- A message that is not taken goes back, also if the method fails. -/
theorem answer_nack {d : Delivery} (h : InHand b₀ queue d p) :
    Replied (fun _ p' => AtRest b₀ queue p' ∧
        (b₀.queues.messages queue).head? = some d.message)
      (fun _ => False) (Peer.answer (.call (.basicNack d.tag false true)) p).1
      (Peer.answer (.call (.basicNack d.tag false true)) p).2 := by
  obtain ⟨c, hc, hheld⟩ := h.channel
  have hcall := call_eq_callOn (m := .basicNack d.tag false true) trivial h.up h.isOpen hc
  have hhead := h.first
  simp only [Peer.answer, hcall, Broker.callOn]
  -- A nack is not answered. If it fails, then the channel ends, and what it holds goes back all
  -- the same.
  split
  · exact ⟨h.ended hc _ _ rfl _, hhead⟩
  · have hexecuted : (p.broker.record (.basicNack d.tag false true)).execute c
          (.basicNack d.tag false true) =
        ((), { c with unsettled := [] },
          (p.broker.record (.basicNack d.tag false true)).endChannel c) := by
      simp [Broker.execute, Broker.endChannel, hheld]
    rw [hexecuted]
    have hended := (h.ended hc (.basicNack d.tag false true) {} rfl 0).toKept
    refine ⟨⟨⟨hended.listening, hended.failing, hended.messages⟩, fun c' hc' => ?_⟩, hhead⟩
    cases hc'
    rfl

/-- The message that was first in the queue is acknowledged, and the channel is still open unless
something failed. -/
structure Spent (b₀ : Broker) (queue : String) (m : ResultMessage) (p : Peer) : Prop where
  first : (b₀.queues.messages queue).head? = some m
  failing : p.broker.failing = b₀.failing
  channel : b₀.failing ≠ [] ∨ p.broker.listening = true ∧ p.link.isOpen = true ∧
    ∃ c, p.link.channel = some c

/-- An acknowledgement is not answered, so it does not fail. -/
theorem answer_ack {d : Delivery} (h : InHand b₀ queue d p) :
    Replied (fun _ => Spent b₀ queue d.message) (fun _ => False)
      (Peer.answer (.call (.basicAck d.tag false)) p).1
      (Peer.answer (.call (.basicAck d.tag false)) p).2 := by
  obtain ⟨c, hc, -⟩ := h.channel
  have hcall := call_eq_callOn (m := .basicAck d.tag false) trivial h.up h.isOpen hc
  have hhead := h.first
  simp only [Peer.answer, hcall, Broker.callOn]
  -- An acknowledgment that fails ends the link as well, but the message was the first of its queue
  -- either way.
  split
  · rename_i hf
    have hended := h.ended hc (.basicAck d.tag false) {} rfl 0
    refine ⟨hhead, hended.failing, .inl ?_⟩
    rw [← h.failing]
    exact failing_ne_nil hf
  · exact ⟨hhead, h.failing, .inr ⟨h.up, rfl, _, rfl⟩⟩

/-- Deleting the queue works if nothing fails. -/
theorem answer_delete {m : ResultMessage} (h : Spent b₀ queue m p) :
    Replied (fun _ _ => (b₀.queues.messages queue).head? = some m) (fun _ => b₀.failing ≠ [])
      (Peer.answer (.call (.queueDelete queue false false)) p).1
      (Peer.answer (.call (.queueDelete queue false false)) p).2 := by
  -- If the acknowledgement ended the channel, then something failed, and that is all to be shown.
  rcases h.channel with hbad | ⟨hup, hopen, c, hc⟩
  · rcases (Peer.answer (.call (.queueDelete queue false false)) p).1 with reason | a
    · exact hbad
    · exact h.first
  · have hcall := call_eq_callOn (m := .queueDelete queue false false) trivial hup hopen hc
    simp only [Peer.answer, hcall, Broker.callOn]
    split
    · rename_i hf
      have hbad := failing_ne_nil hf
      rw [show (p.broker.record _).failing = b₀.failing from h.failing] at hbad
      exact hbad
    · exact h.first

/-- Ending a channel that holds nothing changes nothing. -/
theorem endChannel_empty (b : Broker) {c : Channel} (hc : c.unsettled = []) :
    b.endChannel c = b := by
  rw [Broker.endChannel, hc]
  rfl

/-- So does the end of a connection whose channel, if there is one, holds nothing. -/
theorem endChannel_getD (b : Broker) {channel : Option Channel}
    (h : ∀ c ∈ channel, c.unsettled = []) : b.endChannel (channel.getD {}) = b := by
  cases channel with
  | none => rfl
  | some c => exact endChannel_empty b (h c rfl)

/-- Closing the channel changes the link alone when the channel holds nothing. -/
theorem answer_channelClose_eq (hempty : ∀ c ∈ p.link.channel, c.unsettled = []) (code : Nat)
    (text : String) : ∃ log link, (Peer.answer (.call (.channelClose code text)) p).2 =
      ⟨{ p.broker with log }, link, p.clock + Peer.methodTime⟩ ∧
      ∀ c ∈ link.channel, c.unsettled = [] := by
  simp only [Peer.answer, Broker.call]
  split
  · exact ⟨_, _, rfl, nofun⟩
  · cases hc : p.link.channel with
    | none => exact ⟨_, _, rfl, hempty⟩
    | some c =>
      -- The channel held nothing, so there is nothing that goes back with it.
      have hend := endChannel_empty (p.broker.record (.channelClose code text)) (hempty c hc)
      simp only [hend]
      exact ⟨_, _, rfl, nofun⟩

/-- So does closing the connection. -/
theorem answer_connectionClose_eq (hempty : ∀ c ∈ p.link.channel, c.unsettled = []) (code : Nat)
    (text : String) : ∃ log link, (Peer.answer (.call (.connectionClose code text)) p).2 =
      ⟨{ p.broker with log }, link, p.clock + Peer.methodTime⟩ ∧
      ∀ c ∈ link.channel, c.unsettled = [] := by
  have hend := endChannel_getD (p.broker.record (.connectionClose code text)) hempty
  simp only [Peer.answer, Broker.call]
  split
  · exact ⟨_, _, rfl, nofun⟩
  · simp only [hend]
    exact ⟨_, _, rfl, nofun⟩

/-- Hence both leave the messages at rest. -/
theorem answer_channelClose (h : AtRest b₀ queue p) (code : Nat) (text : String) :
    AtRest b₀ queue (Peer.answer (.call (.channelClose code text)) p).2 := by
  obtain ⟨log, link, hp, hlink⟩ := answer_channelClose_eq h.empty code text
  rw [hp]
  exact ⟨⟨h.listening, h.failing, h.messages⟩, hlink⟩

/-- Closing the connection gives nothing up, since no channel holds a message. -/
theorem answer_connectionClose (h : AtRest b₀ queue p) (code : Nat) (text : String) :
    AtRest b₀ queue (Peer.answer (.call (.connectionClose code text)) p).2 := by
  obtain ⟨log, link, hp, hlink⟩ := answer_connectionClose_eq h.empty code text
  rw [hp]
  exact ⟨⟨h.listening, h.failing, h.messages⟩, hlink⟩

/-! ## Requests in a dialogue -/

/-- A method call has the outcome of its answer. -/
theorem call_triple {m : Method} {P E : Peer → Prop} {R : m.Reply → Peer → Prop}
    (h : ∀ p, P p → Replied R E (Peer.answer (.call m) p).1 (Peer.answer (.call m) p).2) :
    Dialogue.Triple Peer.answer P (call m) (Replied R E) :=
  .ask h fun _ => .done fun _ hs => hs

/-- Dialling as a part of an attempt. -/
theorem dial_triple {fault : String → ConnectorError} (url : String) :
    Attempt.Triple Peer.answer (Kept b₀ queue) (demand fault (dial url))
      (fun _ p => Linked b₀ queue p ∧ AtRest b₀ queue p)
      (fun e p => ∃ reason, e = fault reason ∧ Unreached b₀ queue url p) :=
  demand_triple fault (.ask (fun _ h => answer_dial h url) fun _ => .done fun _ h => h)

/-- Taking up a connection as a part of an attempt. -/
theorem lease_triple {fault : String → ConnectorError} (url : String) :
    Attempt.Triple Peer.answer (Kept b₀ queue) (demand fault (lease url))
      (fun _ => Linked b₀ queue)
      (fun e p => ∃ reason, e = fault reason ∧ Unreached b₀ queue url p) :=
  demand_triple fault (.ask (fun _ h => answer_lease h url) fun _ => .done fun _ h => h)

/-- Closing the channel leaves the queue at rest. -/
theorem closeChannel_triple :
    Dialogue.Triple Peer.answer (AtRest b₀ queue) closeChannel fun _ => AtRest b₀ queue :=
  closing_triple _ fun _ h => answer_channelClose h _ _

/-- Closing the connection leaves the queue at rest. -/
theorem closeConnection_triple :
    Dialogue.Triple Peer.answer (AtRest b₀ queue) closeConnection fun _ => AtRest b₀ queue :=
  closing_triple _ fun _ h => answer_connectionClose h _ _

/-! ## A fetch -/

/-- What a fetch leaves behind: unless it removes, the messages of the queue are at rest. -/
def Left (b₀ : Broker) (id : TaskId) (remove : Bool) (p : Peer) : Prop :=
  remove = false → AtRest b₀ id.resultQueue p

/-- A fetch failed: either that is what the broker has for the task, or something failed. -/
def Missed (b₀ : Broker) (id : TaskId) (remove : Bool) (url : String) (e : ConnectorError)
    (p : Peer) : Prop :=
  Left b₀ id remove p ∧
    (b₀.found id = .error e ∨ (∀ reason, e ≠ .malformed reason) ∧ ¬ b₀.Calm url)

/-- A fetch succeeded with what the broker has for the task. -/
def Reported (b₀ : Broker) (id : TaskId) (remove : Bool) (r : Option ResultMessage)
    (p : Peer) : Prop :=
  Left b₀ id remove p ∧ b₀.found id = .ok r

/-- When a method fails, the broker is not calm. -/
theorem missed_of_stopped {id : TaskId} {remove : Bool} (fault : String → ConnectorError)
    (hfault : ∀ reason text, fault reason ≠ .malformed text) (url : String) (e : ConnectorError)
    (p : Peer) (h : ∃ reason, e = fault reason ∧ Stopped b₀ id.resultQueue p) :
    Missed b₀ id remove url e p := by
  obtain ⟨reason, rfl, hrest, hfailing⟩ := h
  exact ⟨fun _ => hrest, .inr ⟨hfault reason, fun hcalm => hfailing hcalm.1⟩⟩

/-- When the broker cannot be reached, it is not calm either. -/
theorem missed_of_unreached {id : TaskId} {remove : Bool} (fault : String → ConnectorError)
    (hfault : ∀ reason text, fault reason ≠ .malformed text) (url : String) (e : ConnectorError)
    (p : Peer) (h : ∃ reason, e = fault reason ∧ Unreached b₀ id.resultQueue url p) :
    Missed b₀ id remove url e p := by
  obtain ⟨reason, rfl, hrest, hcalm⟩ := h
  exact ⟨fun _ => hrest, .inr ⟨hfault reason, hcalm⟩⟩

section
variable (d : Descriptor) (id : TaskId) (remove : Bool) (url : String)

/-- The queue is declared and bound. -/
theorem declareResultQueue_triple :
    Attempt.Triple Peer.answer (Ready b₀ id.resultQueue) (declareResultQueue d id.resultQueue)
      (fun _ => Ready b₀ id.resultQueue) (Missed b₀ id remove url) := by
  refine .bind (R := fun _ => Ready b₀ id.resultQueue) ?_ fun _ => ?_
  · exact .mono (demand_triple .consume (call_triple fun p h => answer_declare h _ _ _))
      (fun _ h => h) (fun _ _ h => h) (missed_of_stopped .consume (fun _ _ h => nomatch h) url)
  · exact .mono (demand_triple .consume (call_triple fun p h => answer_bind h _ _ _))
      (fun _ h => h) (fun _ _ h => h) (missed_of_stopped .consume (fun _ _ h => nomatch h) url)

/-- The first message of the queue is taken. -/
theorem getOne_triple :
    Attempt.Triple Peer.answer (Ready b₀ id.resultQueue) (getOne id.resultQueue)
      (Got b₀ id.resultQueue) (Missed b₀ id remove url) :=
  .mono (demand_triple .consume (call_triple fun _ h => answer_get h)) (fun _ h => h)
    (fun _ _ h => h) (missed_of_stopped .consume (fun _ _ h => nomatch h) url)

/-- Once a message is settled, it is checked. -/
theorem checked_triple {m : ResultMessage} :
    Attempt.Triple Peer.answer
      (fun p => Left b₀ id remove p ∧ (b₀.queues.messages id.resultQueue).head? = some m)
      (Attempt.ofExcept (checked m)) (fun m => Reported b₀ id remove (some m))
      (Missed b₀ id remove url) := by
  refine .ofExcept fun p hp => ?_
  have hfound : b₀.found id = (checked m).map some := by
    rw [Broker.found, hp.2]
  cases hc : checked m with
  | ok m' => exact ⟨hp.1, by rw [hfound, hc]; rfl⟩
  | error e => exact ⟨hp.1, .inl (by rw [hfound, hc]; rfl)⟩

/-- A message that is kept is put back and then checked. -/
theorem settle_kept_triple (delivery : Delivery) :
    Attempt.Triple Peer.answer (InHand b₀ id.resultQueue delivery)
      (settle id.resultQueue delivery false)
      (fun m => Reported b₀ id false (some m)) (Missed b₀ id false url) := by
  have hnack := demand_triple .ack (call_triple (m := .basicNack delivery.tag false true)
    fun p (h : InHand b₀ id.resultQueue delivery p) => answer_nack h)
  -- The message goes back first, and so it is in the queue whatever the check says.
  refine .bind (.mono hnack (fun _ h => h) (fun _ _ h => h) fun _ _ h => h.elim fun _ h => h.2.elim)
    fun _ => ?_
  exact .mono (checked_triple id false url) (fun _ h => ⟨fun _ => h.1, h.2⟩) (fun _ _ h => h)
    fun _ _ h => h

/-- A message that is removed is acknowledged, its queue is deleted, and then it is checked. -/
theorem settle_removed_triple (delivery : Delivery) :
    Attempt.Triple Peer.answer (InHand b₀ id.resultQueue delivery)
      (settle id.resultQueue delivery true)
      (fun m => Reported b₀ id true (some m)) (Missed b₀ id true url) := by
  have hack := demand_triple .ack (call_triple (m := .basicAck delivery.tag false)
    fun p (h : InHand b₀ id.resultQueue delivery p) => answer_ack h)
  have hdelete := demand_triple .ack
    (call_triple (m := .queueDelete id.resultQueue false false)
      fun p (h : Spent b₀ id.resultQueue delivery.message p) => answer_delete h)
  -- Here the message is gone before the check, and nothing is claimed about the queue.
  refine .bind (.mono hack (fun _ h => h) (fun _ _ h => h) fun _ _ h => h.elim fun _ h => h.2.elim)
    fun _ => ?_
  refine .bind (.mono hdelete (fun _ h => h) (fun _ _ h => h) ?_) fun _ => ?_
  · rintro e p ⟨reason, rfl, hfailing⟩
    exact ⟨nofun, .inr ⟨nofun, fun hcalm => hfailing hcalm.1⟩⟩
  · exact .mono (checked_triple id true url) (fun _ h => ⟨nofun, h⟩) (fun _ _ h => h)
      fun _ _ h => h

/-- Settling the message in hand gives it to the reader, or something failed. -/
theorem settle_triple (delivery : Delivery) :
    Attempt.Triple Peer.answer (InHand b₀ id.resultQueue delivery)
      (settle id.resultQueue delivery remove)
      (fun m => Reported b₀ id remove (some m)) (Missed b₀ id remove url) := by
  cases remove with
  | false => exact settle_kept_triple id url delivery
  | true => exact settle_removed_triple id url delivery

/-- Without a message there is nothing to report. -/
theorem notReady_triple :
    Attempt.Triple Peer.answer (Got b₀ id.resultQueue none) (notReady id) (Reported b₀ id remove)
      (Missed b₀ id remove url) := by
  refine .bind (R := fun _ => Got b₀ id.resultQueue none) (.log fun _ h => h) fun _ => ?_
  refine .pure fun p h => ⟨fun _ => h.1.atRest, ?_⟩
  rw [Broker.found, h.2]
  rfl

/-- The outcome is what the broker has for the task, or something failed. -/
def Faithful (b₀ : Broker) (id : TaskId) (url : String) (r : Found) : Prop :=
  r = b₀.found id ∨ ∃ e, r = .error e ∧ (∀ reason, e ≠ .malformed reason) ∧ ¬ b₀.Calm url

/-- A fetch that succeeds or fails as it should leaves what it should and tells what there is. -/
theorem outcome_iff {r : Found} :
    Outcome (Reported b₀ id remove) (Missed b₀ id remove url) r p ↔
      Left b₀ id remove p ∧ Faithful b₀ id url r := by
  cases r with
  | ok found => simp [Outcome, Reported, Faithful, eq_comm]
  | error e => simp [Outcome, Missed, Faithful, eq_comm]

/-- What is closed after an outcome does not change it. -/
theorem close_after {r : Found} {close : Talk Unit}
    (hclose : Dialogue.Triple Peer.answer (AtRest b₀ id.resultQueue) close
      fun _ => AtRest b₀ id.resultQueue) :
    Dialogue.Triple Peer.answer (Outcome (Reported b₀ id remove) (Missed b₀ id remove url) r) close
      fun _ => Outcome (Reported b₀ id remove) (Missed b₀ id remove url) r := by
  have hleft : Dialogue.Triple Peer.answer (Left b₀ id remove) close
      fun _ => Left b₀ id remove := by
    -- Closing can only disturb messages at rest, and only a fetch that keeps speaks of them.
    cases remove with
    | false => exact .mono hclose (fun _ h => h rfl) fun _ _ h _ => h
    | true => exact ⟨fun _ _ => nofun⟩
  exact .mono (hleft.frame (F := Faithful b₀ id url r))
    (fun _ h => (outcome_iff id remove url).1 h) fun _ _ h => (outcome_iff id remove url).2 h

/-- The parts of a fetch. Waiting moves no message. -/
theorem fetchRules :
    FetchRules Peer.answer d id remove (Linked b₀ id.resultQueue) (Ready b₀ id.resultQueue)
      (Got b₀ id.resultQueue) (Outcome (Reported b₀ id remove) (Missed b₀ id remove url)) where
  channelOpen := by
    refine .mono (call_triple fun _ h => answer_channelOpen h) (fun _ h => h) fun r p h => ?_
    cases r with
    | ok => exact h
    | error reason =>
      exact missed_of_stopped .connection (fun _ _ h => nomatch h) url _ p ⟨reason, rfl, h⟩
  declare := declareResultQueue_triple d id remove url
  getOne := getOne_triple id remove url
  settle delivery := settle_triple id remove url delivery
  notReady := notReady_triple id remove url
  again _ h := h.1
  clock _ := rfl
  sleep _ _ h := by
    obtain ⟨⟨⟨⟨hl, hf, hm⟩, hup, hopen⟩, hc⟩, hnone⟩ := h
    exact ⟨⟨⟨⟨hl, hf, hm⟩, hup, hopen⟩, hc⟩, hnone⟩
  closeChannel _ := close_after id remove url closeChannel_triple
  closeConnection _ := close_after id remove url closeConnection_triple

end

/-! ## The native connector -/

namespace Native

variable (d : Descriptor) (id : TaskId) (remove : Bool)

/-- Connecting moves no message. If it fails, the broker cannot be reached. -/
theorem connect_triple :
    Attempt.Triple Peer.answer (Kept b₀ queue) (connect d) (fun _ => Kept b₀ queue)
      (fun e p => ∃ reason, e = .connection reason ∧ Unreached b₀ queue d.amqpUri p) := by
  refine .bind (.mono (dial_triple d.amqpUri) (fun _ h => h) (fun _ _ h => h) ?_)
    fun _ => .log fun _ h => h.2.toKept
  rintro e p ⟨reason, rfl, h⟩
  exact ⟨_, rfl, h⟩

/-- A fetch reports what the broker has for the task unless something failed, and it leaves the
messages of the queue as they are unless it removes. -/
theorem fetch_triple :
    Attempt.Triple Peer.answer (Kept b₀ id.resultQueue) (fetch d id remove)
      (Reported b₀ id remove) (Missed b₀ id remove d.amqpUri) := by
  refine (fetchRules d id remove d.amqpUri).native ?_
  exact .mono (lease_triple d.amqpUri) (fun _ h => h) (fun _ _ h => h)
    (missed_of_unreached (.pool ∘ unavailable) (fun _ _ h => nomatch h) d.amqpUri)

end Native

/-! ## The direct connector -/

namespace Direct

variable (c : Direct) (id : TaskId) (remove : Bool)

/-- Connecting moves no message. If it fails, the broker cannot be reached. -/
theorem connect_triple :
    Attempt.Triple Peer.answer (Kept b₀ queue) c.connect (fun _ => Kept b₀ queue)
      (fun e p => ∃ reason, e = .connection reason ∧ Unreached b₀ queue c.url p) := by
  rw [connect]
  split
  · exact .pure fun _ h => h
  · refine .bind (dial_triple c.url) fun _ => ?_
    refine .bind (R := fun _ => AtRest b₀ queue) ?_ fun _ => .log fun _ h => h.toKept
    exact Dialogue.Triple.bind
      (.mono closeConnection_triple (fun _ h => h.2) fun _ _ h => h) fun _ => .done fun _ h => h

/-- A fetch reports what the broker has for the task unless something failed, and it leaves the
messages of the queue as they are unless it removes. -/
theorem fetch_triple (hc : c.connected = true) :
    Attempt.Triple Peer.answer (Kept b₀ id.resultQueue) (c.fetch id remove)
      (Reported b₀ id remove) (Missed b₀ id remove c.url) := by
  refine (fetchRules c.descriptor id remove c.url).direct rfl hc ?_
  exact .mono (dial_triple c.url) (fun _ h => h) (fun _ _ h => h.1)
    (missed_of_unreached .connection (fun _ _ h => nomatch h) c.url)

end Direct

end Amqp
end TaskQueue
