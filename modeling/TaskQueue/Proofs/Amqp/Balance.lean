import Mathlib.Algebra.Order.Group.Multiset
import TaskQueue.Proofs.Amqp.Custody

/-!
# `TaskQueue.Proofs.Amqp.Balance`: messages that are ready and messages that are taken

A message is ready when it is in its queue, and taken when it is unsettled on a channel. Together
they are what there is of a queue (`Conserves.balance`), and every request that `keeping` allows
leaves this as it is (`answer_handles`): it takes a message that is ready, or puts back messages
that are taken. So does the end of a channel or of a connection (`cut_conserves`).

What goes back to its queue must find it there. So `Fits` says that the queues of all messages on a
channel exist, and `Conserves.queues` that no queue goes away. And a broker that does not listen any
more knows nothing of the channels that there were, so a channel is open only while it listens.
-/

set_option autoImplicit false

namespace TaskQueue
namespace Amqp

/-! ## Messages -/

/-- The messages of a queue. -/
def Broker.ready (b : Broker) (queue : String) : Multiset ResultMessage :=
  (b.queues.messages queue : List ResultMessage)

/-- What is unsettled on the channel of a link. -/
def Link.unsettled (l : Link) : List Unsettled := (l.channel.getD {}).unsettled

/-- Those of some unsettled messages that were taken from a queue. -/
def takenFrom (queue : String) (us : List Unsettled) : Multiset ResultMessage :=
  ((us.filter fun u => u.queue = queue).map fun u => u.delivery.message : List ResultMessage)

section
variable (queue : String) (us : List Unsettled)

/-- A channel that holds nothing has taken nothing. -/
@[simp] theorem takenFrom_nil : takenFrom queue [] = 0 := rfl

/-- What was taken in two goes adds up. -/
@[simp] theorem takenFrom_append (vs : List Unsettled) :
    takenFrom queue (us ++ vs) = takenFrom queue us + takenFrom queue vs := by
  simp [takenFrom]

/-- What was taken first counts beside the rest. -/
theorem takenFrom_cons (u : Unsettled) :
    takenFrom queue (u :: us) = takenFrom queue [u] + takenFrom queue us :=
  takenFrom_append queue [u] us

/-- A message counts as taken from the queue that it came from, and from no other. -/
theorem takenFrom_one (u : Unsettled) :
    takenFrom queue [u] = if u.queue = queue then {u.delivery.message} else 0 := by
  by_cases h : u.queue = queue <;> simp [takenFrom, h]

/-- A choice among the messages and the others are all of them. -/
theorem takenFrom_filter (f : Unsettled → Bool) :
    takenFrom queue (us.filter f) + takenFrom queue (us.filter fun u => !f u) =
      takenFrom queue us := by
  induction us with
  | nil => rfl
  | cons u us ih =>
    rw [takenFrom_cons, ← ih]
    cases hf : f u with
    | true => simp [hf, takenFrom_cons queue (List.filter f us), add_assoc]
    | false =>
      simp [hf, takenFrom_cons queue (List.filter _ us), add_left_comm]

end

/-! ## Queues -/

/-- The messages of a queue that is there, after they have changed, and those of the others. -/
theorem Queues.messages_modify {queue : String} {ms : List ResultMessage} {qs : Queues}
    (f : List ResultMessage → List ResultMessage) (h : qs.get? queue = some ms) (other : String) :
    (qs.modify queue f).messages other = if queue = other then f ms else qs.messages other := by
  split
  · rename_i hq
    rw [← hq, messages, get?_modify, h]
    rfl
  · rename_i hq
    exact messages_modify_of_ne hq f qs

/-- Changing the messages of a queue leaves all queues there. -/
theorem Queues.isSome_modify (queue other : String) (f : List ResultMessage → List ResultMessage)
    (qs : Queues) : ((qs.modify queue f).get? other).isSome = (qs.get? other).isSome := by
  induction qs with
  | nil => rfl
  | cons q rest ih =>
    obtain ⟨name, ms⟩ := q
    by_cases hname : name = queue
    · rw [modify, if_pos hname, get?, get?]
      split <;> rfl
    · rw [modify, if_neg hname, get?, get?]
      split
      · rfl
      · exact ih

/-- A queue that is declared is there, and so are all that were there. -/
theorem Queues.isSome_declare {queue : String} {qs : Queues} (h : (qs.get? queue).isSome)
    (other : String) : ((qs.declare other).get? queue).isSome := by
  unfold declare
  split
  · exact h
  · obtain ⟨ms, hms⟩ := Option.isSome_iff_exists.1 h
    rw [get?_append _ hms]
    rfl

/-- The queue that is declared is there. -/
theorem Queues.isSome_declare_self (queue : String) (qs : Queues) :
    ((qs.declare queue).get? queue).isSome := by
  unfold declare
  split
  · assumption
  · -- It is new, so it comes after all others.
    induction qs with
    | nil => simp [get?]
    | cons q rest ih =>
      rename_i habsent
      rw [List.cons_append, get?]
      split
      · rfl
      · rename_i hq
        rw [get?, if_neg hq] at habsent
        exact ih habsent

namespace Broker

/-- The queue is there. -/
def Has (b : Broker) (queue : String) : Prop := (b.queues.get? queue).isSome

/-- The messages that are ready are those that the queue lists. -/
theorem ready_eq {b : Broker} {queue : String} {ms : List ResultMessage}
    (h : b.queues.get? queue = some ms) : b.ready queue = (ms : List ResultMessage) := by
  rw [ready, Queues.messages, h, Option.getD_some]

/-- A message that goes back to a queue that is there is ready again. -/
theorem ready_putBack {b : Broker} {u : Unsettled} (h : b.Has u.queue) (queue : String) :
    (b.putBack u).ready queue = b.ready queue + takenFrom queue [u] := by
  obtain ⟨ms, hms⟩ := Option.isSome_iff_exists.1 h
  rw [ready, putBack, Queues.messages_modify _ hms, takenFrom_one]
  split
  · rename_i hq
    rw [← hq, ready_eq hms, ← Multiset.cons_coe, ← Multiset.singleton_add, add_comm]
  · rw [add_zero, ready]

/-- Putting a message back makes no queue. -/
theorem has_putBack (b : Broker) (u : Unsettled) (queue : String) :
    (b.putBack u).Has queue ↔ b.Has queue := by
  rw [Has, putBack, Queues.isSome_modify, Has]

/-- Messages that go back to queues that are there are ready again, and no queue goes away. -/
theorem ready_putBackAll {b : Broker} {us : List Unsettled} (h : ∀ u ∈ us, b.Has u.queue) :
    (∀ queue, (b.putBackAll us).ready queue = b.ready queue + takenFrom queue us) ∧
      ∀ queue, (b.putBackAll us).Has queue ↔ b.Has queue := by
  induction us with
  | nil => exact ⟨fun queue => (add_zero _).symm, fun queue => Iff.rfl⟩
  | cons u us ih =>
    obtain ⟨hready, hhas⟩ := ih fun v hv => h v (List.mem_cons_of_mem u hv)
    have hu : (b.putBackAll us).Has u.queue := (hhas u.queue).2 (h u List.mem_cons_self)
    refine ⟨fun queue => ?_, fun queue => (has_putBack _ u queue).trans (hhas queue)⟩
    calc (b.putBackAll (u :: us)).ready queue
        = (b.putBackAll us).ready queue + takenFrom queue [u] := ready_putBack hu queue
      _ = b.ready queue + takenFrom queue us + takenFrom queue [u] := by rw [hready]
      _ = b.ready queue + takenFrom queue (u :: us) := by
        rw [takenFrom_cons queue us, add_assoc, add_comm (takenFrom queue us)]

/-- What is published is ready. -/
theorem ready_put (b : Broker) (queue : String) (m : ResultMessage) (other : String) :
    (b.put queue m).ready other = b.ready other + if queue = other then {m} else 0 := by
  have hsame := Queues.messages_declare other queue b.queues
  obtain ⟨ms, hms⟩ := Option.isSome_iff_exists.1 (Queues.isSome_declare_self queue b.queues)
  rw [ready, put, Queues.messages_modify _ hms, ready, ← hsame]
  split
  · rename_i hq
    rw [← hq, Queues.messages, hms, Option.getD_some, ← Multiset.coe_add]
    rfl
  · rw [add_zero]

/-- Publishing leaves all queues there. -/
theorem has_put {b : Broker} {other : String} (h : b.Has other) (queue : String)
    (m : ResultMessage) : (b.put queue m).Has other := by
  rw [Has, put, Queues.isSome_modify]
  exact Queues.isSome_declare h queue

/-- Putting messages back does not change whether the broker listens. -/
theorem listening_putBackAll (b : Broker) (us : List Unsettled) :
    (b.putBackAll us).listening = b.listening := by
  induction us with
  | nil => rfl
  | cons u us ih => exact ih

end Broker

/-! ## What a request leaves -/

/-- A link fits a broker: a channel is open only on a connection that is there, and the queues that
its messages came from are there. -/
structure Fits (b : Broker) (l : Link) : Prop where
  live : ∀ c ∈ l.channel, b.listening = true ∧ l.isOpen = true
  rooted : ∀ u ∈ l.unsettled, b.Has u.queue

/-- A link without a channel fits any broker. -/
theorem Fits.of_none {b : Broker} {l : Link} (h : l.channel = none) : Fits b l := by
  refine ⟨?_, ?_⟩
  · rw [h]
    nofun
  · rw [Link.unsettled, h]
    nofun

/-- It still fits a broker that listens as before and has all queues of the former. -/
theorem Fits.mono {b b' : Broker} {l : Link} (h : Fits b l)
    (hlistening : b'.listening = b.listening) (hqueues : ∀ queue, b.Has queue → b'.Has queue) :
    Fits b' l where
  live c hc := ⟨hlistening.trans (h.live c hc).1, (h.live c hc).2⟩
  rooted u hu := hqueues u.queue (h.rooted u hu)

/-- Nothing that is ready or taken is lost, and nothing comes to it. -/
structure Conserves (b : Broker) (l : Link) (b' : Broker) (l' : Link) : Prop where
  fits : Fits b' l'
  listening : b'.listening = b.listening
  queues : ∀ queue, b.Has queue → b'.Has queue
  balance : ∀ queue, b'.ready queue + takenFrom queue l'.unsettled =
    b.ready queue + takenFrom queue l.unsettled

namespace Conserves

variable {b b' b'' : Broker} {l l' l'' : Link}

/-- As long as nothing happens, nothing is lost. -/
theorem refl (h : Fits b l) : Conserves b l b l := ⟨h, rfl, fun _ h => h, fun _ => rfl⟩

/-- What two steps conserve one after the other, they conserve together. -/
theorem trans (h : Conserves b l b' l') (h' : Conserves b' l' b'' l'') :
    Conserves b l b'' l'' where
  fits := h'.fits
  listening := h'.listening.trans h.listening
  queues queue hq := h'.queues queue (h.queues queue hq)
  balance queue := (h'.balance queue).trans (h.balance queue)

/-- Where nothing is taken, a link may be given up for another one. -/
theorem of_nothing (hl : l.unsettled = []) (hl' : l'.unsettled = [])
    (hlive : ∀ c ∈ l'.channel, b.listening = true ∧ l'.isOpen = true) (log : List Method) :
    Conserves b l { b with log } l' := by
  refine ⟨⟨hlive, ?_⟩, rfl, fun _ h => h, fun queue => ?_⟩
  · rw [hl']
    nofun
  · rw [hl', hl]
    rfl

/-- A broker that differs in its log. -/
theorem of_record {m : Method} (h : Conserves (b.record m) l b' l') : Conserves b l b' l' :=
  ⟨h.fits, h.listening, h.queues, h.balance⟩

/-- Some messages of a channel go back, and the channel keeps the others. -/
theorem putBackAll {back : List Unsettled} (h : Fits b l)
    (hlive : ∀ c ∈ l'.channel, b.listening = true ∧ l'.isOpen = true)
    (hback : ∀ u ∈ back, u ∈ l.unsettled) (hkept : ∀ u ∈ l'.unsettled, u ∈ l.unsettled)
    (hall : ∀ queue, takenFrom queue back + takenFrom queue l'.unsettled =
      takenFrom queue l.unsettled) :
    Conserves b l (b.putBackAll back) l' := by
  have hlistening := b.listening_putBackAll back
  obtain ⟨hready, hhas⟩ := Broker.ready_putBackAll fun u hu => h.rooted u (hback u hu)
  refine ⟨⟨?_, ?_⟩, hlistening, fun queue => (hhas queue).2, fun queue => ?_⟩
  · rw [hlistening]
    exact hlive
  · exact fun u hu => (hhas u.queue).2 (h.rooted u (hkept u hu))
  · rw [hready, add_assoc, hall]

/-- The channel ends. -/
theorem endChannel (h : Fits b l) (isOpen : Bool) :
    Conserves b l (b.endChannel (l.channel.getD {})) { isOpen } :=
  putBackAll h nofun (fun _ hu => hu) nofun fun _ => add_zero _

end Conserves

/-- A request of a reader, and what comes of it. Nothing is lost, the channel is free if the reader
is to know that it is, and what the reader was given was ready. -/
structure Handles (queue : String) (k : Custody) (q : Request) (b : Broker) (l : Link)
    (a : Answer q) (l' : Link) (b' : Broker) : Prop where
  conserves : Conserves b l b' l'
  free : (k.next q a).free = true → l'.unsettled = []
  given : ∀ m ∈ (k.next q a).given, m ∈ k.given ∨ m ∈ b.ready queue

/-! ## Methods -/

section
variable {queue : String} {k : Custody} {b : Broker} {c : Channel} {m : Method}

/-- A queue gives the message that is first, or nothing. -/
theorem take_cases (b : Broker) (c : Channel) (queue : String) :
    b.take c queue = (none, c, b) ∨ ∃ m rest, b.queues.get? queue = some (m :: rest) ∧
      b.take c queue = (some ⟨c.lastTag + 1, m⟩,
        ⟨c.lastTag + 1, c.unsettled ++ [⟨queue, c.lastTag + 1, m⟩]⟩,
        { b with queues := b.queues.modify queue fun _ => rest }) := by
  unfold Broker.take
  split
  · rename_i m rest hqueue
    exact .inr ⟨m, rest, hqueue, rfl⟩
  · exact .inl rfl

/-- A message that is taken was ready, and it is taken now. -/
theorem take_conserves {message : ResultMessage} {rest : List ResultMessage} (tag : Nat)
    (h : Fits b ⟨true, some c⟩) (hqueue : b.queues.get? queue = some (message :: rest)) :
    message ∈ b.ready queue ∧
      Conserves b ⟨true, some c⟩ { b with queues := b.queues.modify queue fun _ => rest }
        ⟨true, some ⟨tag, c.unsettled ++ [⟨queue, tag, message⟩]⟩⟩ := by
  have hup : b.listening = true := (h.live c rfl).1
  have hready := Broker.ready_eq hqueue
  have hhas : b.Has queue := by rw [Broker.Has, hqueue]; rfl
  have hsome := Queues.isSome_modify queue
  refine ⟨?_, ⟨fun _ _ => ⟨hup, rfl⟩, fun u hu => ?_⟩, rfl, fun other hother => ?_, fun other => ?_⟩
  · rw [hready]
    exact List.mem_cons_self
  · rw [Broker.Has, hsome]
    rcases List.mem_append.1 hu with hu | hu
    · exact h.rooted u hu
    · rw [List.mem_singleton.1 hu]
      exact hhas
  · rw [Broker.Has, hsome]
    exact hother
  -- What the queue is short of, the channel holds more: the message changes sides.
  · show _ + takenFrom other (c.unsettled ++ [⟨queue, tag, message⟩]) =
      b.ready other + takenFrom other c.unsettled
    rw [takenFrom_append, takenFrom_one, Broker.ready, Queues.messages_modify _ hqueue]
    split
    · rename_i hq
      rw [← hq, hready, ← Multiset.cons_coe, ← Multiset.singleton_add, ← add_assoc,
        add_comm _ ({message} : Multiset ResultMessage), ← add_assoc]
    · rw [add_zero, Broker.ready]

/-- A method that is executed on a channel. -/
theorem execute_handles (hm : k.Allows queue (.call m)) (hon : m.OnChannel)
    (h : Fits b ⟨true, some c⟩) (hfree : k.free = true → c.unsettled = []) :
    Handles queue k (.call m) b ⟨true, some c⟩ (.ok (b.execute c m).1)
      ⟨true, some (b.execute c m).2.1⟩ (b.execute c m).2.2 := by
  have hup : b.listening = true := (h.live c rfl).1
  cases m with
  | queueDeclare other flags arguments =>
    refine ⟨⟨⟨fun _ _ => ⟨hup, rfl⟩, ?_⟩, rfl, ?_, fun queue => ?_⟩, hfree, fun _ => .inl⟩
    · exact fun u hu => Queues.isSome_declare (h.rooted u hu) other
    · exact fun queue hq => Queues.isSome_declare hq other
    · show ((b.queues.declare other).messages queue : Multiset ResultMessage) + _ = _
      rw [Queues.messages_declare]
      rfl
  | queueBind => exact ⟨.refl h, hfree, fun _ => .inl⟩
  -- A fetch never asks for a message to be settled as it is taken, so what is taken stays on the
  -- channel.
  | basicGet other noAck =>
    obtain ⟨rfl, -⟩ := hm
    rcases take_cases b c other with htake | ⟨message, rest, hqueue, htake⟩
    · simp only [Broker.execute, htake]
      exact ⟨.refl h, hfree, fun _ => .inl⟩
    · obtain ⟨hmem, hconserves⟩ := take_conserves (c.lastTag + 1) h hqueue
      simp only [Broker.execute, htake]
      refine ⟨hconserves, fun hk => absurd hk Bool.false_ne_true, fun m hm => ?_⟩
      rcases List.mem_cons.1 hm with rfl | hm
      · exact .inr hmem
      · exact .inl hm
  -- A rejection puts the message back, and which ones it names does not matter: none is dropped.
  | basicNack tag multiple requeue =>
    have hrequeue : requeue = true := hm
    subst hrequeue
    have hsubset : ∀ f : Unsettled → Bool, ∀ u ∈ c.unsettled.filter f, u ∈ c.unsettled :=
      fun f u hu => (List.mem_filter.1 hu).1
    refine ⟨.putBackAll h (fun _ _ => ⟨hup, rfl⟩) (hsubset _) (hsubset _) ?_, ?_, fun _ => .inl⟩
    · exact fun queue => takenFrom_filter queue c.unsettled _
    · intro hk
      show c.unsettled.filter _ = []
      rw [hfree hk]
      rfl
  | channelOpen | channelClose | connectionClose => exact hon.elim
  | _ => exact hm.elim

/-- A method that is called on a channel: it is executed, or the channel ends. -/
theorem callOn_handles (hm : k.Allows queue (.call m)) (hon : m.OnChannel)
    (h : Fits b ⟨true, some c⟩) (hfree : k.free = true → c.unsettled = []) :
    Handles queue k (.call m) b ⟨true, some c⟩ (b.callOn c m).1 (b.callOn c m).2.1
      (b.callOn c m).2.2 := by
  have hrecord : Fits (b.record m) ⟨true, some c⟩ := ⟨h.live, h.rooted⟩
  unfold Broker.callOn
  dsimp only
  split
  · have hend := (Conserves.endChannel hrecord true).of_record
    refine ⟨hend, fun _ => rfl, fun message hmessage => .inl ?_⟩
    -- The reader was given nothing: either it is told of the failure, or the method is a nack.
    cases m with
    | channelOpen | channelClose | connectionClose => exact hon.elim
    | _ => exact hmessage
  · have hexecute := execute_handles hm hon hrecord hfree
    exact ⟨hexecute.conserves.of_record, hexecute.free, hexecute.given⟩

/-- A method that is called on a connection. -/
theorem call_handles {l : Link} (hm : k.Allows queue (.call m)) (h : Fits b l)
    (hfree : k.free = true → l.unsettled = []) :
    Handles queue k (.call m) b l (b.call l m).1 (b.call l m).2.1 (b.call l m).2.2 := by
  have herror : ∀ reason, ∀ message ∈ (k.next (.call m) (.error reason)).given,
      message ∈ k.given ∨ message ∈ b.ready queue := fun reason message hmessage =>
    .inl (by rwa [Custody.given_next_error] at hmessage)
  have hrecord : ∀ m, Fits (b.record m) l := fun m => ⟨h.live, h.rooted⟩
  obtain ⟨isOpen, channel⟩ := l
  unfold Broker.call
  split
  · rename_i hdown
    -- Where the connection is gone, the channel was gone before.
    have hnone : channel = none := by
      refine Option.eq_none_iff_forall_not_mem.2 fun c hc => ?_
      obtain ⟨hup, hopen⟩ := h.live c hc
      simp [hup, show isOpen = true from hopen] at hdown
    subst hnone
    exact ⟨.of_nothing rfl rfl (by nofun) b.log, fun _ => rfl, herror _⟩
  rename_i hup
  cases m with
  | channelOpen =>
    have hnothing : Link.unsettled ⟨isOpen, channel⟩ = [] := hfree hm
    dsimp only
    split
    · exact ⟨.of_nothing hnothing rfl (by nofun) _, fun _ => rfl, fun _ => .inl⟩
    · have hlistening : b.listening = true := by
        simp only [Bool.not_eq_true', Bool.and_eq_false_imp, not_forall, Bool.not_eq_false] at hup
        exact hup.1
      exact ⟨.of_nothing hnothing rfl (fun _ _ => ⟨hlistening, rfl⟩) _, fun _ => rfl,
        fun _ => .inl⟩
  | connectionClose code text =>
    exact ⟨(Conserves.endChannel (hrecord _) false).of_record, fun _ => rfl, fun _ => .inl⟩
  | channelClose code text =>
    cases channel with
    | none => exact ⟨.refl h, fun _ => rfl, fun _ => .inl⟩
    | some c =>
      exact ⟨(Conserves.endChannel (hrecord _) true).of_record, fun _ => rfl, fun _ => .inl⟩
  -- Every other method is called on the channel, if there is one.
  | _ =>
    cases channel with
    | none => exact ⟨.refl h, fun _ => rfl, herror _⟩
    | some c =>
      obtain rfl : isOpen = true := (h.live c rfl).2
      exact callOn_handles hm trivial h hfree

end

/-! ## Requests -/

section
variable {queue : String} {k : Custody} {p : Peer}

/-- A new connection may take the place of one whose channel is free. -/
theorem dial_handles (queue : String) (k : Custody) (url : String) (hfree : p.link.unsettled = []) :
    Handles queue k (.dial url) p.broker p.link (Peer.answer (.dial url) p).1
      (Peer.answer (.dial url) p).2.link (Peer.answer (.dial url) p).2.broker := by
  obtain ⟨r, link, log, haccept, hnone, -⟩ := p.broker.accept_cases url
  have hnothing : link.unsettled = [] := by rw [Link.unsettled, hnone]; rfl
  simp only [Peer.answer, haccept]
  refine ⟨.of_nothing hfree hnothing (fun c hc => ?_) log, fun _ => hnothing, fun _ => .inl⟩
  rw [hnone] at hc
  cases hc

/-- The broker loses nothing by a request that is allowed. -/
theorem answer_handles {q : Request} (hq : k.Allows queue q) (h : Fits p.broker p.link)
    (hfree : k.free = true → p.link.unsettled = []) :
    Handles queue k q p.broker p.link (Peer.answer q p).1 (Peer.answer q p).2.link
      (Peer.answer q p).2.broker := by
  cases q with
  | dial url => exact dial_handles queue k url (hfree hq)
  -- A lease is either the connection there is or a new one, and a new one is a dial.
  | lease url =>
    rcases answer_lease_cases p url with ⟨-, -, hsame⟩ | hdial
    · rw [hsame]
      exact ⟨.refl h, hfree, fun _ => .inl⟩
    · have hnew := dial_handles queue k url (hfree hq)
      rw [hdial]
      exact ⟨hnew.conserves, hnew.free, fun _ => .inl⟩
  | call m => exact call_handles hq h hfree
  | clock => exact ⟨.refl h, hfree, fun _ => .inl⟩
  | sleep nanoseconds => exact ⟨.refl h, hfree, fun _ => .inl⟩

/-- The end of a channel or of a connection loses nothing. -/
theorem cut_conserves (h : Fits p.broker p.link) (severs : Bool) :
    Conserves p.broker p.link (p.cut severs).broker (p.cut severs).link :=
  .endChannel h _

end
end Amqp
end TaskQueue
