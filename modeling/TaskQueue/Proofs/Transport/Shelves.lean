import TaskQueue.Proofs.Amqp.Keeping
import TaskQueue.Proofs.Client.Spoilt
import TaskQueue.Proofs.Redis.Keeping
import TaskQueue.Transport.Memory
import TaskQueue.Transport.Network

/-!
# `TaskQueue.Proofs.Transport.Shelves`: where the transports keep results

The broker in memory, Redis and AMQP are three shelves in the sense of
`TaskQueue.Proofs.Client.Spoilt`. The AMQP shelf serves the native connector and the direct one.

A look that does not remove is gentle on each of them. On Redis a look that removes is gentle too
if the value is not one that can be handed over, since the connector looks at the value before it
deletes the key. Over AMQP a message is acknowledged before it is looked at.

The broker in memory always answers. On the network a broker answers a connector if the URL of its
descriptor leads to it and no command or method is set to fail.
-/

set_option autoImplicit false

namespace TaskQueue

open Attempt (Outcome)

/-! ## In memory -/

namespace Memory

namespace Broker

/-- What a broker has for a task. A result that is hidden is not there yet. -/
def found (b : Broker) (id : TaskId) : Found :=
  match b.results.get? id with
  | some ⟨m, 0⟩ => .ok (some m)
  | _ => .ok none

/-- A fetch reports what the broker has. -/
theorem fetch_found (b : Broker) (id : TaskId) (remove : Bool) :
    .ok (b.fetch id remove).1 = b.found id := by
  rcases hs : b.results.get? id with _ | ⟨m, _ | n⟩ <;> simp only [fetch, found, hs]

/-- A fetch that keeps a result which is there changes nothing but the count. -/
theorem found_fetch (b : Broker) (id : TaskId) (h : b.found id ≠ .ok none) :
    (b.fetch id false).2.found id = b.found id := by
  unfold found at h
  cases hs : b.results.get? id with
  | none =>
    rw [hs] at h
    exact (h rfl).elim
  | some s =>
    obtain ⟨m, _ | n⟩ := s
    · simp only [fetch, hs]
      rfl
    · rw [hs] at h
      exact (h rfl).elim

end Broker

/-- All connectors look at the results of the one broker. -/
def shelf : Shelf Connector Broker where
  serves _ := True
  found id b := b.found id
  gentle remove _ := remove = false
  calm _ _ := True

/-- The transport in memory keeps its results as its shelf says. -/
theorem shelf_guarded : shelf.Guarded transport where
  create _ _ _ _ := rfl
  create_error _ _ _ _ h := by cases h
  connect c w _ := by
    cases hc : c.connected <;> simp only [transport, hc] <;>
      exact ⟨trivial, fun _ => rfl, fun _ => trivial, fun _ => by simp [hc], nofun⟩
  fetch c id remove w _ _ := by
    refine ⟨trivial, .inl (w.broker.fetch_found id remove), fun hgentle hspoilt => ?_⟩
    -- What is spoilt is there, and a fetch that keeps leaves it there.
    cases hgentle
    refine w.broker.found_fetch id fun hnone => ?_
    exact not_spoilt_none (hnone ▸ hspoilt)

/-- The broker always answers. -/
theorem not_hindered (h : Handle Connector) (w : World Broker) :
    ¬ h.Hindered shelf transport w := by
  intro hh
  rcases ho : h.opened transport w with ⟨_ | c, w'⟩
  · unfold Handle.opened at ho
    split at ho <;> cases ho
  · exact hh c w' ho trivial

end Memory

/-! ## On the network -/

namespace Network

variable {α : Type}

/-- What a dialogue with the Redis server comes to. -/
theorem talkToRedis_outcome {P : Redis.Server → Prop} {t : Redis.Talk α}
    {R : α → Redis.Server → Prop} {E : ConnectorError → Redis.Server → Prop}
    (ht : Attempt.Triple Redis.Server.answer P t R E) (w : World Network)
    (hP : P w.broker.redis) :
    Outcome R E (talkToRedis t w).1 (talkToRedis t w).2.broker.redis :=
  ht.holds _ hP

/-- What a dialogue with the AMQP broker comes to. -/
theorem talkToAmqp_outcome {P : Amqp.Peer → Prop} {t : Amqp.Try α}
    {R : α → Amqp.Peer → Prop} {E : ConnectorError → Amqp.Peer → Prop}
    (ht : Attempt.Triple Amqp.Peer.answer P t R E) (link : Amqp.Link) (w : World Network)
    (hP : P ⟨w.broker.amqp, link, w.clock⟩) :
    ∃ p, Outcome R E (talkToAmqp t link w).1 p ∧
      p.broker = (talkToAmqp t link w).2.2.broker.amqp :=
  ⟨_, ht.holds _ hP, rfl⟩

/-! ### Making a connector -/

/-- Choosing a backend fails with an error of the choice. -/
theorem resolve_error {c : Capabilities} {d : Descriptor} {e : Error}
    (h : c.resolve d = .error e) : e.isSelection = true := by
  unfold Capabilities.resolve Capabilities.select at h
  split at h
  -- A name may be unknown or not supported; without one, nothing that is supported may be left.
  · rename_i name _
    unfold BackendKind.ofName at h
    split at h
    · rename_i e' hname
      split at hname <;> cases hname
      cases h
      rfl
    · split at h <;> cases h
      rfl
  · split at h
    · split at h <;> cases h
      rfl
    · split at h <;> cases h
      rfl

/-- A connector over TLS fails only by its options. -/
theorem secure_error {d : Descriptor} {files : Files} {e : Error}
    (h : Amqp.Direct.secure d files = .error e) : ∃ reason, e = .configuration reason := by
  unfold Amqp.Direct.secure at h
  split at h
  · cases h
    exact ⟨_, rfl⟩
  · split at h
    · cases h
      exact ⟨_, rfl⟩
    · split at h <;> cases h
      exact ⟨_, rfl⟩

/-- A connector for a given kind fails to be made only on its configuration. -/
theorem ofKind_error {files : Files} {d : Descriptor} {k : BackendKind} {e : Error}
    (h : Connector.ofKind files d k = .error e) : ∃ reason, e = .configuration reason := by
  cases k with
  | amqpTls =>
    cases hs : Amqp.Direct.secure d files with
    | error e' =>
      rw [Connector.ofKind, hs] at h
      cases h
      exact secure_error hs
    | ok c =>
      rw [Connector.ofKind, hs] at h
      cases h
  | _ => cases h

/-- Making a connector fails only if no backend can be chosen or by the options for TLS. -/
theorem create_error {s : Source} {d : Descriptor} {w : World Network} {e : Error}
    (h : (transport.create s d w).1 = .error e) :
    e.isSelection = true ∨ ∃ reason, e = .configuration reason := by
  have hopen : Connector.ofDescriptor .all w.broker.files d = .error e →
      e.isSelection = true ∨ ∃ reason, e = .configuration reason := by
    intro h
    unfold Connector.ofDescriptor at h
    split at h
    · rename_i e' hr
      cases h
      exact .inl (resolve_error hr)
    · exact .inr (ofKind_error h)
  -- A source that names its backend skips the choice.
  cases s <;> simp only [transport, Connector.create] at h
  case kind k => exact .inr (ofKind_error h)
  all_goals exact hopen h

/-- Whatever keeps a connector from being made is neither a malformed result nor a timeout. -/
theorem create_error_not {s : Source} {d : Descriptor} {w : World Network} {e : Error}
    (h : (transport.create s d w).1 = .error e) : ¬ e.IsMalformed ∧ ¬ e.IsTimeout := by
  rcases create_error h with hs | ⟨reason, rfl⟩
  · cases e <;> first | exact ⟨fun h => h, fun h => h⟩ | cases hs
  · exact ⟨fun h => h, fun h => h⟩

/-- Making a connector changes nothing on the network. -/
theorem create_broker (s : Source) (d : Descriptor) (w : World Network) :
    (transport.create s d w).2.broker = w.broker := by
  cases s <;> rfl

/-! ### Redis -/

/-- What the Redis server keeps. -/
def redisShelf : Shelf Connector Network where
  serves c := ∃ r, c = .redis r
  found id n := n.redis.found id
  gentle remove found := remove = false ∨ ∃ e, found = .error e
  calm c n := n.redis.Calm c.descriptor.redisUrl

/-- Connecting to Redis keeps to the shelf. -/
theorem connecting_redis (c : Redis.Connector) (w : World Network) :
    redisShelf.Connecting transport (.redis c) w (Connector.connect (.redis c) w).1
      (Connector.connect (.redis c) w).2.1 (Connector.connect (.redis c) w).2.2 := by
  have h := fun key => talkToRedis_outcome (P := Redis.Kept w.broker.redis key)
    (Redis.Connector.connect_triple c) w ⟨rfl, rfl, rfl⟩
  rcases ht : talkToRedis c.connect w with ⟨r, w'⟩
  simp only [ht] at h
  simp only [Connector.connect, ht]
  -- No key is named here: connecting changes none of them.
  have hkept : ∀ key, Redis.Kept w.broker.redis key w'.broker.redis := by
    cases r with
    | ok => exact h
    | error e => exact fun key => (h key).2.1
  refine ⟨⟨_, rfl⟩, fun id => (hkept _).found, fun hcalm => (hkept "").calm hcalm, ?_, ?_⟩
  · rintro rfl
    exact Bool.or_true _
  · rintro e rfl
    obtain ⟨⟨reason, rfl⟩, -, hcalm⟩ := h ""
    exact ⟨fun h => h, hcalm⟩

/-- So does a fetch from it. -/
theorem fetching_redis {c : Redis.Connector} (hc : c.connected = true) (id : TaskId)
    (remove : Bool) (w : World Network) :
    redisShelf.Fetching (.redis c) id remove w (Connector.fetch (.redis c) id remove w).1
      (Connector.fetch (.redis c) id remove w).2.1
      (Connector.fetch (.redis c) id remove w).2.2 := by
  have h := talkToRedis_outcome (P := Redis.Kept w.broker.redis id.resultKey)
    (Redis.Connector.fetch_triple c id hc remove) w ⟨rfl, rfl, rfl⟩
  rcases ht : talkToRedis (c.fetch id remove) w with ⟨r, w'⟩
  rw [ht] at h
  simp only [Connector.fetch, ht]
  cases r with
  | ok found => exact ⟨⟨_, rfl⟩, .inl h.2.symm, fun hgentle _ => (h.1 hgentle).found⟩
  | error e =>
    refine ⟨⟨_, rfl⟩, ?_, fun hgentle _ => (h.1 hgentle).found⟩
    -- The error is what the server has for the task, or the server could not be reached.
    rcases h.2 with hfound | ⟨hm, hcalm⟩
    · exact .inl hfound.symm
    · exact .inr ⟨e, rfl, e.not_isMalformed hm, hcalm⟩

/-- Redis keeps its results as its shelf says. -/
theorem redisShelf_guarded : redisShelf.Guarded transport where
  create s d w id := by rw [create_broker]
  create_error _ _ _ _ h := create_error_not h
  connect := by
    rintro _ w ⟨c, rfl⟩
    exact connecting_redis c w
  fetch := by
    rintro _ id remove w ⟨c, rfl⟩ hc
    exact fetching_redis hc id remove w

/-! ### AMQP -/

/-- The URL to which a connector dials. -/
def url : Connector → String
  | .redis c => c.descriptor.redisUrl
  | .native d _ => d.amqpUri
  | .direct c => c.url

/-- What the AMQP broker keeps. -/
def amqpShelf : Shelf Connector Network where
  serves c := (∃ d link, c = .native d link) ∨ ∃ d, c = .direct d
  found id n := n.amqp.found id
  gentle remove _ := remove = false
  calm c n := n.amqp.Calm (url c)

/-- A dialogue in which the settings of the broker and the messages of each queue are kept, and
which fails only if the broker does not answer. -/
theorem talkToAmqp_kept {t : Amqp.Try Unit} {address : String} (link : Amqp.Link)
    (w : World Network)
    (ht : ∀ queue, Attempt.Triple Amqp.Peer.answer (Amqp.Kept w.broker.amqp queue) t
      (fun _ => Amqp.Kept w.broker.amqp queue) (fun e p => ∃ reason, e = .connection reason ∧
        Amqp.Unreached w.broker.amqp queue address p)) :
    (∀ id, (talkToAmqp t link w).2.2.broker.amqp.found id = w.broker.amqp.found id) ∧
      (w.broker.amqp.Calm address → (talkToAmqp t link w).2.2.broker.amqp.Calm address) ∧
      ∀ e, (talkToAmqp t link w).1 = .error e →
        ¬ e.IsMalformed ∧ ¬ w.broker.amqp.Calm address := by
  have h := fun queue => talkToAmqp_outcome (ht queue) link w ⟨rfl, rfl, rfl⟩
  rcases hr : talkToAmqp t link w with ⟨r, link', w'⟩
  simp only [hr] at h
  -- The triple is about one queue, and it holds of each.
  have hkept : ∀ queue, ∃ p, Amqp.Kept w.broker.amqp queue p ∧ p.broker = w'.broker.amqp := by
    intro queue
    obtain ⟨p, hp, hbroker⟩ := h queue
    cases r with
    | ok => exact ⟨p, hp, hbroker⟩
    | error e =>
      obtain ⟨reason, -, hun⟩ := hp
      exact ⟨p, hun.1.toKept, hbroker⟩
  refine ⟨fun id => ?_, fun hcalm => ?_, ?_⟩
  · obtain ⟨p, hp, hbroker⟩ := hkept id.resultQueue
    rw [← hbroker]
    exact hp.found
  · obtain ⟨p, hp, hbroker⟩ := hkept ""
    rw [← hbroker]
    exact hp.calm hcalm
  · rintro e rfl
    obtain ⟨p, ⟨reason, rfl, hun⟩, -⟩ := h ""
    exact ⟨fun h => h, hun.2⟩

/-- Connecting to AMQP keeps to the shelf. -/
theorem connecting_native (d : Descriptor) (link : Option Amqp.Link) (w : World Network) :
    amqpShelf.Connecting transport (.native d link) w (Connector.connect (.native d link) w).1
      (Connector.connect (.native d link) w).2.1
      (Connector.connect (.native d link) w).2.2 := by
  cases link with
  | some link => exact ⟨.inl ⟨_, _, rfl⟩, fun _ => rfl, fun h => h, fun _ => rfl, nofun⟩
  | none =>
    -- Nothing is asked of the queue while connecting, whichever queue it is.
    obtain ⟨hfound, hcalm, herror⟩ :=
      talkToAmqp_kept {} w fun queue => Amqp.Native.connect_triple d
    rcases ht : talkToAmqp (Amqp.Native.connect d) {} w with ⟨r, link', w'⟩
    rw [ht] at hfound hcalm herror
    simp only [Connector.connect, ht]
    refine ⟨.inl ⟨_, _, rfl⟩, hfound, hcalm, ?_, herror⟩
    rintro rfl
    rfl

/-- The direct connector connects without touching the shelf. -/
theorem connecting_direct (c : Amqp.Direct) (w : World Network) :
    amqpShelf.Connecting transport (.direct c) w (Connector.connect (.direct c) w).1
      (Connector.connect (.direct c) w).2.1 (Connector.connect (.direct c) w).2.2 := by
  obtain ⟨hfound, hcalm, herror⟩ :=
    talkToAmqp_kept {} w fun queue => Amqp.Direct.connect_triple c
  rcases ht : talkToAmqp c.connect {} w with ⟨r, link', w'⟩
  rw [ht] at hfound hcalm herror
  simp only [Connector.connect, ht]
  refine ⟨.inr ⟨_, rfl⟩, hfound, hcalm, ?_, herror⟩
  rintro rfl
  exact Bool.or_true _

/-- A dialogue that fetches comes to what the broker has, or the broker does not answer. -/
theorem talkToAmqp_fetched {t : Amqp.Try (Option ResultMessage)} {id : TaskId} {remove : Bool}
    {address : String} (link : Amqp.Link) (w : World Network)
    (ht : Attempt.Triple Amqp.Peer.answer (Amqp.Kept w.broker.amqp id.resultQueue) t
      (Amqp.Reported w.broker.amqp id remove) (Amqp.Missed w.broker.amqp id remove address)) :
    ((talkToAmqp t link w).1 = w.broker.amqp.found id ∨
        ∃ e, (talkToAmqp t link w).1 = .error e ∧ ¬ e.IsMalformed ∧
          ¬ w.broker.amqp.Calm address) ∧
      (remove = false →
        (talkToAmqp t link w).2.2.broker.amqp.found id = w.broker.amqp.found id) := by
  obtain ⟨p, hp, hbroker⟩ := talkToAmqp_outcome ht link w ⟨rfl, rfl, rfl⟩
  rw [Amqp.outcome_iff] at hp
  refine ⟨?_, fun hremove => ?_⟩
  · rcases hp.2 with hfound | ⟨e, he, hm, hcalm⟩
    · exact .inl hfound
    · exact .inr ⟨e, he, e.not_isMalformed hm, hcalm⟩
  · rw [← hbroker]
    exact (hp.1 hremove).toKept.found

/-- A fetch over AMQP keeps to the shelf. -/
theorem fetching_native (d : Descriptor) (link : Amqp.Link) (id : TaskId) (remove : Bool)
    (w : World Network) :
    amqpShelf.Fetching (.native d (some link)) id remove w
      (Connector.fetch (.native d (some link)) id remove w).1
      (Connector.fetch (.native d (some link)) id remove w).2.1
      (Connector.fetch (.native d (some link)) id remove w).2.2 := by
  obtain ⟨hanswer, hstays⟩ :=
    talkToAmqp_fetched link w (Amqp.Native.fetch_triple d id remove)
  rcases ht : talkToAmqp (Amqp.Native.fetch d id remove) link w with ⟨r, link', w'⟩
  rw [ht] at hanswer hstays
  simp only [Connector.fetch, ht]
  exact ⟨.inl ⟨_, _, rfl⟩, hanswer, fun hgentle _ => hstays hgentle⟩

/-- A connected direct connector fetches from the shelf. -/
theorem fetching_direct {c : Amqp.Direct} (hc : c.connected = true) (id : TaskId)
    (remove : Bool) (w : World Network) :
    amqpShelf.Fetching (.direct c) id remove w (Connector.fetch (.direct c) id remove w).1
      (Connector.fetch (.direct c) id remove w).2.1
      (Connector.fetch (.direct c) id remove w).2.2 := by
  obtain ⟨hanswer, hstays⟩ :=
    talkToAmqp_fetched {} w (Amqp.Direct.fetch_triple c id remove hc)
  rcases ht : talkToAmqp (c.fetch id remove) {} w with ⟨r, link', w'⟩
  rw [ht] at hanswer hstays
  simp only [Connector.fetch, ht]
  exact ⟨.inr ⟨_, rfl⟩, hanswer, fun hgentle _ => hstays hgentle⟩

/-- An AMQP broker keeps its results as its shelf says. -/
theorem amqpShelf_guarded : amqpShelf.Guarded transport where
  create s d w id := by rw [create_broker]
  create_error _ _ _ _ h := create_error_not h
  connect := by
    rintro _ w (⟨d, link, rfl⟩ | ⟨c, rfl⟩)
    · exact connecting_native d link w
    · exact connecting_direct c w
  fetch := by
    rintro _ id remove w (⟨d, link, rfl⟩ | ⟨c, rfl⟩) hc
    · obtain ⟨link, rfl⟩ := Option.isSome_iff_exists.1 hc
      exact fetching_native d link id remove w
    · exact fetching_direct hc id remove w

end Network

/-! ## Malformed results -/

/-- No transport takes a malformed result for one that is not there. In memory there is no other
answer than that it is malformed, since the broker always answers. -/
theorem malformed_told :
    Memory.shelf.MalformedTold Memory.transport ∧
      (∀ h w, ¬ Handle.Hindered Memory.shelf Memory.transport h w) ∧
      Network.redisShelf.MalformedTold Network.transport ∧
      Network.amqpShelf.MalformedTold Network.transport :=
  ⟨Memory.shelf_guarded.malformedTold, Memory.not_hindered,
    Network.redisShelf_guarded.malformedTold, Network.amqpShelf_guarded.malformedTold⟩

/-- A handle that removes results looks at a value on Redis that is not an object. It is told, and
told again. -/
theorem malformed_told_redis :
    let h : Handle Connector :=
      ⟨⟨"7f3a"⟩, "add", "(1, 2)", {}, none, some (.redis ⟨{}, true⟩), .given⟩
    let w : World Network := .start
      { redis := Redis.Server.putString {} "celery-task-meta-7f3a" [0x5b, 0x5d] } ⟨0, 0⟩ 0
    let reason := "value under celery-task-meta-7f3a is not a JSON object"
    (h.isReady Network.transport w).1 = .error (.malformedResult reason) ∧
      (h.isReady Network.transport w).2.1.Told Network.redisShelf Network.transport reason
        (h.isReady Network.transport w).2.2 := by
  intro h w reason
  have huses : h.Uses Network.redisShelf Network.transport :=
    Handle.uses_of_connector _ rfl ⟨_, rfl⟩
  -- The look would remove, but the value is refused before the key is deleted.
  have hgentle : h.Gentle Network.redisShelf w := .inr ⟨.malformed reason, rfl⟩
  have hr : (h.isReady Network.transport w).1 = .error (.malformedResult reason) := rfl
  obtain ⟨hsame, hbody, hagain⟩ := malformed_told.2.2.1.again h w reason rfl huses hr
  exact ⟨hr, malformed_told.2.2.1.stays h w reason rfl huses hgentle hr _ (.refl _) _ hsame.id
    hbody hagain⟩

/-- It takes a gentle look and a broker that answers. A look in memory that removes a malformed
result is the only one that is told, and who waits afterwards waits in vain. On Redis a result
that is kept is out of reach once the server is stopped. -/
theorem malformed_told_once :
    (let h : Handle Memory.Connector := .new ⟨"7f3a"⟩ "add" "(1, 2)" {} .given
      let w : World Memory.Broker :=
        .start (({} : Memory.Broker).put ⟨"7f3a"⟩ (.ofJsonBytes [0x7b, 0x7d]) 0) ⟨0, 0⟩ 0
      let (r, h, w) := h.isReady Memory.transport w
      r = .error (.malformedResult
          ("undecodable result body: missing field " ++ Error.ticked "status")) ∧
        (h.isReady Memory.transport w).1 = .ok false ∧
        (h.get Memory.transport 1 (.ofMillis 0) Handle.usualInterval w).1 =
          some (.error (.timeout "add" "(1, 2)" (.ofMillis 0)))) ∧
    (let d : Descriptor := { keepMessages := true }
      let h : Handle Connector :=
        ⟨⟨"7f3a"⟩, "add", "(1, 2)", d, none, some (.redis ⟨d, true⟩), .given⟩
      let server : Redis.Server :=
        Redis.Server.putString {} "celery-task-meta-7f3a" [0x5b, 0x5d]
      let (r, h, w) := h.isReady Network.transport (.start { redis := server } ⟨0, 0⟩ 0)
      r = .error (.malformedResult
          "value under celery-task-meta-7f3a is not a JSON object") ∧
        (h.isReady Network.transport
            (w.setBroker { w.broker with redis := w.broker.redis.stop })).1 =
          .error (.connectionFailed "connection pool error: connection refused")) :=
  ⟨⟨rfl, rfl, rfl⟩, rfl, rfl⟩

end TaskQueue
