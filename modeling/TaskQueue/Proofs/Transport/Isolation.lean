import TaskQueue.Proofs.Amqp.Losses
import TaskQueue.Proofs.Redis.Contention
import TaskQueue.Proofs.Task.Id

/-!
# `TaskQueue.Proofs.Transport.Isolation`: fetches keep to the result of their task

A fetch speaks of one place alone: over Redis of the key of its task, over AMQP of its queue.
`Redis.Reading` is one fetch over Redis, with the commands that fail meanwhile; `Amqp.Visit` is one
over AMQP. `isolated` says of any number of fetches for one task that they return what was at the
place of this task, and that they leave what is at the place of another.

So tasks are isolated as far as their places differ. Over Redis they always do. Over AMQP the queue
is named by the id without dashes, and `isolated_without_dashes` shows a task whose result goes to
another: the ids differ in a dash. Fresh ids are far from this, since all of them have their dashes
at the same places.
-/

set_option autoImplicit false

namespace TaskQueue

/-! ## Over Redis -/

namespace Redis

namespace Keys

/-- Other keys stay. -/
theorem get?_remove_of_ne {key other : String} (h : other ≠ key) (ks : Keys) :
    (ks.remove key).get? other = ks.get? other := by
  induction ks with
  | nil => rfl
  | cons k rest ih =>
    by_cases hk : k.1 = key
    · simpa [remove, get?, hk, h.symm] using ih
    · by_cases ho : k.1 = other
      · simp [remove, get?, ho, h]
      · simpa [remove, get?, hk, ho] using ih

end Keys

/-- The request reads, and it deletes no key but this one. -/
def Request.Reads (key : String) : Request → Prop
  | .lease => True
  | .call (.get _) => True
  | .call (.delete k) => k = key
  | _ => False

/-- What is left of the keys when only this one may have been deleted. -/
structure Spared (s₀ : Server) (key : String) (s : Server) : Prop where
  own : s.keys.get? key = s₀.keys.get? key ∨ s.keys.get? key = none
  others : ∀ other, other ≠ key → s.keys.get? other = s₀.keys.get? other

/-- What two steps spare, both together spare. -/
theorem Spared.trans {s₀ s s' : Server} {key : String} (h : Spared s₀ key s)
    (h' : Spared s key s') : Spared s₀ key s' := by
  refine ⟨?_, fun other hne => (h'.others other hne).trans (h.others other hne)⟩
  rcases h'.own with hsame | hgone
  · rw [hsame]
    exact h.own
  · exact .inr hgone

/-- A command is not executed, or executed on the same keys. -/
theorem call_keys (s : Server) (c : Command) :
    (s.call c).2.keys = s.keys ∨ ∃ s' : Server, s'.keys = s.keys ∧ s.call c = s'.execute c := by
  unfold Server.call
  split
  · exact .inl rfl
  · dsimp only
    split
    · exact .inl rfl
    · exact .inr ⟨{ s with log := s.log ++ [c] }, rfl, rfl⟩

/-- A step that leaves all keys alone spares each of them. -/
theorem Spared.of_keys {s s' : Server} {key : String} (h : s'.keys = s.keys) : Spared s key s' :=
  ⟨.inl (by rw [h]), fun _ _ => by rw [h]⟩

/-- Such a request spares all other keys. -/
theorem answer_spared {key : String} {q : Request} (hq : q.Reads key) (s : Server) :
    Spared s key (Server.answer q s).2 := by
  cases q with
  | dial url => cases hq
  | lease => exact .of_keys rfl
  | call c =>
    rcases call_keys s c with hsame | ⟨s', hkeys, hcall⟩
    · exact .of_keys hsame
    · rw [Server.answer, hcall]
      -- Reading changes nothing, and what is deleted is the key itself.
      cases c with
      | get k =>
        rw [Server.execute]
        split <;> exact .of_keys hkeys
      | delete k =>
        cases hq
        rw [Server.execute]
        split
        · refine ⟨.inr (Keys.get?_remove _ _), fun other hne => ?_⟩
          rw [Keys.get?_remove_of_ne hne, hkeys]
        · exact .of_keys hkeys
      | _ => cases hq

/-- A fetch touches the key of its own task only. -/
theorem Connector.fetch_reads (c : Connector) (id : TaskId) (remove : Bool) :
    (c.fetch id remove).run.Asks (Request.Reads id.resultKey) :=
  c.fetch_asks trivial trivial fun _ => rfl

/-- One fetch over Redis: who fetches, and what fails meanwhile. -/
structure Reading where
  connector : Connector
  remove : Bool
  listening : Bool := true
  failing : List (String × String) := []

namespace Reading

/-- The server while the fetch goes on. -/
def during (v : Reading) (s : Server) : Server :=
  { s with listening := v.listening, failing := v.failing }

/-- What the fetch comes to, and the server after it. -/
def hold (v : Reading) (id : TaskId) (s : Server) : Found × Server :=
  let (r, _, s) := (v.connector.fetch id v.remove).run.run Server.answer (v.during s)
  (r, s)

/-- Several fetches, one after the other. -/
def holdAll (id : TaskId) : List Reading → Server → List Found × Server :=
  fetchAll fun v s => v.hold id s

variable (v : Reading) (id : TaskId) (s : Server)

/-- As long as nothing else fails, it is the fetch of the connector on the network. -/
theorem hold_unharmed (w : World Network) (h : v.during w.broker.redis = w.broker.redis) :
    (v.hold id w.broker.redis).1 = ((TaskQueue.Connector.redis v.connector).fetch id v.remove w).1 ∧
      (v.hold id w.broker.redis).2 =
        ((TaskQueue.Connector.redis v.connector).fetch id v.remove w).2.2.broker.redis := by
  rw [hold, h]
  exact ⟨rfl, rfl⟩

/-- The key of the task is as it was, or it is gone. Other keys are as they were. -/
theorem hold_spared : Spared s id.resultKey (v.hold id s).2 := by
  have hkeeps : ∀ q : Request, q.Reads id.resultKey → ∀ s', Spared s id.resultKey s' →
      Spared s id.resultKey (Server.answer q s').2 :=
    fun q hq s' h => h.trans (answer_spared hq s')
  have hfetch := (v.connector.fetch_reads id v.remove).triple hkeeps
  exact hfetch.holds (v.during s) (.of_keys rfl)

/-- A message that is returned is what the server has for the task. -/
theorem found_of_hold {m : ResultMessage} (h : (v.hold id s).1 = .ok (some m)) :
    s.found id = .ok (some m) := by
  cases hc : v.connector.connected with
  | false =>
    rw [hold, Connector.fetch, Connector.demandConnected, hc] at h
    cases h
  | true =>
    have hkept : Kept (v.during s) id.resultKey (v.during s) := ⟨rfl, rfl, rfl⟩
    have hfetch := (v.connector.fetch_triple id hc v.remove).holds (v.during s) hkept
    rw [show ((v.connector.fetch id v.remove).run.run Server.answer (v.during s)).1 = _ from h]
      at hfetch
    exact hfetch.2

/-- What a fetch finds depends on what is under its key, and on nothing else at the server. -/
theorem found_congr {s s' : Server} (h : s'.keys.get? id.resultKey = s.keys.get? id.resultKey) :
    s'.found id = s.found id := by
  rw [Server.found, Server.found, h]

/-- Where only the key of the task may be gone, whatever is found was there before. -/
theorem found_of_spared {s₀ s : Server} {m : ResultMessage} (h : Spared s₀ id.resultKey s)
    (hfound : s.found id = .ok (some m)) : s₀.found id = .ok (some m) := by
  rcases h.own with hsame | hgone
  · rwa [found_congr id hsame] at hfound
  · -- Where the key is gone nothing is found.
    rw [Server.found, hgone] at hfound
    cases hfound

/-- Fetches in a row spare all keys but that of their task, and whatever one of them returns was
there before the first one. -/
theorem holdAll_spared (vs : List Reading) (s : Server) :
    (∀ r ∈ (holdAll id vs s).1, ∀ m, r = .ok (some m) → s.found id = .ok (some m)) ∧
      Spared s id.resultKey (holdAll id vs s).2 := by
  refine fetchAll_keeps (P := Spared s id.resultKey) (fun v s' hs => ⟨fun m hm => ?_, ?_⟩) vs
    (.of_keys rfl)
  · exact found_of_spared id hs (v.found_of_hold id s' hm)
  · exact hs.trans (v.hold_spared id s')

end Reading
end Redis

/-! ## Over AMQP -/

namespace Amqp

/-- A fetch adds no message to the queue of its task. -/
theorem Settlement.messages_subset {b : Broker} {id : TaskId} {remove : Bool} {qs : Queues}
    {r : Found} (h : Settlement b id remove qs r) :
    qs.messages id.resultQueue ⊆ b.queues.messages id.resultQueue := by
  -- The queue is as it was, or it is gone, or it has lost its first message.
  have hsame : Same b id.resultQueue qs →
      qs.messages id.resultQueue ⊆ b.queues.messages id.resultQueue := fun h => by
    rw [show qs.messages id.resultQueue = _ from h]
    exact List.Subset.refl _
  have hgone : Gone id.resultQueue qs →
      qs.messages id.resultQueue ⊆ b.queues.messages id.resultQueue := fun h => by
    rw [Queues.messages, show qs.get? id.resultQueue = none from h]
    exact List.nil_subset _
  cases h with
  | nothing _ same => exact hsame same
  | kept _ _ same => exact hsame same
  | removed _ _ gone => exact hgone gone
  | failed same => exact hsame same
  | malformed _ _ gone => exact hgone gone
  | torn _ _ torn =>
    rcases torn with same | tail | gone
    · exact hsame same
    · rw [tail]
      exact (List.tail_sublist _).subset
    · exact hgone gone

namespace Visit

variable (id : TaskId)

/-- Fetches in a row leave the messages of other queues where they are. -/
theorem holdAll_elsewhere {other : String} (hother : id.resultQueue ≠ other) (vs : List Visit)
    (b : Broker) :
    (holdAll id vs b).2.queues.messages other = b.queues.messages other :=
  (fetchAll_keeps (P := fun b' => b'.queues.messages other = b.queues.messages other)
    (R := fun _ => True) (fun v b' hb => ⟨trivial, (v.elsewhere id b' hother).trans hb⟩) vs rfl).2

/-- A fetch that returns a message found it in the queue of the task. -/
theorem mem_of_hold (v : Visit) (b : Broker) {m : ResultMessage}
    (h : (v.hold id b).1 = .ok (some m)) : m ∈ b.queues.messages id.resultQueue := by
  have hsettled := v.settles id b
  rw [h] at hsettled
  exact List.mem_of_mem_head? hsettled.of_some.1

/-- Whatever one of several fetches returns was in the queue of the task before the first one. -/
theorem mem_of_holdAll (vs : List Visit) (b : Broker) :
    ∀ r ∈ (holdAll id vs b).1, ∀ m, r = .ok (some m) → m ∈ b.queues.messages id.resultQueue := by
  -- Meanwhile the queue holds no message that it did not hold at first.
  refine (fetchAll_keeps (P := fun b' : Broker =>
    b'.queues.messages id.resultQueue ⊆ b.queues.messages id.resultQueue)
    (fun v b' hsub => ⟨fun m hm => ?_, ?_⟩) vs (List.Subset.refl _)).1
  · exact hsub (mem_of_hold id v b' hm)
  · exact List.Subset.trans (v.settles id b').messages_subset hsub

end Visit
end Amqp

/-! ## Two tasks -/

/-- Two tasks with different ids. Over Redis each has its key, and fetches for the one, whatever
fails meanwhile, return what the key of this one held, and leave the key of the other alone. Over
AMQP the same holds for the queues of the two tasks if the ids differ in more than their dashes.
They do if they have their dashes at the same places, as all fresh ids have. -/
theorem isolated {a b : TaskId} (hne : a ≠ b) :
    (a.resultKey ≠ b.resultKey ∧ ∀ (vs : List Redis.Reading) (s : Redis.Server),
      (Redis.Reading.holdAll a vs s).2.keys.get? b.resultKey = s.keys.get? b.resultKey ∧
      ∀ m, .ok (some m) ∈ (Redis.Reading.holdAll a vs s).1 → s.found a = .ok (some m)) ∧
    (a.letters ≠ b.letters → a.resultQueue ≠ b.resultQueue ∧
      ∀ (vs : List Amqp.Visit) (k : Amqp.Broker),
        (Amqp.Visit.holdAll a vs k).2.queues.messages b.resultQueue =
          k.queues.messages b.resultQueue ∧
        ∀ m, .ok (some m) ∈ (Amqp.Visit.holdAll a vs k).1 →
          m ∈ k.queues.messages a.resultQueue) ∧
    (a.marks = b.marks → a.letters ≠ b.letters) ∧
    ∀ i j, (TaskId.fresh i).marks = (TaskId.fresh j).marks := by
  have hkeys : a.resultKey ≠ b.resultKey := fun h => hne (TaskId.resultKey_injective h)
  refine ⟨⟨hkeys, fun vs s => ⟨?_, fun m => ?_⟩⟩, fun hletters => ?_, fun hmarks h => ?_,
    fun i j => ?_⟩
  · exact (Redis.Reading.holdAll_spared a vs s).2.others _ hkeys.symm
  · exact fun hm => (Redis.Reading.holdAll_spared a vs s).1 _ hm m rfl
  · have hqueues : a.resultQueue ≠ b.resultQueue :=
      fun h => hletters (TaskId.resultQueue_eq_iff.1 h)
    refine ⟨hqueues, fun vs k => ⟨?_, fun m => ?_⟩⟩
    · exact Amqp.Visit.holdAll_elsewhere a hqueues vs k
    · exact fun hm => Amqp.Visit.mem_of_holdAll a vs k _ hm m rfl
  · exact hne (TaskId.eq_of_resultQueue hmarks (TaskId.resultQueue_eq_iff.2 h))
  · exact (TaskId.marks_fresh i).trans (TaskId.marks_fresh j).symm

/-- The result of the second task is there, that of the first is not. -/
theorem isolated_two :
    let a : TaskId := ⟨"7f3a"⟩
    let b : TaskId := ⟨"7f3a-1"⟩
    let m := ResultMessage.ofJsonText "\x7b\"status\":\"SUCCESS\"\x7d"
    let k : Amqp.Broker := { queues := [(b.resultQueue, [m])] }
    let v : Amqp.Visit := { client := .native {} (some true), remove := true }
    a ≠ b ∧ a.letters ≠ b.letters ∧ (v.hold a k).1 = .ok none ∧
      (Amqp.Visit.holdAll a [v, v] k).2.queues.messages b.resultQueue = [m] := by
  intro a b m k v
  have hne : a ≠ b := by decide
  have hletters : a.letters ≠ b.letters := by decide +kernel
  have hkept := (((isolated hne).2.1 hletters).2 [v, v] k).1
  exact ⟨hne, hletters, by decide +kernel, hkept.trans (by decide +kernel)⟩

/-- These ids differ in a dash. A fetch for the first task, by either connector, returns the result
of the second one, and when it removes, the result is lost. -/
theorem isolated_without_dashes :
    let a : TaskId := ⟨"a-b"⟩
    let b : TaskId := ⟨"ab"⟩
    let m := ResultMessage.ofJsonText "\x7b\"status\":\"SUCCESS\",\"result\":4\x7d"
    let k : Amqp.Broker := { queues := [(b.resultQueue, [m])] }
    let native : Amqp.Visit := { client := .native {} (some true), remove := true }
    let plain : Amqp.Direct := .plain { host := "127.0.0.1" }
    let direct : Amqp.Visit :=
      { client := .direct { plain with connected := true }, remove := true }
    a ≠ b ∧ a.resultQueue = b.resultQueue ∧
      ∀ v ∈ [native, direct], (v.hold b k).1 = .ok (some m) ∧
        (Amqp.Visit.holdAll a [v] k).1 = [.ok (some m)] ∧
        (Amqp.Visit.holdAll a [v] k).2.queues.messages b.resultQueue = [] := by
  decide +kernel

end TaskQueue
