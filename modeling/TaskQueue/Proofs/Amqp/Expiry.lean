import Mathlib.Algebra.Group.Int.Defs
import Mathlib.Algebra.Group.Nat.Defs
import TaskQueue.Proofs.Amqp.Repetition
import TaskQueue.Proofs.Amqp.Handles

/-!
# `TaskQueue.Proofs.Amqp.Expiry`: how long the queue of a result is said to live

Each fetch declares the queue of its task, and says how many milliseconds the queue may be unused
before it goes away. The number of a descriptor has 64 bits, and so has the field, but the field has
a sign: `toInt64_eq` is what becomes of a number there.

`expiry_declared` is about every fetch of either connector, whatever it is answered. There are
arguments that belong to the descriptor, and a fetch that has a channel declares the queue with
these and no others, once. So all fetches of a task declare its queue in one way, which a broker
takes as often as it comes. The arguments name the number of the descriptor if its highest bit is
not set. If it is, they name a negative number, and no queue can live so long.
-/

set_option autoImplicit false

namespace TaskQueue

open Dialogue (Heard Course)

namespace Amqp

/-! ## The number -/

/-- Numbers whose highest bit is set come out `2 ^ 64` too small. -/
theorem toInt64_eq {n : Nat} (hn : n < 2 ^ 64) :
    toInt64 n = if n < 2 ^ 63 then (n : Int) else (n : Int) - 2 ^ 64 := by
  have hwrapped : toInt64 n = (n : Int).bmod (2 ^ 64) := rfl
  rw [hwrapped, Int.bmod_def]
  split <;> split <;> omega

/-- The arguments name the number of the descriptor, as it comes out in the field. -/
theorem resultQueueArguments_eq (d : Descriptor) :
    resultQueueArguments d =
      if d.resultExpire = 0 then []
      else [("x-expires", .int64 (toInt64 d.resultExpire.toNat))] := by
  unfold resultQueueArguments Descriptor.resultTtl
  by_cases hnever : d.resultExpire = 0
  · rw [if_pos hnever, if_pos hnever]
  · have hmillis : (Duration.ofMillis d.resultExpire.toNat).millis = d.resultExpire.toNat :=
      Nat.mul_div_cancel _ (by decide)
    rw [if_neg hnever, if_neg hnever]
    simp only [hmillis]

/-! ## Declarations -/

/-- The declarations of queues among what is said, in order. -/
def declarations (heard : Heard Request Answer) : List Request :=
  (heard.filter (calls "queue.declare")).map Sigma.fst

/-- The declarations of two parts come one after the other. -/
theorem declarations_append (xs ys : Heard Request Answer) :
    declarations (xs ++ ys) = declarations xs ++ declarations ys := by
  rw [declarations, List.filter_append, List.map_append]
  rfl

/-- Looks at a queue, settles what was found there, or has to do with the time. -/
def Request.Looks (q : Request) : Prop :=
  q.Settles ∨ match q with
    | .call (.basicGet ..) | .clock | .sleep _ => True
    | _ => False

/-- A request of a look is no declaration. -/
theorem Request.Looks.declares_not {x : (q : Request) × Answer q} (h : x.1.Looks) :
    calls "queue.declare" x = false := by
  rcases h with h | h
  · exact h.calls.2.1
  · obtain ⟨q, a⟩ := x
    cases q with
    | call m =>
      cases m with
      | basicGet _ _ => rfl
      | _ => exact h.elim
    | dial _ | lease _ => exact h.elim
    | clock | sleep _ => rfl

/-- Settling a message belongs to a look. -/
theorem settled_looks (id : TaskId) (delivery : Delivery) (remove : Bool) :
    (settled id delivery remove).run.Asks Request.Looks :=
  (settled_asks id delivery remove).mono fun _ => .inl

/-- So does getting one. -/
theorem getOne_looks (queue : String) : (getOne queue).run.Asks Request.Looks :=
  demand_asks (.ask (.inr trivial) fun _ => .done _)

/-- A single look is made of such requests. -/
theorem lookOnce_looks (id : TaskId) (remove : Bool) :
    (lookOnce id remove).run.Asks Request.Looks := by
  refine Attempt.asks_bind (getOne_looks _) fun taken => ?_
  cases taken with
  | some delivery => exact settled_looks id delivery remove
  | none => exact .note (.done _)

/-- So is a look that may be followed by another, if that one is. -/
theorem look_looks (deadline : Nat) (id : TaskId) (remove : Bool)
    {again : Try (Option ResultMessage)} (hagain : again.run.Asks Request.Looks) :
    (Direct.look deadline id remove again).run.Asks Request.Looks := by
  refine Attempt.asks_bind (getOne_looks _) fun taken => ?_
  cases taken with
  | some delivery => exact settled_looks id delivery remove
  | none =>
    refine Attempt.asks_bind (.ask (.inr trivial) fun _ => .done _) fun now => ?_
    split
    · exact .note (.done _)
    · exact hagain

/-- So are all looks of a fetch, by induction on how many may follow. -/
theorem lookUntil_looks (deadline : Nat) (id : TaskId) (remove : Bool) (retries : Nat) :
    (Direct.lookUntil deadline id remove retries).run.Asks Request.Looks := by
  induction retries with
  | zero => exact look_looks deadline id remove (.note (.done _))
  | succ retries ih =>
    exact look_looks deadline id remove
      (Attempt.asks_bind (.ask (.inr trivial) fun _ => .done _) fun _ => ih)

/-- Nobody declares a queue to look at it. -/
theorem declarations_looks {work : Try (Option ResultMessage)}
    (hwork : work.run.Asks Request.Looks) {heard : Heard Request Answer}
    {r : Except ConnectorError (Option ResultMessage)} (h : Course work.run heard r) :
    declarations heard = [] := by
  have hquiet : ∀ x ∈ heard, ¬ calls "queue.declare" x = true := fun x hx => by
    simp [(hwork.of_course h x hx).declares_not]
  rw [declarations, List.filter_eq_nil_iff.2 hquiet, List.map_nil]

/-- A queue is declared once before it is looked at. -/
theorem Declared.declarations {d : Descriptor} {id : TaskId} {work : Try (Option ResultMessage)}
    (hwork : work.run.Asks Request.Looks) {heard : Heard Request Answer}
    {r : Except ConnectorError (Option ResultMessage)} (h : Declared d id work heard r) :
    Amqp.declarations heard = [.call (declaring d id)] := by
  cases h with
  | undeclared reason => rfl
  | unbound reason => rfl
  | @declared rest r hcourse =>
    have hrest : Amqp.declarations rest = [] := declarations_looks hwork hcourse
    exact congrArg (Request.call (declaring d id) :: ·) hrest

/-! ## Fetches -/

/-- A fetch for a task, by a connector of either kind that was made for the descriptor. -/
inductive Fetching (d : Descriptor) (id : TaskId) : Try (Option ResultMessage) → Prop
  | native (remove : Bool) : Fetching d id (Native.fetch d id remove)
  | direct {c : Direct} (remove : Bool) : c.descriptor = d → Fetching d id (c.fetch id remove)

/-- A fetch declares the queue of its task once if it gets a channel, and no queue otherwise. -/
theorem Fetching.declarations {d : Descriptor} {id : TaskId} {t : Try (Option ResultMessage)}
    (ht : Fetching d id t) {heard : Heard Request Answer}
    {r : Except ConnectorError (Option ResultMessage)} (h : Course t.run heard r) :
    (openedChannel ∈ heard → Amqp.declarations heard = [.call (declaring d id)]) ∧
      (openedChannel ∉ heard → Amqp.declarations heard = []) := by
  cases ht with
  | native remove =>
    cases Native.course_onChannel_iff.1 h with
    | unreached reason => exact ⟨by simp [openedChannel], fun _ => rfl⟩
    | refused reason => exact ⟨by simp [openedChannel], fun _ => rfl⟩
    | @held said _ x hsaid =>
      -- No look declares a queue, so only what was said before the first of them counts.
      have honce := (Native.course_fetchOnce_iff.1 hsaid).declarations (lookOnce_looks id remove)
      refine ⟨fun _ => ?_, fun hunopened => (hunopened (by simp)).elim⟩
      exact (declarations_append said [closedChannel x]).trans (by rw [honce]; rfl)
  | @direct c remove hc =>
    subst hc
    cases Direct.course_inSession_iff.1 h with
    | unconnected _ => exact ⟨by simp, fun _ => rfl⟩
    | unreached reason _ => exact ⟨by simp [openedChannel], fun _ => rfl⟩
    | refused reason x _ => exact ⟨by simp [openedChannel, closedConnection], fun _ => rfl⟩
    | @held said _ x y _ hsaid =>
      obtain ⟨now, rest, rfl, hdeclared⟩ := Direct.course_watch hsaid
      have honce := hdeclared.declarations (lookUntil_looks _ id remove _)
      refine ⟨fun _ => ?_, fun hunopened => (hunopened (by simp)).elim⟩
      exact (declarations_append rest [closedChannel x, closedConnection y]).trans
        (by rw [honce]; rfl)

/-- All fetches of a task declare its queue with the same flags and the same arguments, and each
fetch that gets a channel does so once. The arguments say nothing of a life that has no end.
Otherwise they name its length, which is right exactly if the highest bit of the number is not set,
and negative if it is. -/
theorem expiry_declared (d : Descriptor) (id : TaskId) :
    ∃ arguments : Table,
      (∀ {t : Try (Option ResultMessage)}, Fetching d id t → ∀ {heard : Heard Request Answer}
        {r : Except ConnectorError (Option ResultMessage)}, Course t.run heard r →
        (openedChannel ∈ heard → declarations heard =
          [.call (.queueDeclare id.resultQueue
            { durable := d.durableResultQueue, autoDelete := true } arguments)]) ∧
        (openedChannel ∉ heard → declarations heard = [])) ∧
      (d.resultExpire = 0 → arguments = []) ∧
      (d.resultExpire ≠ 0 → ∃ n : Int, arguments = [("x-expires", .int64 n)] ∧
        (n = d.resultExpire.toNat ↔ d.resultExpire.toNat < 2 ^ 63) ∧
        (2 ^ 63 ≤ d.resultExpire.toNat → n = d.resultExpire.toNat - 2 ^ 64 ∧ n < 0)) := by
  refine ⟨resultQueueArguments d, fun ht _ _ h => ht.declarations h, ?never, ?later⟩
  case never =>
    intro hnever
    rw [resultQueueArguments_eq, if_pos hnever]
  case later =>
    intro hlater
    have hsize := d.resultExpire.toNat_lt
    refine ⟨toInt64 d.resultExpire.toNat, by rw [resultQueueArguments_eq, if_neg hlater], ?_⟩
    rw [toInt64_eq hsize]
    by_cases hlow : d.resultExpire.toNat < 2 ^ 63
    · rw [if_pos hlow]
      omega
    · rw [if_neg hlow]
      omega

/-- A broker with which a connection is open. -/
def Peer.reached : Peer := ⟨{}, { isOpen := true }, 0⟩

/-- A connector that is connected, and has results live for a minute. -/
def Direct.minute : Direct :=
  { plain { host := Broker.host, resultExpire := 60000 } with connected := true }

/-- Both connectors declare a queue that lives for a minute, also if it cannot be bound. -/
theorem expiry_declared_minute :
    let declaration : Request := .call (.queueDeclare "t1" { durable := true, autoDelete := true }
      [("x-expires", .int64 60000)])
    declarations ((Native.fetch Direct.minute.descriptor ⟨"t-1"⟩ true).run.transcript
        Peer.answer .reached) = [declaration] ∧
      declarations ((Direct.minute.fetch ⟨"t-1"⟩ false).run.transcript
        Peer.answer .unbinding) = [declaration] := by
  intro declaration
  obtain ⟨arguments, hdeclares, -, hlater⟩ :=
    expiry_declared Direct.minute.descriptor ⟨"t-1"⟩
  obtain ⟨n, rfl, hexact, -⟩ := hlater (by decide)
  obtain rfl : n = 60000 := hexact.2 (by decide)
  exact ⟨(hdeclares (.native true) (Dialogue.course_transcript _ _ _)).1
      (List.mem_of_getElem? (i := 1) rfl),
    (hdeclares (.direct false rfl) (Dialogue.course_transcript _ _ _)).1
      (List.mem_of_getElem? (i := 1) rfl)⟩

/-- A life of `2 ^ 63` milliseconds is declared as a negative one. -/
theorem expiry_declared_negative :
    let d : Descriptor := { host := Broker.host, resultExpire := 9223372036854775808 }
    declarations ((Native.fetch d ⟨"t-1"⟩ true).run.transcript Peer.answer .reached) =
      [.call (.queueDeclare "t1" { durable := true, autoDelete := true }
        [("x-expires", .int64 (-9223372036854775808))])] := by
  decide +kernel

end Amqp
end TaskQueue
