import Mathlib.Control.Monad.Basic
import TaskQueue.Proofs.Amqp.Elsewhere
import TaskQueue.Proofs.Amqp.Settlement
import TaskQueue.Transport.Network

/-!
# `TaskQueue.Proofs.Amqp.Losses`: which messages a fetch over AMQP loses

A `Visit` is one fetch of a client, by either connector, with the faults that it meets. What it
leaves of the queue of the task is told by `Settlement`, and it leaves all other queues alone.

`removed_with_queue` is about fetches that succeed: one that removes takes the first message of the
queue, and all others are deleted with the queue. `retryable_kept` is about fetches that fail with
an error that invites to try again: the messages are all there to be fetched, unless the fetch
removes and failed while it acknowledged the message and deleted the queue.
-/

set_option autoImplicit false

namespace TaskQueue
namespace Amqp

/-- Who fetches: the native connector or a direct one. If the native connector is connected, its
connection is still open or not. -/
inductive Client where
  | native (d : Descriptor) (isOpen : Option Bool)
  | direct (c : Direct)

namespace Client

/-- The fetch of the client. -/
def fetch (id : TaskId) (remove : Bool) : Client → Try (Option ResultMessage)
  | native d (some _) => Native.fetch d id remove
  | native _ none => Attempt.fail .notConnected
  | direct c => c.fetch id remove

/-- The connection that the client has. A direct connector keeps none. -/
def link : Client → Link
  | native _ isOpen => { isOpen := isOpen.getD false }
  | direct _ => {}

/-- Where the client reaches the broker, if it is connected. -/
def url? : Client → Option String
  | native d isOpen => isOpen.map fun _ => d.amqpUri
  | direct c => if c.connected then some c.url else none

/-- The connector on the network. -/
def connector : Client → Connector
  | native d isOpen => .native d (isOpen.map fun isOpen => { isOpen })
  | direct c => .direct c

end Client

/-- A fetch of a client, at some time and with the fates of its requests. -/
structure Visit where
  client : Client
  remove : Bool
  clock : Nat := 0
  fates : List (Option Fault) := []

namespace Visit

/-- What the fetch comes to, and the broker after it. -/
def hold (v : Visit) (id : TaskId) (b : Broker) : Found × Broker :=
  let (r, _, t) :=
    (v.client.fetch id v.remove).run.run Trial.answer ⟨⟨b, v.client.link, v.clock⟩, v.fates⟩
  (r, t.peer.broker)

/-- Several fetches, one after the other. -/
def holdAll (id : TaskId) : List Visit → Broker → List Found × Broker :=
  fetchAll fun v b => v.hold id b

variable (v : Visit) (id : TaskId) (b : Broker)

/-- Without faults it is the fetch of the connector on the network. -/
theorem hold_unharmed (hv : v.fates = []) (w : World Network) (hclock : v.clock = w.clock) :
    (v.hold id w.broker.amqp).1 = (v.client.connector.fetch id v.remove w).1 ∧
      (v.hold id w.broker.amqp).2 = (v.client.connector.fetch id v.remove w).2.2.broker.amqp := by
  obtain ⟨client, remove, clock, fates⟩ := v
  subst hv hclock
  have hrun := Trial.run_unharmed (client.fetch id remove).run
    ⟨w.broker.amqp, client.link, w.clock⟩
  -- What is logged on the way does not touch the broker.
  rcases client with ⟨d, _ | isOpen⟩ | c
  · exact ⟨rfl, rfl⟩
  · simp only [hold, hrun, Client.connector, Connector.fetch, Network.talkToAmqp, Option.map_some]
    exact ⟨rfl, rfl⟩
  · simp only [hold, hrun, Client.connector, Connector.fetch, Network.talkToAmqp]
    exact ⟨rfl, rfl⟩

/-- A fetch leaves of the queue of its task what its outcome says. -/
theorem settles : Settlement b id v.remove (v.hold id b).2.queues (v.hold id b).1 := by
  obtain ⟨client, remove, clock, fates⟩ := v
  have hstart : AtRest b id.resultQueue ⟨b, client.link, clock⟩ := by
    refine ⟨⟨rfl, rfl, rfl⟩, ?_⟩
    cases client with
    | native d isOpen => nofun
    | direct c => nofun
  have hfetch : Ending Trial.answer (fun t => AtRest b id.resultQueue t.peer)
      (client.fetch id remove) (Trial.Settled b id remove) := by
    rcases client with ⟨d, _ | isOpen⟩ | c
    · exact .done fun _ h => h.quiet.mono fun _ => .failed
    · exact Trial.native_settled d id remove
    · exact Trial.direct_settled id remove c
  exact (hfetch.holds ⟨⟨b, client.link, clock⟩, fates⟩ hstart).queues

/-- It leaves the messages of other queues where they are. -/
theorem elsewhere {other : String} (hother : id.resultQueue ≠ other) :
    (v.hold id b).2.queues.messages other = b.queues.messages other := by
  obtain ⟨client, remove, clock, fates⟩ := v
  have hstart : Elsewhere other (b.queues.messages other) ⟨b, client.link, clock⟩ := by
    refine ⟨rfl, ?_⟩
    cases client with
    | native d isOpen => nofun
    | direct c => nofun
  -- A native connector without a connection says nothing at all, so the broker is left as it is.
  have hfetch : Ending Trial.answer (fun t => Elsewhere other (b.queues.messages other) t.peer)
      (client.fetch id remove) fun _ t => Elsewhere other (b.queues.messages other) t.peer := by
    rcases client with ⟨d, _ | isOpen⟩ | c
    · exact .done fun _ h => h
    · exact Native.fetch_elsewhere hother d remove
    · exact Direct.fetch_elsewhere hother c remove
  exact (hfetch.holds ⟨⟨b, client.link, clock⟩, fates⟩ hstart).messages

/-- What a fetch by a connected client comes to on a broker that is calm. -/
theorem hold_calm {url : String} (hurl : v.client.url? = some url) (hv : v.fates = [])
    (hcalm : b.Calm url) : (v.hold id b).1 = b.found id := by
  obtain ⟨client, remove, clock, fates⟩ := v
  subst hv
  have hstart : Kept b id.resultQueue ⟨b, client.link, clock⟩ := ⟨rfl, rfl, rfl⟩
  -- A visit that nothing befalls is a run against the broker itself.
  have hrun := (Trial.run_unharmed (client.fetch id remove).run ⟨b, client.link, clock⟩).1
  have hfetch : Attempt.Triple Peer.answer (Kept b id.resultQueue) (client.fetch id remove)
      (Reported b id remove) (Missed b id remove url) := by
    rcases client with ⟨d, _ | isOpen⟩ | c
    · cases hurl
    · cases hurl
      exact Native.fetch_triple d id remove
    · cases hc : c.connected with
      | false =>
        rw [Client.url?, hc] at hurl
        cases hurl
      | true =>
        rw [Client.url?, hc] at hurl
        cases hurl
        exact Direct.fetch_triple c id remove hc
  rcases ((outcome_iff id remove url).1 (Dialogue.Triple.holds hfetch _ hstart)).2 with
    hfound | ⟨e, -, -, hbad⟩
  · exact hrun.trans hfound
  · exact absurd hcalm hbad

/-- From a queue without messages nobody gets one any more. -/
theorem holdAll_empty (vs : List Visit) (hempty : b.queues.messages id.resultQueue = []) :
    ∀ r ∈ (holdAll id vs b).1, ∀ m, r ≠ .ok (some m) :=
  (fetchAll_keeps (P := fun b : Broker => b.queues.messages id.resultQueue = [])
    (fun v b hempty => (v.settles id b).of_empty hempty) vs hempty).1

end Visit

/-- A fetch that succeeds over AMQP. The message that it returns was the first in the queue of the
task. If it removes, then the queue is deleted with all messages that are left in it, and no later
fetch of the task gets one of them. If it does not remove, or finds nothing, every message stays
where it is. Other queues are left alone in any case. -/
theorem removed_with_queue (v : Visit) (id : TaskId) (b : Broker) :
    (∀ m, (v.hold id b).1 = .ok (some m) →
      (b.queues.messages id.resultQueue).head? = some m ∧
        (v.remove = false → Same b id.resultQueue (v.hold id b).2.queues) ∧
        (v.remove = true → Gone id.resultQueue (v.hold id b).2.queues ∧
          ∀ later, ∀ r ∈ (Visit.holdAll id later (v.hold id b).2).1, ∀ m', r ≠ .ok (some m'))) ∧
      ((v.hold id b).1 = .ok none →
        b.queues.messages id.resultQueue = [] ∧ Same b id.resultQueue (v.hold id b).2.queues) ∧
      ∀ other, id.resultQueue ≠ other →
        (v.hold id b).2.queues.messages other = b.queues.messages other := by
  have hsettled := v.settles id b
  refine ⟨fun m hm => ?_, fun hnone => ?_, fun other => v.elsewhere id b⟩
  · rw [hm] at hsettled
    obtain ⟨hfirst, hleft⟩ := hsettled.of_some
    refine ⟨hfirst, fun hkeeps => ?_, fun hremoves => ?_⟩
    · rw [hkeeps] at hleft
      exact hleft
    · rw [hremoves, if_pos rfl] at hleft
      exact ⟨hleft, fun later => Visit.holdAll_empty id _ later
        (by rw [Queues.messages, show _ = none from hleft, Option.getD_none])⟩
  · rw [hnone] at hsettled
    exact hsettled.of_none

/-- A worker has said that the task is started, and then that it has succeeded. The first fetch gets
the former, and the latter is lost. -/
theorem removed_with_queue_two :
    let id : TaskId := ⟨"7f3a"⟩
    let started := ResultMessage.ofJsonText "\x7b\"status\":\"STARTED\"\x7d"
    let succeeded := ResultMessage.ofJsonText "\x7b\"status\":\"SUCCESS\"\x7d"
    let b : Broker := { queues := [(id.resultQueue, [started, succeeded])] }
    let v : Visit := { client := .native {} (some true), remove := true }
    (v.hold id b).1 = .ok (some started) ∧ Gone id.resultQueue (v.hold id b).2.queues ∧
      ∀ later, ∀ r ∈ (Visit.holdAll id later (v.hold id b).2).1, ∀ m, r ≠ .ok (some m) := by
  intro id started succeeded b v
  have hfirst : (v.hold id b).1 = .ok (some started) := by decide +kernel
  obtain ⟨-, -, hremoved⟩ := (removed_with_queue v id b).1 started hfirst
  exact ⟨hfirst, hremoved rfl⟩

/-- Both connectors lose the second of two messages. -/
theorem removed_with_queue_lost :
    let id : TaskId := ⟨"7f3a"⟩
    let started := ResultMessage.ofJsonText "\x7b\"status\":\"STARTED\"\x7d"
    let succeeded := ResultMessage.ofJsonText "\x7b\"status\":\"SUCCESS\"\x7d"
    let b : Broker := { queues := [(id.resultQueue, [started, succeeded])] }
    let native : Visit := { client := .native {} (some true), remove := true }
    let plain : Direct := .plain { host := "127.0.0.1" }
    let direct : Visit := { client := .direct { plain with connected := true }, remove := true }
    (Visit.holdAll id [native, native] b).1 = [.ok (some started), .ok none] ∧
      (Visit.holdAll id [direct, direct] b).1 = [.ok (some started), .ok none] := by
  decide +kernel

/-- A fetch that fails over AMQP with an error that invites to try again. All messages of the queue
are still there, and a connected client that tries again on a calm broker gets what there was at
first. The exception is a fetch that removes and fails with an error of the acknowledgement: it may
have lost the first message, or the whole queue. -/
theorem retryable_kept (v : Visit) (id : TaskId) (b : Broker) {e : ConnectorError}
    (he : (v.hold id b).1 = .error e) (hretryable : e.toError.isRetryable = true) :
    (Same b id.resultQueue (v.hold id b).2.queues ∧
        ∀ (again : Visit) (url : String) (calm : Broker), again.client.url? = some url →
          again.fates = [] → calm.queues = (v.hold id b).2.queues → calm.Calm url →
          (again.hold id calm).1 = b.found id) ∨
      v.remove = true ∧ (∃ reason, e = .ack reason) ∧
        (∃ m, (b.queues.messages id.resultQueue).head? = some m) ∧
        Torn b id.resultQueue (v.hold id b).2.queues := by
  have hsettled := v.settles id b
  rw [he] at hsettled
  refine (hsettled.of_retryable hretryable).imp_left fun hsame => ⟨hsame, ?_⟩
  intro again url calm hurl hfates hqueues hcalm
  rw [again.hold_calm id calm hurl hfates hcalm, Broker.found, Broker.found, hqueues, hsame]

/-- The connection is lost when the broker has taken the message from its queue but the client has
not received it. -/
theorem retryable_kept_unreceived :
    let id : TaskId := ⟨"7f3a"⟩
    let succeeded := ResultMessage.ofJsonText "\x7b\"status\":\"SUCCESS\"\x7d"
    let b : Broker := { queues := [(id.resultQueue, [succeeded])] }
    let lost : Fault := ⟨"connection reset", true, true⟩
    let v : Visit := { client := .native {} (some true), remove := true,
                       fates := [none, none, none, none, some lost] }
    (v.hold id b).1 = .error (.consume "connection reset") ∧
      Same b id.resultQueue (v.hold id b).2.queues := by
  intro id succeeded b lost v
  have he : (v.hold id b).1 = .error (.consume "connection reset") := by decide +kernel
  refine ⟨he, ((retryable_kept v id b he rfl).resolve_right ?_).1⟩
  rintro ⟨-, ⟨reason, hack⟩, -⟩
  cases hack

/-- A queue that cannot be deleted: the message is acknowledged, the fetch fails with an error that
invites to try again, and whoever does gets nothing. -/
theorem retryable_kept_acknowledged :
    let id : TaskId := ⟨"7f3a"⟩
    let succeeded := ResultMessage.ofJsonText "\x7b\"status\":\"SUCCESS\"\x7d"
    let b : Broker := { queues := [(id.resultQueue, [succeeded])], failing := ["queue.delete"] }
    let native : Visit := { client := .native {} (some true), remove := true }
    let plain : Direct := .plain { host := "127.0.0.1" }
    let direct : Visit := { client := .direct { plain with connected := true }, remove := true }
    ∀ v ∈ [native, direct],
      (v.hold id b).1 = .error (.ack "channel closed") ∧
        (ConnectorError.ack "channel closed").toError.isRetryable = true ∧
        (v.hold id { (v.hold id b).2 with failing := [] }).1 = .ok none := by
  decide +kernel

end Amqp
end TaskQueue
