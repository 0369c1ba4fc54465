import TaskQueue.Proofs.Amqp.Losses
import TaskQueue.Proofs.Dialogue.Protocol

/-!
# `TaskQueue.Proofs.Amqp.Custody`: how a reader handles messages that are not its own

A fetch that does not remove takes a message from its queue and puts it back. `keeping` is the
protocol that it keeps to, whatever it is answered. It takes messages from one queue only. It never
acknowledges a message, never deletes a queue and never lets go of a message otherwise than to put
it back. It neither replaces its channel nor ends while the channel may hold a message. Nor does it
register a consumer: there is no method for that.

`Client.fetch_follows` says so of the fetches of both connectors. It also says that a fetch returns
only what it was given.
-/

set_option autoImplicit false

namespace TaskQueue
namespace Amqp

/-- What a reader knows by the answers that it got. -/
structure Custody where
  /-- The channel holds no message. -/
  free : Bool
  /-- The messages that were given to the reader. -/
  given : List ResultMessage

namespace Custody

/-- What a reader may ask for that takes messages from a queue and puts them back. It gives up a
channel only if the channel is free. -/
def Allows (queue : String) (c : Custody) : Request → Prop
  | .dial _ | .lease _ | .call .channelOpen => c.free = true
  | .call (.basicGet q noAck) => q = queue ∧ noAck = false
  | .call (.basicNack _ _ requeue) => requeue = true
  | .call (.queueDeclare ..) | .call (.queueBind ..) => True
  | .call (.channelClose ..) | .call (.connectionClose ..) => True
  | .clock | .sleep _ => True
  | .call _ => False

/-- What the reader knows after an answer. If taking a message failed, the channel may hold one that
the reader was not given. A channel that was closed is free, even if closing it failed. -/
def next (c : Custody) : (q : Request) → Answer q → Custody
  | .call (.basicGet ..), .ok none => c
  | .call (.basicGet ..), .ok (some d) => ⟨false, d.message :: c.given⟩
  | .call (.basicGet ..), .error _ => { c with free := false }
  | .call (.channelClose ..), _ => { c with free := true }
  | .call (.connectionClose ..), _ => { c with free := true }
  | _, _ => c

/-- From a method that failed the reader was given nothing. -/
theorem given_next_error (c : Custody) (m : Method) (reason : String) :
    (c.next (.call m) (.error reason)).given = c.given := by
  cases m <;> rfl

end Custody

/-- The protocol of a reader that keeps what it finds on a queue. -/
def keeping (queue : String) : Protocol Request Answer Custody where
  allows := Custody.Allows queue
  next := Custody.next

/-- What was found was given to the reader. -/
def Given (r : Option ResultMessage) (c : Custody) : Prop := ∀ m ∈ r, m ∈ c.given

/-- When a fetch is over, the channel is free, and what the fetch returns was given to it. -/
structure Over (r : Found) (c : Custody) : Prop where
  free : c.free = true
  given : ∀ m, r = .ok (some m) → m ∈ c.given

/-! ## Requests -/

section
variable {queue : String} {c : Custody}

/-- A method that is allowed, and what the reader knows then. -/
theorem call_follows {m : Method} (h : c.Allows queue (.call m)) :
    Dialogue.Follows (keeping queue) (fun r c' => c' = c.next (.call m) r) c (call m) :=
  .ask h fun _ => .done rfl

/-- A demand follows where its request does, and it fails where that fails. -/
theorem demand_follows {α : Type} {fault : String → ConnectorError} {t : Talk (Except String α)}
    {M : Except String α → Custody → Prop} {R : α → Custody → Prop}
    {E : ConnectorError → Custody → Prop} (ht : Dialogue.Follows (keeping queue) M c t)
    (hR : ∀ a c, M (.ok a) c → R a c) (hE : ∀ reason c, M (.error reason) c → E (fault reason) c) :
    Attempt.Follows (keeping queue) R E c (demand fault t) := by
  refine Dialogue.Follows.bind ht fun r c h => ?_
  cases r with
  | ok a => exact .done (hR a c h)
  | error reason => exact .done (hE reason c h)

/-- Whatever comes of closing the channel or the connection, the channel is free. -/
theorem closing_follows {what : String} {m : Method} (h : c.Allows queue (.call m))
    (hm : ∀ r, c.next (.call m) r = { c with free := true }) :
    Dialogue.Follows (keeping queue) (fun _ c' => c' = { c with free := true }) c
      (closing what m) := by
  refine Dialogue.Follows.bind (call_follows h) fun r c' hc' => ?_
  have hfree : c' = { c with free := true } := hc'.trans (hm r)
  cases r with
  | ok a => exact .done hfree
  | error reason => exact .note (.done hfree)

/-! ## On a channel -/

/-- Something that is done on a channel and may leave messages on it. -/
def Works {α : Type} (queue : String) (R : α → Custody → Prop) (c : Custody) (t : Try α) : Prop :=
  Attempt.Follows (keeping queue) R (fun _ _ => True) c t

/-- A method that is called on the channel. -/
theorem method_works (m : Method) {fault : String → ConnectorError} {R : m.Reply → Custody → Prop}
    (h : c.Allows queue (.call m)) (hR : ∀ a, R a (c.next (.call m) (.ok a))) :
    Works queue R c (demand fault (call m)) := by
  refine demand_follows (call_follows h) ?_ fun _ _ _ => trivial
  rintro a _ rfl
  exact hR a

/-- Declaring the queue leaves the channel as free as it was. -/
theorem declareResultQueue_works (d : Descriptor) :
    Works queue (fun _ _ => True) c (declareResultQueue d queue) :=
  .bind (R := fun _ _ => True) (method_works (.queueDeclare queue _ _) trivial fun _ => trivial)
    fun _ _ _ => method_works (.queueBind queue _ queue) trivial fun _ => trivial

/-- A message that is taken was given to the reader. -/
theorem getOne_works :
    Works queue (fun taken c => ∀ d ∈ taken, d.message ∈ c.given) c (getOne queue) := by
  refine method_works (.basicGet queue false) ⟨rfl, rfl⟩ ?_
  rintro (_ | d)
  · nofun
  · rintro _ ⟨⟩
    exact List.mem_cons_self

/-- A message that passes the check is what it was. -/
theorem checked_eq {m m' : ResultMessage} (h : checked m = .ok m') : m' = m := by
  unfold checked at h
  split at h
  · cases h
    rfl
  · cases h

/-- Settling a message that is kept puts it back and returns it. -/
theorem settle_works {d : Delivery} (hd : d.message ∈ c.given) :
    Works queue (fun m c => m ∈ c.given) c (settle queue d false) := by
  have hnack : Works queue (fun _ c => d.message ∈ c.given) c
      (demand .ack (call (.basicNack d.tag false true))) := method_works _ rfl fun _ => hd
  refine .bind hnack fun _ c' hc' => .ofExcept ?_
  cases h : checked d.message with
  | ok m =>
    rw [checked_eq h]
    exact hc'
  | error e => trivial

/-- A message that was taken is what is found. -/
theorem found_works {d : Delivery} (hd : d.message ∈ c.given) :
    Works queue Given c (do return some (← settle queue d false)) := by
  refine .bind (settle_works hd) fun m _ hm => .pure ?_
  rintro _ ⟨⟩
  exact hm

/-- Finding nothing gives the reader nothing. -/
theorem notReady_works {id : TaskId} : Works queue Given c (notReady id) :=
  .bind (R := fun _ _ => True) (.log trivial) fun _ _ _ => .pure nofun

/-- Reading the clock has nothing to do with the channel. -/
theorem now_works : Works queue (fun _ _ => True) c Direct.now :=
  .ask trivial fun _ => .done trivial

/-- Neither has a pause. -/
theorem pause_works (nanoseconds : Nat) :
    Works queue (fun _ _ => True) c (Direct.pause nanoseconds) :=
  .ask trivial fun _ => .done trivial

variable {id : TaskId}

/-- The native connector looks once. -/
theorem fetchOnce_works (d : Descriptor) :
    Works id.resultQueue Given c (Native.fetchOnce d id false) := by
  refine .bind (declareResultQueue_works d) fun _ _ _ => .bind getOne_works fun taken _ htaken => ?_
  cases taken with
  | none => exact notReady_works
  | some d => exact found_works (htaken d rfl)

/-- One look, when looking again is allowed. -/
theorem look_works (deadline : Nat) {again : Try (Option ResultMessage)}
    (hagain : ∀ c, Works id.resultQueue Given c again) :
    Works id.resultQueue Given c (Direct.look deadline id false again) := by
  refine .bind getOne_works fun taken _ htaken => ?_
  cases taken with
  | some d => exact found_works (htaken d rfl)
  | none =>
    refine .bind now_works fun n c _ => ?_
    split
    · exact notReady_works
    · exact hagain c

/-- The direct connector looks again and again. -/
theorem lookUntil_works (deadline retries : Nat) :
    Works id.resultQueue Given c (Direct.lookUntil deadline id false retries) := by
  -- A further look may come after anything: taking a message is allowed on any channel.
  induction retries generalizing c with
  | zero => exact look_works deadline fun _ => notReady_works
  | succ retries ih =>
    exact look_works deadline fun _ => .bind (pause_works _) fun _ _ _ => ih

/-! ## A fetch -/

/-- Closing the channel after something was done on it leaves its outcome, and frees the channel. -/
theorem closeChannel_follows {r : Found}
    (hr : Attempt.Outcome Given (fun _ _ => True) r c) :
    Dialogue.Follows (keeping queue) (fun _ => Over r) c closeChannel := by
  refine (closing_follows (m := .channelClose closeCode closeText) trivial fun _ => rfl).mono ?_
  rintro _ _ rfl
  refine ⟨rfl, fun m hm => ?_⟩
  rw [hm] at hr
  exact hr m rfl

/-- When the fetch is over, closing the connection changes nothing about that. -/
theorem closeConnection_follows {r : Found} (hr : Over r c) :
    Dialogue.Follows (keeping queue) (fun _ => Over r) c closeConnection := by
  refine (closing_follows (m := .connectionClose closeCode closeText) trivial fun _ => rfl).mono ?_
  rintro _ _ rfl
  exact ⟨rfl, hr.given⟩

/-- A fetch that has failed has nothing to return. -/
theorem over_error {e : ConnectorError} (hc : c.free = true) : Over (.error e) c := by
  refine ⟨hc, fun m hm => ?_⟩
  cases hm

/-- On a free channel a demand that changes nothing either succeeds, or the fetch is over. -/
theorem opening_follows {fault : String → ConnectorError} {t : Talk (Except String Unit)}
    (hc : c.free = true) (ht : Dialogue.Follows (keeping queue) (fun _ c' => c' = c) c t) :
    Attempt.Follows (keeping queue) (fun _ c => c.free = true) (fun e c => Over (.error e) c) c
      (demand fault t) := by
  refine demand_follows ht ?_ ?_
  · rintro _ _ rfl
    exact hc
  · rintro _ _ rfl
    exact over_error hc

/-- A fetch is over in the same way whether it succeeds or fails. -/
theorem over_follows {t : Try (Option ResultMessage)}
    (h : Attempt.Follows (keeping queue) (fun r => Over (.ok r)) (fun e => Over (.error e)) c t) :
    Dialogue.Follows (keeping queue) Over c t.run :=
  h.mono fun _ _ => outcome_post_iff.1

variable (id : TaskId)

/-- The fetch of the native connector closes its channel after the look. -/
theorem Native.fetch_follows (d : Descriptor) (hc : c.free = true) :
    Dialogue.Follows (keeping id.resultQueue) Over c (Native.fetch d id false).run := by
  refine over_follows (.bind (opening_follows hc (.ask hc fun _ => .done rfl)) fun _ c hc => ?_)
  refine .bind (opening_follows hc (.ask hc fun _ => .done rfl)) fun _ c hc => ?_
  refine Dialogue.Follows.bind (fetchOnce_works d) fun r c hr => ?_
  refine Dialogue.Follows.bind (closeChannel_follows hr) fun _ c hover => ?_
  exact .done (outcome_post_iff.2 hover)

/-- The fetch of a direct connector closes its channel and its connection after the looks. -/
theorem Direct.fetch_follows (d : Direct) (hc : c.free = true) :
    Dialogue.Follows (keeping id.resultQueue) Over c (d.fetch id false).run := by
  rw [Direct.fetch, Direct.inSession]
  split
  · exact .done (over_error hc)
  refine over_follows (.bind (opening_follows hc (.ask hc fun _ => .done rfl)) fun _ c hc => ?_)
  refine Dialogue.Follows.bind (R := fun _ c => c.free = true) (.ask hc fun _ => .done hc)
    fun r c hc => ?_
  -- Without a channel there is only the connection to be closed.
  cases r with
  | error reason =>
    have hover : Over (.error (.connection reason)) c := over_error hc
    refine Dialogue.Follows.bind (closeConnection_follows hover) fun _ c hover => ?_
    exact .done (outcome_post_iff.2 hover)
  | ok =>
    have hwork : Works id.resultQueue Given c (do
        let deadline := (← Direct.now) + d.descriptor.waitDuration.nanoseconds
        declareResultQueue d.descriptor id.resultQueue
        Direct.lookUntil deadline id false (Direct.retries d.descriptor)) :=
      .bind now_works fun _ _ _ => .bind (declareResultQueue_works _) fun _ _ _ =>
        lookUntil_works _ _
    refine Dialogue.Follows.bind hwork fun r c hr => ?_
    refine Dialogue.Follows.bind (closeChannel_follows hr) fun _ c hover => ?_
    refine Dialogue.Follows.bind (closeConnection_follows hover) fun _ c hover => ?_
    exact .done (outcome_post_iff.2 hover)

end

/-- A reader that keeps what it finds keeps to the protocol, with either connector. -/
theorem Client.fetch_follows (client : Client) (id : TaskId) {c : Custody} (hc : c.free = true) :
    Dialogue.Follows (keeping id.resultQueue) Over c (client.fetch id false).run := by
  rcases client with ⟨d, _ | isOpen⟩ | d
  · exact .done (over_error hc)
  · exact Native.fetch_follows id d hc
  · exact Direct.fetch_follows id d hc

end Amqp
end TaskQueue
