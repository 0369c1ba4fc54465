import TaskQueue.Amqp.Broker
import TaskQueue.Proofs.Amqp.Sessions

/-!
# `TaskQueue.Proofs.Amqp.Handles`: whatever is opened is asked to close

An operation over AMQP may fail at each of its requests. `Operation` lists the operations that open
something, with what they do on their channel. `Released` is what is promised of each of them, for
every sequence of answers: as many closes as there were openings, the channel before its connection,
and nothing after them. `Earned` says where the result comes from, which is never a close: with
other answers to its closes (`reclosed`) the operation comes to the same.

`Operation.handles_released` is the main result. It goes by the courses of a session, so there is
nothing to be said of the single methods in it but that they open and close nothing
(`idle_inside`).
-/

set_option autoImplicit false

namespace TaskQueue

open Dialogue (Heard Course)

/-- What is of a kind of which there is nothing in front stands behind. -/
theorem split_behind {β : Type} {p : β → Bool} {front rest before after : List β} {x : β}
    (hfront : ∀ z ∈ front, p z = false) (h : front ++ rest = before ++ x :: after)
    (hx : p x = true) : ∃ more, before = front ++ more ∧ rest = more ++ x :: after := by
  rcases List.append_eq_append_iff.1 h with ⟨more, rfl, hmore⟩ | ⟨more, rfl, hmore⟩
  · exact ⟨more, rfl, hmore⟩
  · cases more with
    | nil => exact ⟨[], by simp, hmore.symm⟩
    | cons z more =>
      obtain ⟨rfl, -⟩ := List.cons_eq_cons.1 hmore
      exact absurd hx (Bool.eq_false_iff.1 (hfront x (by simp)))

/-- The places of a list are its front, and those of the rest. -/
theorem forall_split_cons {β : Type} {P : List β → β → List β → Prop} {y : β} {rest : List β} :
    (∀ before x after, y :: rest = before ++ x :: after → P before x after) ↔
      P [] y rest ∧ ∀ before x after, rest = before ++ x :: after → P (y :: before) x after := by
  constructor
  · intro h
    exact ⟨h [] y rest rfl, fun before x after hrest => h (y :: before) x after (by simp [hrest])⟩
  · rintro ⟨hfront, hrest⟩ before x after h
    cases before with
    | nil =>
      obtain ⟨rfl, rfl⟩ := List.cons_eq_cons.1 h
      exact hfront
    | cons z before =>
      obtain ⟨rfl, hmore⟩ := List.cons_eq_cons.1 h
      exact hrest before x after hmore

/-- Where nothing was said, no place has to be looked at. -/
theorem forall_split_nil {β : Type} {P : List β → β → List β → Prop} :
    ∀ before x after, [] = before ++ x :: after → P before x after := by
  simp

variable {α : Type}

namespace Amqp

/-! ## What is opened and what is closed -/

/-- A connection of one's own was opened. -/
def opensConnection : (q : Request) × Answer q → Bool
  | ⟨.dial _, .ok _⟩ => true
  | _ => false

/-- A channel was opened. -/
def opensChannel : (q : Request) × Answer q → Bool
  | ⟨.call .channelOpen, .ok _⟩ => true
  | _ => false

/-- A connection is asked to close, whatever the answer is. -/
def closesConnection : (q : Request) × Answer q → Bool
  | ⟨.call (.connectionClose ..), _⟩ => true
  | _ => false

/-- A channel is asked to close, whatever the answer is. -/
def closesChannel : (q : Request) × Answer q → Bool
  | ⟨.call (.channelClose ..), _⟩ => true
  | _ => false

/-- The same request, where a close is answered by one of these. -/
def reclosed (channel connection : Except String Unit) :
    (q : Request) × Answer q → (q : Request) × Answer q
  | ⟨.call (.channelClose code text), _⟩ => ⟨.call (.channelClose code text), channel⟩
  | ⟨.call (.connectionClose code text), _⟩ => ⟨.call (.connectionClose code text), connection⟩
  | x => x

/-- The operations that open something, and what they do on their channel if they open one. The
connection is an operation's own if it opens it itself. -/
inductive Operation : (own : Bool) → {α : Type} → Try α → Option (Try α) → Prop
  | connect (c : Direct) : Operation true c.connect none
  | publish (c : Direct) (routingKey : String) (envelope : Bytes)
      (properties : PublishProperties) :
      Operation true (c.publish routingKey envelope properties)
        (some (publishEnvelope c.descriptor routingKey envelope properties))
  | fetch (c : Direct) (id : TaskId) (remove : Bool) :
      Operation true (c.fetch id remove) (some (c.watch id remove))
  | nativePublish (d : Descriptor) (routingKey : String) (envelope : Bytes)
      (properties : PublishProperties) :
      Operation false (Native.publish d routingKey envelope properties)
        (some (publishEnvelope d routingKey envelope properties))
  | nativeFetch (d : Descriptor) (id : TaskId) (remove : Bool) :
      Operation false (Native.fetch d id remove) (some (Native.fetchOnce d id remove))

/-- All that was opened has been asked to close, in the right order. -/
structure Released (own : Bool) (heard : Heard Request Answer) : Prop where
  /-- One connection is opened at most, and one channel. -/
  single : heard.countP opensConnection ≤ 1 ∧ heard.countP opensChannel ≤ 1
  /-- A connection of the operation's own is asked to close once, and no other is. -/
  connections : heard.countP closesConnection = if own then heard.countP opensConnection else 0
  /-- The channel is asked to close once. -/
  channels : heard.countP closesChannel = heard.countP opensChannel
  /-- That is after it was opened. All that comes after it is the close of a connection of the
  operation's own. -/
  afterChannel : ∀ before x after, heard = before ++ x :: after → closesChannel x = true →
    (∃ y ∈ before, opensChannel y = true) ∧
      if own then ∃ z, after = [z] ∧ closesConnection z = true else after = []
  /-- The close of the connection comes after it was opened, and last of all. -/
  afterConnection : ∀ before x after, heard = before ++ x :: after → closesConnection x = true →
    (∃ y ∈ before, opensConnection y = true) ∧ after = []

/-- The reason why nothing could be opened. -/
def refusal? : (q : Request) × Answer q → Option String
  | ⟨.dial _, .error reason⟩ => some reason
  | ⟨.lease _, .error reason⟩ => some reason
  | ⟨.call .channelOpen, .error reason⟩ => some reason
  | _ => none

/-- Where the result of an operation comes from.

- `unconnected`: nothing was said, since the connector is not connected;
- `refused`: a connection or a channel could not be opened, and this is the reason;
- `connected`: nothing was to be done, or nothing more than to connect, and nothing was refused;
- `worked`: it is what the work on the channel came to. -/
inductive Earned (work : Option (Try α)) (heard : Heard Request Answer) :
    Except ConnectorError α → Prop
  | unconnected : heard = [] → Earned work heard (.error .notConnected)
  | refused {x : (q : Request) × Answer q} {reason : String} {e : ConnectorError} :
    x ∈ heard → refusal? x = some reason →
    e = .connection reason ∨ e = .pool (Native.unavailable reason) → Earned work heard (.error e)
  | connected (a : α) : work = none → (∀ x ∈ heard, refusal? x = none) → Earned work heard (.ok a)
  | worked {w : Try α} (before said after : Heard Request Answer) {r : Except ConnectorError α} :
    work = some w → Course w.run said r → heard = before ++ (said ++ after) →
    (∃ y ∈ before, opensChannel y = true) → Earned work heard r

/-! ## What is neither -/

/-- Nothing is opened or closed here. -/
structure Idle (x : (q : Request) × Answer q) : Prop where
  opensConnection : opensConnection x = false
  opensChannel : opensChannel x = false
  closesConnection : closesConnection x = false
  closesChannel : closesChannel x = false
  reclosed (channel connection : Except String Unit) : reclosed channel connection x = x

/-- A request that neither opens nor closes anything is idle. -/
theorem idle_inside {x : (q : Request) × Answer q} (h : x.1.Inside) : Idle x := by
  obtain ⟨q, a⟩ := x
  cases q with
  | call m =>
    cases m with
    | channelOpen => exact (h trivial).elim
    | channelClose _ _ => exact (h trivial).elim
    | connectionClose _ _ => exact (h trivial).elim
    | _ => exact ⟨rfl, rfl, rfl, rfl, fun _ _ => rfl⟩
  | dial _ => exact (h trivial).elim
  | lease _ => exact (h trivial).elim
  | clock => exact ⟨rfl, rfl, rfl, rfl, fun _ _ => rfl⟩
  | sleep _ => exact ⟨rfl, rfl, rfl, rfl, fun _ _ => rfl⟩

/-! ## All is released -/

section
variable {said : Heard Request Answer} {own : Bool} (hsaid : ∀ x ∈ said, Idle x)
include hsaid

/-- Nothing that is opened or closed is counted where all requests are idle. -/
theorem countP_idle :
    said.countP opensConnection = 0 ∧ said.countP opensChannel = 0 ∧
      said.countP closesConnection = 0 ∧ said.countP closesChannel = 0 := by
  refine ⟨?_, ?_, ?_, ?_⟩ <;> refine List.countP_eq_zero.2 fun x hx => ?_
  · simp [(hsaid x hx).opensConnection]
  · simp [(hsaid x hx).opensChannel]
  · simp [(hsaid x hx).closesConnection]
  · simp [(hsaid x hx).closesChannel]

/-- No close is there to be answered otherwise. -/
theorem map_reclosed_idle (channel connection : Except String Unit) :
    said.map (reclosed channel connection) = said :=
  (List.map_congr_left fun x hx => (hsaid x hx).reclosed channel connection).trans (List.map_id _)

/-- What is said before anything is closed makes no difference to what is released. -/
theorem Released.insert {opening closing : Heard Request Answer}
    (hopening : ∀ x ∈ opening, closesConnection x = false ∧ closesChannel x = false)
    (h : Released own (opening ++ closing)) : Released own (opening ++ (said ++ closing)) := by
  obtain ⟨hopened, hchannel, hclosed, hclosedChannel⟩ := countP_idle hsaid
  have hsingle := h.single
  have hconnections := h.connections
  have hchannels := h.channels
  simp only [List.countP_append] at hsingle hconnections hchannels
  refine ⟨?_, ?_, ?_, ?_, ?_⟩
  · simpa only [List.countP_append, hopened, hchannel, Nat.zero_add] using hsingle
  · simpa only [List.countP_append, hopened, hclosed, Nat.zero_add] using hconnections
  · simpa only [List.countP_append, hchannel, hclosedChannel, Nat.zero_add] using hchannels
  · intro before x after heq hx
    -- Nothing is closed in `opening` or in `said`, so this is a close of `closing`.
    obtain ⟨more, rfl, hmore⟩ := split_behind (fun z hz => (hopening z hz).2) heq hx
    obtain ⟨more, rfl, rfl⟩ := split_behind (fun z hz => (hsaid z hz).closesChannel) hmore hx
    obtain ⟨⟨y, hy, hopens⟩, hafter⟩ := h.afterChannel (opening ++ more) x after (by simp) hx
    refine ⟨⟨y, ?_, hopens⟩, hafter⟩
    rcases List.mem_append.1 hy with hy | hy <;> simp [hy]
  · intro before x after heq hx
    obtain ⟨more, rfl, hmore⟩ := split_behind (fun z hz => (hopening z hz).1) heq hx
    obtain ⟨more, rfl, rfl⟩ := split_behind (fun z hz => (hsaid z hz).closesConnection) hmore hx
    obtain ⟨⟨y, hy, hopens⟩, hafter⟩ := h.afterConnection (opening ++ more) x after (by simp) hx
    refine ⟨⟨y, ?_, hopens⟩, hafter⟩
    rcases List.mem_append.1 hy with hy | hy <;> simp [hy]

end

/-- Where nothing is said, there is nothing to release. -/
theorem released_nil (own : Bool) : Released own [] where
  single := ⟨Nat.zero_le 1, Nat.zero_le 1⟩
  connections := by simp
  channels := rfl
  afterChannel := forall_split_nil
  afterConnection := forall_split_nil

/-- Where nothing is opened and nothing is closed, there is nothing to release. -/
theorem released_idle {said : Heard Request Answer} (hsaid : ∀ x ∈ said, Idle x) (own : Bool) :
    Released own said := by
  rw [← List.append_nil said, ← List.nil_append (said ++ [])]
  exact (released_nil own).insert hsaid (by simp)

/-- A connection that was opened and closed. -/
theorem released_connection (url : String) (a : Except String Unit) :
    Released true ([⟨.dial url, .ok ()⟩] ++ [closedConnection a]) where
  single := ⟨Nat.le_refl 1, Nat.zero_le 1⟩
  connections := rfl
  channels := rfl
  afterChannel := forall_split_cons.2 ⟨nofun, forall_split_cons.2 ⟨nofun, forall_split_nil⟩⟩
  afterConnection := by
    refine forall_split_cons.2 ⟨nofun, forall_split_cons.2 ⟨fun _ => ?_, forall_split_nil⟩⟩
    exact ⟨⟨_, List.mem_cons_self, rfl⟩, rfl⟩

/-- A channel that was opened and closed, on a connection that is kept. -/
theorem released_channel (url : String) (a : Except String Unit) :
    Released false ([⟨.lease url, .ok ()⟩, openedChannel] ++ [closedChannel a]) where
  single := ⟨Nat.zero_le 1, Nat.le_refl 1⟩
  connections := rfl
  channels := rfl
  afterChannel := by
    refine forall_split_cons.2 ⟨nofun, forall_split_cons.2 ⟨nofun, forall_split_cons.2
      ⟨fun _ => ?_, forall_split_nil⟩⟩⟩
    exact ⟨⟨openedChannel, by simp, rfl⟩, rfl⟩
  afterConnection :=
    forall_split_cons.2 ⟨nofun, forall_split_cons.2 ⟨nofun, forall_split_cons.2
      ⟨nofun, forall_split_nil⟩⟩⟩

/-- A channel that was opened and closed, on a connection that was, too. -/
theorem released_session (url : String) (a b : Except String Unit) :
    Released true ([⟨.dial url, .ok ()⟩, openedChannel] ++ [closedChannel a, closedConnection b])
    where
  single := ⟨Nat.le_refl 1, Nat.le_refl 1⟩
  connections := rfl
  channels := rfl
  afterChannel := by
    refine forall_split_cons.2 ⟨nofun, forall_split_cons.2 ⟨nofun, forall_split_cons.2
      ⟨fun _ => ?_, forall_split_cons.2 ⟨nofun, forall_split_nil⟩⟩⟩⟩
    exact ⟨⟨openedChannel, by simp, rfl⟩, _, rfl, rfl⟩
  afterConnection := by
    refine forall_split_cons.2 ⟨nofun, forall_split_cons.2 ⟨nofun, forall_split_cons.2
      ⟨nofun, forall_split_cons.2 ⟨fun _ => ?_, forall_split_nil⟩⟩⟩⟩
    exact ⟨⟨_, List.mem_cons_self, rfl⟩, rfl⟩

/-! ## Operations -/

section
variable {heard : Heard Request Answer} {r : Except ConnectorError α} {work : Try α}

/-- What is promised of an operation, in terms of what was said and what that came to. -/
structure Releases (own : Bool) (t : Try α) (work : Option (Try α)) (heard : Heard Request Answer)
    (r : Except ConnectorError α) : Prop where
  /-- All that was opened has been asked to close. -/
  released : Released own heard
  /-- The result is that of an opening that failed, or else that of the work. -/
  earned : Earned work heard r
  /-- Whatever a close is answered, the operation says the same and comes to the same. -/
  indifferent : ∀ channel connection, Course t.run (heard.map (reclosed channel connection)) r

/-- Requests that could not open anything. -/
theorem idle_of_refusal {x : (q : Request) × Answer q} {reason : String}
    (h : refusal? x = some reason) : Idle x := by
  unfold refusal? at h
  split at h
  · exact ⟨rfl, rfl, rfl, rfl, fun _ _ => rfl⟩
  · exact ⟨rfl, rfl, rfl, rfl, fun _ _ => rfl⟩
  · exact ⟨rfl, rfl, rfl, rfl, fun _ _ => rfl⟩
  · cases h

/-- On a connection that is kept, the channel is released. -/
theorem Native.Session.releases {d : Descriptor} (hwork : work.run.Asks Request.Inside)
    (h : Native.Session d work heard r) :
    Releases false (Native.onChannel d work) (some work) heard r := by
  have hleased : Idle ⟨.lease d.amqpUri, .ok ()⟩ := ⟨rfl, rfl, rfl, rfl, fun _ _ => rfl⟩
  cases h with
  | unreached reason =>
    have hidle : Idle ⟨.lease d.amqpUri, .error reason⟩ := idle_of_refusal rfl
    exact {
      released := released_idle (List.forall_mem_singleton.2 hidle) false
      earned := .refused List.mem_cons_self rfl (.inr rfl)
      indifferent := fun _ _ => Native.course_onChannel_iff.2 (.unreached reason) }
  | refused reason =>
    have hidle : Idle ⟨.call .channelOpen, .error reason⟩ := idle_of_refusal rfl
    exact {
      released := released_idle
        (List.forall_mem_cons.2 ⟨hleased, List.forall_mem_singleton.2 hidle⟩) false
      earned := .refused (List.mem_cons_of_mem _ List.mem_cons_self) rfl (.inl rfl)
      indifferent := fun _ _ => Native.course_onChannel_iff.2 (.refused reason) }
  | @held said _ a hsaid =>
    -- The work opens nothing and closes nothing, so it may stand between the two.
    have hidle : ∀ x ∈ said, Idle x := fun x hx => idle_inside (hwork.of_course hsaid x hx)
    exact {
      released := (released_channel d.amqpUri a).insert hidle
        (by simp [closesConnection, closesChannel, openedChannel])
      earned := .worked [_, openedChannel] said [closedChannel a] rfl hsaid rfl
        ⟨openedChannel, by simp, rfl⟩
      indifferent := fun channel connection => by
        rw [List.map_cons, List.map_cons, List.map_append, map_reclosed_idle hidle]
        exact Native.course_onChannel_iff.2 (.held channel hsaid) }

/-- On a connection of the operation's own, the channel and the connection are released. -/
theorem Direct.Session.releases {c : Direct} (hwork : work.run.Asks Request.Inside)
    (h : c.Session work heard r) : Releases true (c.inSession work) (some work) heard r := by
  cases h with
  | unconnected hc =>
    exact {
      released := released_nil true
      earned := .unconnected rfl
      indifferent := fun _ _ => Direct.course_inSession_iff.2 (.unconnected hc) }
  -- A dial that fails opens nothing, so there is nothing to close.
  | unreached reason hc =>
    have hidle : Idle ⟨.dial c.url, .error reason⟩ := idle_of_refusal rfl
    exact {
      released := released_idle (List.forall_mem_singleton.2 hidle) true
      earned := .refused List.mem_cons_self rfl (.inl rfl)
      indifferent := fun _ _ => Direct.course_inSession_iff.2 (.unreached reason hc) }
  -- Without a channel only the connection is closed; the refused request goes in between.
  | refused reason a hc =>
    have hidle : Idle ⟨.call .channelOpen, .error reason⟩ := idle_of_refusal rfl
    exact {
      released := (released_connection c.url a).insert (List.forall_mem_singleton.2 hidle)
        (by simp [closesConnection, closesChannel])
      earned := .refused (List.mem_cons_of_mem _ List.mem_cons_self) rfl (.inl rfl)
      indifferent := fun _ connection =>
        Direct.course_inSession_iff.2 (.refused reason connection hc) }
  -- The work opens and closes nothing itself, so it may be put between the opening and the closing.
  | @held said _ a b hc hsaid =>
    have hidle : ∀ x ∈ said, Idle x := fun x hx => idle_inside (hwork.of_course hsaid x hx)
    exact {
      released := (released_session c.url a b).insert hidle
        (by simp [closesConnection, closesChannel, openedChannel])
      earned := .worked [_, openedChannel] said [closedChannel a, closedConnection b] rfl hsaid rfl
        ⟨openedChannel, by simp, rfl⟩
      indifferent := fun channel connection => by
        rw [List.map_cons, List.map_cons, List.map_append, map_reclosed_idle hidle]
        exact Direct.course_inSession_iff.2 (.held channel connection hc hsaid) }

/-- The connection with which a connector sees that it can connect is released. -/
theorem Direct.Greeting.releases {c : Direct} {r : Except ConnectorError Unit}
    (h : c.Greeting heard r) : Releases true c.connect none heard r := by
  cases h with
  | already hc =>
    exact {
      released := released_nil true
      earned := .connected () rfl nofun
      indifferent := fun _ _ => Direct.course_connect_iff.2 (.already hc) }
  | unreached reason hc =>
    have hidle : Idle ⟨.dial c.url, .error reason⟩ := idle_of_refusal rfl
    exact {
      released := released_idle (List.forall_mem_singleton.2 hidle) true
      earned := .refused List.mem_cons_self rfl (.inl rfl)
      indifferent := fun _ _ => Direct.course_connect_iff.2 (.unreached reason hc) }
  | reached a hc =>
    exact {
      released := released_connection c.url a
      earned := .connected () rfl
        (List.forall_mem_cons.2 ⟨rfl, List.forall_mem_singleton.2 rfl⟩)
      indifferent := fun _ connection => Direct.course_connect_iff.2 (.reached connection hc) }

/-- Whatever an operation is answered, each connection and each channel that it opens is asked to
close once, the channel first and nothing but the connection after it. The answers to that are not
what the operation comes to. -/
theorem Operation.handles_released {own : Bool} {t : Try α} {work : Option (Try α)}
    (ho : Operation own t work) (h : Course t.run heard r) : Releases own t work heard r := by
  cases ho with
  | connect c => exact (Direct.course_connect_iff.1 h).releases
  | publish c routingKey envelope properties =>
    exact (Direct.course_inSession_iff.1 h).releases (publishEnvelope_inside _ _ _ _)
  | fetch c id remove => exact (Direct.course_inSession_iff.1 h).releases (c.watch_inside id remove)
  | nativePublish d routingKey envelope properties =>
    exact (Native.course_onChannel_iff.1 h).releases (publishEnvelope_inside _ _ _ _)
  | nativeFetch d id remove =>
    exact (Native.course_onChannel_iff.1 h).releases (Native.fetchOnce_inside d id remove)

end

/-- A connector that is connected. -/
def Direct.guest : Direct := { plain { host := Broker.host } with connected := true }

/-- A broker at which a queue cannot be bound. The channel ends with that, so that it cannot be
closed either. -/
def Peer.unbinding : Peer := ⟨{ failing := ["queue.bind"] }, {}, 0⟩

/-- The queue is not bound, the channel is not closed, and the connection is. The fetch fails with
what was answered to the binding. -/
theorem Operation.handles_released_unbound :
    let t : Try (Option ResultMessage) := Direct.guest.fetch ⟨"t-1"⟩ true
    let heard := t.run.transcript Peer.answer .unbinding
    (heard.map fun x => closesChannel x || closesConnection x) =
        [false, false, false, false, false, true, true] ∧
      ⟨.call (.channelClose closeCode closeText), .error "channel closed"⟩ ∈ heard ∧
      Released true heard ∧
      (t.run.run Peer.answer .unbinding).1 = .error (.consume "channel closed") ∧
      Course t.run (heard.map (reclosed (.ok ()) (.error "gone")))
        (.error (.consume "channel closed")) := by
  intro t heard
  have hresult : (t.run.run Peer.answer .unbinding).1 = .error (.consume "channel closed") := by
    rfl
  have hreleases := Operation.handles_released (.fetch .guest ⟨"t-1"⟩ true)
    (Dialogue.course_transcript Peer.answer t.run .unbinding)
  refine ⟨rfl, List.mem_of_getElem? (i := 5) rfl, hreleases.released, hresult, ?_⟩
  rw [← hresult]
  exact hreleases.indifferent _ _

end Amqp
end TaskQueue
