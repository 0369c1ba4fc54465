import Mathlib.Algebra.BigOperators.Group.Finset.Basic
import Mathlib.Algebra.BigOperators.Group.Finset.Piecewise
import TaskQueue.Proofs.Amqp.Balance

/-!
# `TaskQueue.Proofs.Amqp.Readers`: several readers that keep what they find

Readers fetch results from one broker without removing them, by either connector, each as often as
it likes and of any task, and meanwhile workers publish results. `Scene` is the broker with the
connection of each reader and the fetch that it is at. A `Move` gives one reader one turn, in which
it has one request answered, or lets something else happen. Any list of moves is a run, so the
methods of all readers and the publications are interleaved in every way there is.

Any request of a reader may fail (`Mishap`). The broker may have carried it out or not, and the
channel or the connection may be lost with it or not. Connections and channels are also lost at any
other time, and the reader learns of it when it asks for something. The broker itself does not stop,
and it lets no queue expire.

`readers_lose_nothing` is the main result: after every run what is ready in a queue and what is
taken from it is what was published, and when nobody is at a fetch, everything is ready. It rests on
two things: each reader keeps to its protocol whatever the others do (`Placed`), and a request of
one reader leaves the balance of every queue (`Accounted`).
-/

set_option autoImplicit false

namespace TaskQueue
namespace Amqp

/-! ## Requests that fail -/

/-- How a request fails. -/
structure Mishap extends Fault where
  /-- The channel stays as it is. -/
  spares : Bool := false
deriving DecidableEq, Repr

namespace Request

/-- What the client is told when a request fails. Looking at the clock and waiting cannot fail. -/
def refusal (reason : String) : (q : Request) → Option (Answer q)
  | .dial _ => some (.error reason)
  | .lease _ => some (.error reason)
  | .call _ => some (.error reason)
  | .clock => none
  | .sleep _ => none

/-- Who asks for this gives up the channel, and so the channel ends even if the request fails. -/
def closes : Request → Bool
  | .call (.channelClose ..) => true
  | .call (.connectionClose ..) => true
  | _ => false

end Request

/-- How far a request comes that fails: the broker has carried it out, or it has not. -/
def Mishap.reached (f : Mishap) (q : Request) (p : Peer) : Peer :=
  if f.carriedOut then (Peer.answer q p).2 else p

/-- Has a request answered, unless it fails. -/
def Peer.attempt (mishap : Option Mishap) (q : Request) (p : Peer) : Answer q × Peer :=
  match mishap with
  | none => Peer.answer q p
  | some f =>
    match q.refusal f.reason with
    | none => Peer.answer q p
    | some a =>
      (a, if f.spares && !q.closes then f.reached q p else (f.reached q p).cut f.severs)

/-- A request that fails gives the reader nothing. Unless it closes the channel, the reader knows a
free channel to be free only if the request would have left it so. -/
theorem next_refusal {q : Request} {reason : String} {a : Answer q} (k : Custody)
    (h : q.refusal reason = some a) :
    (k.next q a).given = k.given ∧ (q.closes = false → (k.next q a).free = true →
      k.free = true ∧ ∀ a', (k.next q a').free = true) := by
  cases q with
  | dial url => exact ⟨rfl, fun _ hk => ⟨hk, fun _ => hk⟩⟩
  | lease url => exact ⟨rfl, fun _ hk => ⟨hk, fun _ => hk⟩⟩
  | call m =>
    cases h
    refine ⟨k.given_next_error m reason, fun hcloses hk => ?_⟩
    -- A refused look leaves it open whether a message was taken, which is why the custody is not
    -- free then.
    cases m with
    | channelClose | connectionClose => cases hcloses
    | basicGet => cases hk
    | _ => exact ⟨hk, fun _ => hk⟩
  | clock => cases h
  | sleep nanoseconds => cases h

section
variable {queue : String} {k : Custody} {p : Peer}

/-- Nothing is lost by a request that is allowed, even if it fails. -/
theorem attempt_handles {q : Request} (mishap : Option Mishap) (hq : k.Allows queue q)
    (h : Fits p.broker p.link) (hfree : k.free = true → p.link.unsettled = []) :
    Handles queue k q p.broker p.link (Peer.attempt mishap q p).1
      (Peer.attempt mishap q p).2.link (Peer.attempt mishap q p).2.broker := by
  have hreal := answer_handles hq h hfree
  unfold Peer.attempt
  split
  · exact hreal
  rename_i f
  split
  · exact hreal
  rename_i a ha
  obtain ⟨hgiven, hsure⟩ := next_refusal k ha
  have hmem : ∀ m ∈ (k.next q a).given, m ∈ k.given ∨ m ∈ p.broker.ready queue :=
    fun m hm => .inl (hgiven ▸ hm)
  -- A request that fails may have been carried out before it did.
  have hreached : Conserves p.broker p.link (f.reached q p).broker (f.reached q p).link := by
    unfold Mishap.reached
    split
    · exact hreal.conserves
    · exact .refl h
  split
  · -- The channel stays, and it is as free as it was or as the request has left it.
    rename_i hspares
    rw [Bool.and_eq_true, Bool.not_eq_true'] at hspares
    refine ⟨hreached, fun hk => ?_, hmem⟩
    obtain ⟨hbefore, hafter⟩ := hsure hspares.2 hk
    unfold Mishap.reached
    split
    · exact hreal.free (hafter _)
    · exact hfree hbefore
  · exact ⟨hreached.trans (cut_conserves hreached.fits f.severs), fun _ => rfl, hmem⟩

end

/-! ## Readers -/

/-- A fetch of the result of a task: what is still to be said, or what has come of it. -/
structure Reading where
  id : TaskId
  talk : Talk Found

/-- What happens next. -/
inductive Move (ι : Type) where
  /-- A reader begins to fetch the result of a task, unless it is still at a fetch. -/
  | fetch (reader : ι) (id : TaskId)
  /-- A reader has its request answered, or the request fails. -/
  | turn (reader : ι) (mishap : Option Mishap)
  /-- A reader loses its channel, or its connection. -/
  | cut (reader : ι) (severs : Bool)
  /-- A worker publishes a message. -/
  | publish (queue : String) (m : ResultMessage)
  /-- Time passes. -/
  | wait (nanoseconds : Nat)
deriving DecidableEq

/-- The broker, the time, and of each reader its connection and its latest fetch. -/
structure Scene (ι : Type) where
  broker : Broker
  clock : Nat
  links : ι → Link
  fetches : ι → Option Reading

/-- What a move brings to a queue. -/
def Move.brings {ι : Type} (queue : String) : Move ι → Multiset ResultMessage
  | .publish q m => if q = queue then {m} else 0
  | _ => 0

/-- All that was published to a queue: what the broker has had from the beginning, and what a run
brings. -/
def published {ι : Type} (b : Broker) (queue : String) (ms : List (Move ι)) :
    Multiset ResultMessage :=
  b.ready queue + (ms.map (Move.brings queue)).sum

namespace Scene

variable {ι : Type}

/-- Nobody has begun to fetch anything. -/
def start (clients : ι → Client) (b : Broker) : Scene ι where
  broker := b
  clock := 0
  links i := (clients i).link
  fetches _ := none

/-- The broker as a reader meets it. -/
def peer (s : Scene ι) (i : ι) : Peer := ⟨s.broker, s.links i, s.clock⟩

/-- What the latest fetch of a reader has returned, if it has. -/
def returned? (s : Scene ι) (i : ι) : Option (TaskId × Found) :=
  (s.fetches i).bind fun f => f.talk.outcome?.map fun r => (f.id, r)

/-- The reader is at a fetch that has not returned. -/
def Busy (s : Scene ι) (i : ι) : Prop := (s.fetches i).isSome ∧ s.returned? i = none

instance (s : Scene ι) (i : ι) : Decidable (s.Busy i) :=
  inferInstanceAs (Decidable (_ ∧ _))

/-- What the readers have taken from a queue and not settled. -/
def taken [Fintype ι] (s : Scene ι) (queue : String) : Multiset ResultMessage :=
  ∑ i, takenFrom queue (s.links i).unsettled

variable [DecidableEq ι]

/-- A reader leaves the broker like this. -/
def put (s : Scene ι) (i : ι) (p : Peer) : Scene ι :=
  { s with broker := p.broker, clock := p.clock, links := Function.update s.links i p.link }

/-- The reader whose turn it was has the link that the turn left. -/
@[simp] theorem put_links_self (s : Scene ι) (i : ι) (p : Peer) :
    (s.put i p).links i = p.link := by
  simp [put]

/-- The other readers keep their links. -/
theorem put_links_of_ne (s : Scene ι) {i j : ι} (h : j ≠ i) (p : Peer) :
    (s.put i p).links j = s.links j := by
  simp [put, h]

/-- One move. All fetches keep what they find. -/
def step (clients : ι → Client) (s : Scene ι) : Move ι → Scene ι
  | .fetch i id =>
    if s.Busy i then s
    else
      let reading : Reading := ⟨id, ((clients i).fetch id false).run⟩
      { s with fetches := Function.update s.fetches i (some reading) }
  | .turn i mishap =>
    match s.fetches i with
    | none => s
    | some f =>
      let (talk, p) := f.talk.turn (Peer.attempt mishap) (s.peer i)
      { s.put i p with fetches := Function.update s.fetches i (some { f with talk }) }
  | .cut i severs => s.put i ((s.peer i).cut severs)
  | .publish queue m => { s with broker := s.broker.put queue m }
  | .wait nanoseconds => { s with clock := s.clock + nanoseconds }

/-- Several moves. -/
def play (clients : ι → Client) (s : Scene ι) (ms : List (Move ι)) : Scene ι :=
  ms.foldl (step clients) s

/-- A turn in which nothing fails. -/
theorem step_turn {s : Scene ι} {i : ι} {f : Reading} (hf : s.fetches i = some f)
    (clients : ι → Client) :
    (s.step clients (.turn i none)).fetches i =
        some { f with talk := (f.talk.turn Peer.answer (s.peer i)).1 } ∧
      (s.step clients (.turn i none)).peer i = (f.talk.turn Peer.answer (s.peer i)).2 := by
  have hattempt : Peer.attempt none = Peer.answer := rfl
  simp [step, hf, hattempt, put, peer]

/-- A reader that is left alone returns what its fetch returns when it is held in one go. -/
theorem returned?_alone {clients : ι → Client} {s : Scene ι} {i : ι} {f : Reading} {r : Found}
    {n : Nat} (hf : s.fetches i = some f)
    (h : (s.play clients (List.replicate n (.turn i none))).returned? i = some (f.id, r)) :
    (f.talk.run Peer.answer (s.peer i)).1 = r := by
  obtain ⟨d, p, ⟨hd, -⟩, hrun⟩ := Dialogue.run_of_turns Peer.answer
    (f := step clients) (m := .turn i none)
    (R := fun s d p => s.fetches i = some { f with talk := d } ∧ s.peer i = p)
    (by rintro s d p ⟨hd, rfl⟩; exact step_turn hd clients) ⟨hf, rfl⟩ n
  have hover : d.outcome? = some r := by
    rw [play, returned?, hd] at h
    simpa using h
  exact hrun.symm.trans (Dialogue.run_of_outcome Peer.answer hover p).1

end Scene

/-! ## What is known of a reader -/

/-- A reader that fetches nothing has taken nothing. One that is at a fetch keeps to its protocol,
and what it was given was published. -/
def Placed (sent : String → Multiset ResultMessage) (l : Link) : Option Reading → Prop
  | none => l.unsettled = []
  | some f => ∃ k, f.talk.Follows (keeping f.id.resultQueue) Over k ∧
      (k.free = true → l.unsettled = []) ∧ ∀ m ∈ k.given, m ∈ sent f.id.resultQueue

/-- The state of the broker and a reader after some requests, of which the reader knows this much.
Nothing has been lost on the way, and it was given only what was published. -/
structure Reached (sent : Multiset ResultMessage) (p : Peer) (k : Custody) (x : Peer) : Prop where
  conserves : Conserves p.broker p.link x.broker x.link
  free : k.free = true → x.link.unsettled = []
  given : ∀ m ∈ k.given, m ∈ sent

section
variable {sent : String → Multiset ResultMessage} {p : Peer}

/-- One more request that the custody allows keeps to all this, whatever mishap it meets. -/
theorem Reached.attempt {queue : String} {k : Custody} {x : Peer} (h : Reached (sent queue) p k x)
    (hsent : ∀ m ∈ p.broker.ready queue + takenFrom queue p.link.unsettled, m ∈ sent queue)
    {q : Request} (hq : k.Allows queue q) (mishap : Option Mishap) :
    Reached (sent queue) p (k.next q (Peer.attempt mishap q x).1) (Peer.attempt mishap q x).2 := by
  have hhandles := attempt_handles mishap hq h.conserves.fits h.free
  refine ⟨h.conserves.trans hhandles.conserves, hhandles.free, fun m hm => ?_⟩
  rcases hhandles.given m hm with hgiven | hready
  · exact h.given m hgiven
  · refine hsent m ?_
    rw [← h.conserves.balance queue]
    exact Multiset.mem_add.2 (.inl hready)

/-- A turn of a reader loses nothing and leaves it at a place. -/
theorem Placed.turn {f : Reading} (h : Placed sent p.link (some f)) (hfits : Fits p.broker p.link)
    (hsent : ∀ m ∈ p.broker.ready f.id.resultQueue +
      takenFrom f.id.resultQueue p.link.unsettled, m ∈ sent f.id.resultQueue)
    (mishap : Option Mishap) :
    Conserves p.broker p.link (f.talk.turn (Peer.attempt mishap) p).2.broker
        (f.talk.turn (Peer.attempt mishap) p).2.link ∧
      Placed sent (f.talk.turn (Peer.attempt mishap) p).2.link
        (some { f with talk := (f.talk.turn (Peer.attempt mishap) p).1 }) := by
  obtain ⟨k, hfollows, hfree, hgiven⟩ := h
  obtain ⟨k', hfollows', hreached⟩ := hfollows.turn
    (I := Reached (sent f.id.resultQueue) p) (fun _ _ _ hq h => h.attempt hsent hq mishap)
    ⟨.refl hfits, hfree, hgiven⟩
  exact ⟨hreached.conserves, k', hfollows', hreached.free, hreached.given⟩

/-- What is published later does not matter. -/
theorem Placed.mono {sent' : String → Multiset ResultMessage} {l : Link} {fetch : Option Reading}
    (h : Placed sent l fetch) (hsent : ∀ queue, ∀ m ∈ sent queue, m ∈ sent' queue) :
    Placed sent' l fetch := by
  cases fetch with
  | none => exact h
  | some f =>
    obtain ⟨k, hfollows, hfree, hgiven⟩ := h
    exact ⟨k, hfollows, hfree, fun m hm => hsent _ m (hgiven m hm)⟩

/-- A reader that has lost its channel is still at its place. -/
theorem Placed.without {l l' : Link} {fetch : Option Reading} (h : Placed sent l fetch)
    (hl' : l'.unsettled = []) : Placed sent l' fetch := by
  cases fetch with
  | none => exact hl'
  | some f =>
    obtain ⟨k, hfollows, -, hgiven⟩ := h
    exact ⟨k, hfollows, fun _ => hl', hgiven⟩

/-- When a fetch is over, nothing is taken, and what it has returned was published. -/
theorem Placed.over {l : Link} {f : Reading} {r : Found} (h : Placed sent l (some f))
    (hr : f.talk.outcome? = some r) :
    l.unsettled = [] ∧ ∀ m, r = .ok (some m) → m ∈ sent f.id.resultQueue := by
  obtain ⟨k, hfollows, hfree, hgiven⟩ := h
  have hover := hfollows.outcome hr
  exact ⟨hfree hover.free, fun m hm => hgiven m (hover.given m hm)⟩

end

/-! ## Runs -/

namespace Scene

variable {ι : Type} [Fintype ι] [DecidableEq ι] {clients : ι → Client}
  {sent : String → Multiset ResultMessage} {s : Scene ι}

/-- Nothing is lost, and every reader is at a place. -/
structure Accounted (sent : String → Multiset ResultMessage) (s : Scene ι) : Prop where
  balance : ∀ queue, s.broker.ready queue + s.taken queue = sent queue
  fits : ∀ i, Fits s.broker (s.links i)
  placed : ∀ i, Placed sent (s.links i) (s.fetches i)

/-- What one reader has taken and what the others have. -/
theorem taken_eq (s : Scene ι) (i : ι) (queue : String) :
    s.taken queue = takenFrom queue (s.links i).unsettled +
      ∑ j ∈ Finset.univ.erase i, takenFrom queue (s.links j).unsettled :=
  (Finset.add_sum_erase _ _ (Finset.mem_univ i)).symm

/-- A reader that loses nothing on its own side leaves the balance. -/
theorem balance_put {i : ι} {p : Peer}
    (hp : Conserves s.broker (s.links i) p.broker p.link) (queue : String) :
    (s.put i p).broker.ready queue + (s.put i p).taken queue =
      s.broker.ready queue + s.taken queue := by
  have hothers : ∑ j ∈ Finset.univ.erase i, takenFrom queue ((s.put i p).links j).unsettled =
      ∑ j ∈ Finset.univ.erase i, takenFrom queue (s.links j).unsettled := by
    refine Finset.sum_congr rfl fun j hj => ?_
    rw [put_links_of_ne s (Finset.ne_of_mem_erase hj)]
  rw [taken_eq (s.put i p) i, taken_eq s i, hothers, put_links_self, ← add_assoc, ← add_assoc]
  exact congrArg (· + _) (hp.balance queue)

namespace Accounted

omit [DecidableEq ι] in
/-- At the beginning everything is ready. -/
theorem start (clients : ι → Client) (b : Broker) : Accounted b.ready (start clients b) := by
  have hnone : ∀ i, (clients i).link.channel = none := by
    intro i
    cases clients i with
    | native d isOpen => rfl
    | direct c => rfl
  have hnothing : ∀ i, (clients i).link.unsettled = [] := by
    intro i
    rw [Link.unsettled, hnone]
    rfl
  refine ⟨fun queue => ?_, fun i => .of_none (hnone i), hnothing⟩
  show b.ready queue + ∑ i, takenFrom queue (clients i).link.unsettled = b.ready queue
  simp [hnothing]

omit [DecidableEq ι] in
/-- A reader that is not at a fetch has taken nothing. -/
theorem unsettled_of_not_busy (h : Accounted sent s) {i : ι} (hi : ¬ s.Busy i) :
    (s.links i).unsettled = [] := by
  have hplaced := h.placed i
  cases hf : s.fetches i with
  | none =>
    rw [hf] at hplaced
    exact hplaced
  | some f =>
    rw [hf] at hplaced
    cases hr : f.talk.outcome? with
    | none => exact absurd ⟨by rw [hf]; rfl, by rw [returned?, hf, Option.bind_some, hr]; rfl⟩ hi
    | some r => exact (hplaced.over hr).1

/-- One reader acts. The others stay where they are, and their connections fit the broker still. -/
theorem put (h : Accounted sent s) {i : ι} {p : Peer} {fetch : Option Reading}
    (hp : Conserves s.broker (s.links i) p.broker p.link) (hplaced : Placed sent p.link fetch) :
    Accounted sent { s.put i p with fetches := Function.update s.fetches i fetch } := by
  refine ⟨fun queue => (balance_put hp queue).trans (h.balance queue), fun j => ?_, fun j => ?_⟩
  -- The other links are as they were, and the broker still has every queue that they hold messages
  -- of.
  · show Fits p.broker ((s.put i p).links j)
    by_cases hj : j = i
    · subst hj
      rw [put_links_self]
      exact hp.fits
    · rw [put_links_of_ne s hj]
      exact (h.fits j).mono hp.listening hp.queues
  · show Placed sent ((s.put i p).links j) (Function.update s.fetches i fetch j)
    by_cases hj : j = i
    · subst hj
      rw [put_links_self, Function.update_self]
      exact hplaced
    · rw [put_links_of_ne s hj, Function.update_of_ne hj]
      exact h.placed j

/-- A reader begins to fetch. Its channel holds nothing, as its protocol has it. -/
theorem fetch (h : Accounted sent s) {i : ι} (hi : ¬ s.Busy i) (client : Client) (id : TaskId) :
    Accounted sent { s with
      fetches := Function.update s.fetches i (some ⟨id, (client.fetch id false).run⟩) } := by
  have hnothing := h.unsettled_of_not_busy hi
  have hsame : s.put i (s.peer i) = s := by simp [Scene.put, peer]
  have hplaced : Placed sent (s.peer i).link (some ⟨id, (client.fetch id false).run⟩) :=
    ⟨⟨true, []⟩, client.fetch_follows id rfl, fun _ => hnothing,
      fun _ hm => absurd hm List.not_mem_nil⟩
  have hput := h.put (.refl (h.fits i)) hplaced
  rw [hsame] at hput
  exact hput

/-- What is ready or taken by one reader was published. -/
theorem mem_sent (h : Accounted sent s) (i : ι) (queue : String) {m : ResultMessage}
    (hm : m ∈ s.broker.ready queue + takenFrom queue (s.links i).unsettled) : m ∈ sent queue := by
  rw [← h.balance queue, taken_eq s i, ← add_assoc]
  exact Multiset.mem_add.2 (.inl hm)

/-- A reader that is at a fetch has its turn. -/
theorem turn (h : Accounted sent s) {i : ι} {f : Reading} (hf : s.fetches i = some f)
    (mishap : Option Mishap) : Accounted sent (s.step clients (.turn i mishap)) := by
  have hplaced : Placed sent (s.peer i).link (some f) := by
    rw [← hf]
    exact h.placed i
  obtain ⟨hconserves, hafter⟩ := hplaced.turn (h.fits i) (fun _ hm => h.mem_sent i _ hm) mishap
  have hput := h.put hconserves hafter
  rw [Scene.step, hf]
  exact hput

/-- A reader loses its channel. What it has taken goes back. -/
theorem cut (h : Accounted sent s) (i : ι) (severs : Bool) :
    Accounted sent (s.put i ((s.peer i).cut severs)) := by
  have hplaced : Placed sent ((s.peer i).cut severs).link (s.fetches i) := (h.placed i).without rfl
  have hput := h.put (cut_conserves (p := s.peer i) (h.fits i) severs) hplaced
  rw [Function.update_eq_self] at hput
  exact hput

omit [DecidableEq ι] in
/-- A worker publishes. -/
theorem publish (h : Accounted sent s) (queue : String) (m : ResultMessage) :
    Accounted (fun other => sent other + if queue = other then {m} else 0)
      { s with broker := s.broker.put queue m } where
  balance other := by
    show (s.broker.put queue m).ready other + s.taken other = _
    rw [Broker.ready_put, ← h.balance other, add_right_comm]
  fits i := (h.fits i).mono rfl fun _ hq => Broker.has_put hq queue m
  placed i := (h.placed i).mono fun _ _ hm => Multiset.mem_add.2 (.inl hm)

omit [DecidableEq ι] in
/-- A move that brings nothing. -/
theorem idle (h : Accounted sent s) {m : Move ι} (hm : ∀ queue, m.brings queue = 0) :
    Accounted (fun queue => sent queue + m.brings queue) s := by
  simpa only [hm, add_zero] using h

/-- One move. -/
theorem step (h : Accounted sent s) (m : Move ι) :
    Accounted (fun queue => sent queue + m.brings queue) (s.step clients m) := by
  cases m with
  | fetch i id =>
    rw [Scene.step]
    split
    · exact h.idle fun _ => rfl
    · rename_i hi
      exact (h.fetch hi (clients i) id).idle fun _ => rfl
  -- Only a publication brings anything, so for the other moves the account stands as it was.
  | turn i mishap =>
    refine idle ?_ fun _ => rfl
    cases hf : s.fetches i with
    | none =>
      rw [Scene.step, hf]
      exact h
    | some f => exact h.turn hf mishap
  | cut i severs => exact (h.cut i severs).idle fun _ => rfl
  | publish queue message => exact h.publish queue message
  | wait nanoseconds =>
    have hwait : Accounted sent { s with clock := s.clock + nanoseconds } :=
      ⟨h.balance, h.fits, h.placed⟩
    exact hwait.idle fun _ => rfl

/-- Several moves. -/
theorem play (h : Accounted sent s) (ms : List (Move ι)) :
    Accounted (fun queue => sent queue + (ms.map (Move.brings queue)).sum)
      (s.play clients ms) := by
  induction ms generalizing sent s with
  | nil => simpa [Scene.play] using h
  | cons m ms ih => simpa [Scene.play, add_assoc] using ih (h.step m)

end Accounted
end Scene

/-- Readers that fetch results over AMQP without removing them, by either connector, while others do
the same and workers publish. After any run, and so at every moment of a run, the messages that are
ready in a queue and those that readers have taken from it are those that were published to it, each
as often as it was published. Every message that a fetch returns was published to the queue of its
task. When no reader is at a fetch, all that was published is ready. -/
theorem readers_lose_nothing {ι : Type} [Fintype ι] [DecidableEq ι] (clients : ι → Client)
    (b : Broker) (ms : List (Move ι)) :
    let s := (Scene.start clients b).play clients ms
    (∀ queue, s.broker.ready queue + s.taken queue = published b queue ms) ∧
      (∀ i id m, s.returned? i = some (id, .ok (some m)) → m ∈ published b id.resultQueue ms) ∧
      ((∀ i, ¬ s.Busy i) → ∀ queue, s.broker.ready queue = published b queue ms) := by
  intro s
  have h : s.Accounted fun queue => published b queue ms :=
    (Scene.Accounted.start clients b).play ms
  refine ⟨h.balance, fun i id m hreturned => ?_, fun hidle queue => ?_⟩
  · obtain ⟨f, hf, hover⟩ := Option.bind_eq_some_iff.1 hreturned
    obtain ⟨r, hr, hpair⟩ := Option.map_eq_some_iff.1 hover
    cases hpair
    have hplaced := h.placed i
    rw [hf] at hplaced
    exact (hplaced.over hr).2 m rfl
  · have hnothing : s.taken queue = 0 :=
      Finset.sum_eq_zero fun i _ => by rw [h.unsettled_of_not_busy (hidle i), takenFrom_nil]
    rw [← h.balance queue, hnothing, add_zero]

/-- Two readers of one result. The native one takes the message while the direct one waits for its
second look. It cannot put the message back, and so its fetch fails, but it closes its channel all
the same, and the direct one finds the message. -/
theorem readers_lose_nothing_two :
    let id : TaskId := ⟨"7f3a"⟩
    let succeeded := ResultMessage.ofJsonText "\x7b\"status\":\"SUCCESS\"\x7d"
    let plain : Direct := .plain { host := "127.0.0.1" }
    let clients (native : Bool) : Client :=
      cond native (.native {} (some true)) (.direct { plain with connected := true })
    let unsent : Mishap :=
      { reason := "not sent", carriedOut := false, severs := false, spares := true }
    let native : Move Bool := .turn true none
    let direct : Move Bool := .turn false none
    let looks := [.fetch true id, .fetch false id, native, native, direct, native, direct, direct,
      direct, direct, direct, .publish id.resultQueue succeeded, native, native, direct]
    let ms := looks ++ [.turn true (some unsent), native, direct, direct, direct, direct, direct]
    let s := (Scene.start clients {}).play clients ms
    ((Scene.start clients {}).play clients looks).taken id.resultQueue = {succeeded} ∧
      s.returned? true = some (id, .error (.ack "not sent")) ∧
      s.returned? false = some (id, .ok (some succeeded)) ∧
      s.broker.ready id.resultQueue = {succeeded} := by
  intro id succeeded plain clients unsent native direct looks ms s
  have hidle : ∀ i, ¬ s.Busy i := by decide +kernel
  have hpublished : published {} id.resultQueue ms = {succeeded} := by decide +kernel
  obtain ⟨-, -, hready⟩ := readers_lose_nothing clients {} ms
  refine ⟨?_, ?_, ?_, (hready hidle id.resultQueue).trans hpublished⟩
  · decide +kernel
  · decide +kernel
  · decide +kernel

end Amqp
end TaskQueue
