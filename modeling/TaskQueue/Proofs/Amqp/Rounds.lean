import Mathlib.Data.List.Chain
import TaskQueue.Proofs.Amqp.Sessions
import TaskQueue.Proofs.Amqp.Timeline

/-!
# `TaskQueue.Proofs.Amqp.Rounds`: the looks of the direct connector

The direct connector looks for a result again and again. `Rounds` are its looks as they follow each
other in time. Each of them but the last finds an empty queue, and after the last there is something
to settle, or a failure, or no time for another one. The retries are counted, but the count plays no
part in that: the time is over before the retries are (`rounds_of_course`).

The lemmas on `Rounds` say when the looks come and how many there are. `Rounds.lookOnce` compares
them with the single look of the native connector.
-/

set_option autoImplicit false

namespace TaskQueue

open Dialogue (Heard Course)

namespace Amqp

/-- A look at the queue of a task. -/
def getting (id : TaskId) : Method := .basicGet id.resultQueue false

/-- A look that finds nothing. -/
def nothing (id : TaskId) : (q : Request) × Answer q :=
  ⟨.call (.basicGet id.resultQueue false), .ok none⟩

/-- A method of this name is called. -/
def calls (name : String) (x : (q : Request) × Answer q) : Bool :=
  match x.1 with
  | .call m => m.name == name
  | _ => false

/-- A method is called on a channel, or opens or closes one. -/
def onChannelLevel : (q : Request) × Answer q → Bool
  | ⟨.call (.connectionStart ..), _⟩ => false
  | ⟨.call (.connectionOpen _), _⟩ => false
  | ⟨.call (.connectionClose ..), _⟩ => false
  | ⟨.call _, _⟩ => true
  | _ => false

/-- What is said of channels, with the answers. -/
def channelLevel (heard : Heard Request Answer) : Heard Request Answer :=
  heard.filter onChannelLevel

/-- The looks among what is said. -/
def looks (timeline : List Stamped) : List Stamped :=
  timeline.filter fun x => calls "basic.get" x.said

/-! ## One look -/

/-- Settles a message that was found. -/
def settled (id : TaskId) (delivery : Delivery) (remove : Bool) : Try (Option ResultMessage) := do
  return some (← settle id.resultQueue delivery remove)

/-- Looks once, and settles what is there. -/
def lookOnce (id : TaskId) (remove : Bool) : Try (Option ResultMessage) := do
  match ← getOne id.resultQueue with
  | some delivery => settled id delivery remove
  | none => notReady id

/-- What is said from a look on that finds something or fails, and what that comes to. -/
inductive Seen (id : TaskId) (remove : Bool) :
    Heard Request Answer → Except ConnectorError (Option ResultMessage) → Prop
  | failed (reason : String) :
    Seen id remove [⟨.call (getting id), .error reason⟩] (.error (.consume reason))
  | found {delivery : Delivery} {rest : Heard Request Answer}
    {r : Except ConnectorError (Option ResultMessage)} :
    Course (settled id delivery remove).run rest r →
    Seen id remove (⟨.call (getting id), .ok (some delivery)⟩ :: rest) r

section
variable {id : TaskId} {remove : Bool} {deadline : Nat} {heard : Heard Request Answer}
  {r : Except ConnectorError (Option ResultMessage)}

/-- What the direct connector says from a look on. -/
theorem course_look {again : Try (Option ResultMessage)}
    (h : Course (Direct.look deadline id remove again).run heard r) :
    Seen id remove heard r ∨ ∃ now rest, heard = nothing id :: ⟨.clock, now⟩ :: rest ∧
      if deadline < now + Direct.retryInterval then rest = [] ∧ r = .ok none
      else Course again.run rest r := by
  rcases course_demand course_call h with ⟨reason, rfl, rfl⟩ | ⟨taken, rest, rfl, h₁⟩
  · exact .inl (.failed reason)
  cases taken with
  | some delivery => exact .inl (.found h₁)
  | none =>
    -- The queue was empty: the clock is read, and it is up to the deadline what follows.
    refine .inr ?_
    obtain ⟨first, rest, outcome, rfl, hclock, h₂⟩ := Course.bind h₁
    obtain ⟨first, second, now, rfl, hread, hlift⟩ := Course.bind hclock
    cases hlift
    obtain rfl := Course.of_ask hread
    refine ⟨now, rest, rfl, ?_⟩
    have hnext : Course (if deadline < now + Direct.retryInterval then notReady id else again).run
        rest r := h₂
    split
    · rename_i hlate
      rw [if_pos hlate] at hnext
      exact Course.of_note hnext
    · rename_i hlate
      rwa [if_neg hlate] at hnext

/-- The native connector says the same when it finds something. -/
theorem Seen.course (h : Seen id remove heard r) : Course (lookOnce id remove).run heard r := by
  cases h with
  | failed reason =>
    exact Attempt.course_error (demand_course (call_course (getting id) (.error reason)))
  | found hsettled =>
    exact Attempt.course_append (demand_course (call_course (getting id) (.ok (some _)))) hsettled

/-- If it finds nothing, there is nothing more to be said. -/
theorem course_lookOnce_nothing (id : TaskId) (remove : Bool) :
    Course (lookOnce id remove).run [nothing id] (.ok none) :=
  Attempt.course_append (demand_course (call_course (getting id) (.ok none))) (.note (.done _))

/-- A message that was found is not taken for none. -/
theorem Seen.ne_none (h : Seen id remove heard r) : r ≠ .ok none := by
  cases h with
  | failed reason => exact nofun
  | found hsettled =>
    rintro rfl
    rcases Attempt.course_bind hsettled with ⟨e, -, h⟩ | ⟨_, _, m, -, -, h⟩
    · cases h
    · cases h

end

/-- Settles a message: it is acknowledged and its queue is deleted, or it goes back. -/
def Request.Settles : Request → Prop
  | .call (.basicAck ..) | .call (.basicNack ..) | .call (.queueDelete ..) => True
  | _ => False

/-- Settling a message makes requests that settle it and no others. -/
theorem settled_asks (id : TaskId) (delivery : Delivery) (remove : Bool) :
    (settled id delivery remove).run.Asks Request.Settles := by
  refine Attempt.asks_bind ?_ fun _ => .done _
  cases remove with
  | false => exact Attempt.asks_bind (demand_asks (.ask trivial fun _ => .done _)) fun _ => .done _
  | true =>
    exact Attempt.asks_bind (demand_asks (.ask trivial fun _ => .done _)) fun _ =>
      Attempt.asks_bind (demand_asks (.ask trivial fun _ => .done _)) fun _ => .done _

/-- To settle a message is no other thing that is spoken of here. -/
theorem Request.Settles.calls {x : (q : Request) × Answer q} (h : x.1.Settles) :
    calls "basic.get" x = false ∧ calls "queue.declare" x = false ∧
      calls "queue.bind" x = false ∧ onChannelLevel x = true := by
  obtain ⟨q, a⟩ := x
  cases q with
  | call m =>
    cases m with
    | basicAck _ _ => simp [Amqp.calls, Method.name, onChannelLevel]
    | basicNack _ _ _ => simp [Amqp.calls, Method.name, onChannelLevel]
    | queueDelete _ _ _ => simp [Amqp.calls, Method.name, onChannelLevel]
    | _ => exact h.elim
  | dial _ | lease _ | clock | sleep _ => exact h.elim

/-- There is one look, and the rest settles what it found. -/
theorem Seen.shape {id : TaskId} {remove : Bool} {heard : Heard Request Answer}
    {r : Except ConnectorError (Option ResultMessage)} (h : Seen id remove heard r) :
    ∃ x rest, heard = ⟨.call (getting id), x⟩ :: rest ∧ ∀ y ∈ rest, y.1.Settles := by
  cases h with
  | failed reason => exact ⟨.error reason, [], rfl, nofun⟩
  | found hsettled => exact ⟨_, _, rfl, (settled_asks _ _ _).of_course hsettled⟩

/-! ## Rounds -/

/-- The looks of a direct fetch as they follow each other.

- `seen`: there is something to settle, or the look fails;
- `late`: there is nothing, and the next look would come after the deadline;
- `again`: there is nothing, and after an interval there is another look. -/
inductive Rounds (deadline : Nat) (id : TaskId) (remove : Bool) :
    List Stamped → Except ConnectorError (Option ResultMessage) → Prop
  | seen {watched : List Stamped} {r : Except ConnectorError (Option ResultMessage)} :
    Seen id remove (watched.map Stamped.said) r → Rounds deadline id remove watched r
  | late {a b : Stamped} {now : Nat} : a.said = nothing id → b.said = ⟨.clock, now⟩ →
    deadline < now + Direct.retryInterval → Rounds deadline id remove [a, b] (.ok none)
  | again {a b c : Stamped} {now : Nat} {rest : List Stamped}
    {r : Except ConnectorError (Option ResultMessage)} : a.said = nothing id →
    b.said = ⟨.clock, now⟩ → c.said = ⟨.sleep Direct.retryInterval, ()⟩ →
    now + Direct.retryInterval ≤ deadline → Rounds deadline id remove rest r →
    Rounds deadline id remove (a :: b :: c :: rest) r

section
variable {id : TaskId} {remove : Bool} {deadline start stop : Nat} {watched : List Stamped}
  {r : Except ConnectorError (Option ResultMessage)}

/-- What is said after a look that found nothing. -/
theorem map_said_nothing {now : Nat} {rest : Heard Request Answer}
    (h : watched.map Stamped.said = nothing id :: ⟨.clock, now⟩ :: rest) :
    ∃ a b tail, watched = a :: b :: tail ∧ a.said = nothing id ∧ b.said = ⟨.clock, now⟩ ∧
      tail.map Stamped.said = rest := by
  obtain ⟨a, tail, rfl, ha, h⟩ := List.map_eq_cons_iff.1 h
  obtain ⟨b, tail, rfl, hb, h⟩ := List.map_eq_cons_iff.1 h
  exact ⟨a, b, tail, rfl, ha, hb, h⟩

/-- After a look that found nothing the clock is read at once. -/
theorem elapses_nothing {a b : Stamped} {now : Nat} {rest : List Stamped}
    (hb : b.said = ⟨.clock, now⟩) (h : Elapses start (a :: b :: rest) stop) :
    start ≤ a.stop ∧ now = a.stop ∧ Elapses a.stop rest stop := by
  obtain ⟨rfl, hlasts, h⟩ := h.of_cons
  obtain ⟨hstart, hread, h⟩ := h.of_cons
  obtain ⟨hnow, hstop⟩ := hread.clock hb
  rw [hstop, hstart] at h
  exact ⟨hlasts.le, hnow.trans hstart, h⟩

/-- If there is another round, it begins an interval later. -/
theorem elapses_again {a b c : Stamped} {now : Nat} {rest : List Stamped}
    (hb : b.said = ⟨.clock, now⟩) (hc : c.said = ⟨.sleep Direct.retryInterval, ()⟩)
    (h : Elapses start (a :: b :: c :: rest) stop) :
    start ≤ a.stop ∧ now = a.stop ∧ Elapses (a.stop + Direct.retryInterval) rest stop := by
  obtain ⟨hle, hnow, h⟩ := elapses_nothing hb h
  obtain ⟨hstart, hslept, h⟩ := h.of_cons
  rw [hslept.sleep hc, hstart] at h
  exact ⟨hle, hnow, h⟩

/-- As long as there are retries for the time that is left, they are never used up. -/
theorem rounds_of_course {retries : Nat} (htime : Elapses start watched stop)
    (hretries : deadline < start + (retries + 1) * Direct.retryInterval)
    (h : Course (Direct.lookUntil deadline id remove retries).run (watched.map Stamped.said) r) :
    Rounds deadline id remove watched r := by
  induction retries generalizing start watched with
  | zero =>
    rcases course_look h with hseen | ⟨now, rest, heq, hrest⟩
    · exact .seen hseen
    obtain ⟨a, b, tail, rfl, ha, hb, rfl⟩ := map_said_nothing heq
    obtain ⟨hle, rfl, -⟩ := elapses_nothing hb htime
    -- Without retries less than an interval is left, so this is the end in any case.
    have hlate : deadline < a.stop + Direct.retryInterval := by omega
    rw [if_pos hlate] at hrest
    obtain ⟨hnil, rfl⟩ := hrest
    obtain rfl := List.map_eq_nil_iff.1 hnil
    exact .late ha hb hlate
  | succ retries ih =>
    rcases course_look h with hseen | ⟨now, rest, heq, hrest⟩
    · exact .seen hseen
    obtain ⟨a, b, tail, rfl, ha, hb, rfl⟩ := map_said_nothing heq
    split at hrest
    · rename_i hlate
      obtain ⟨hnil, rfl⟩ := hrest
      obtain rfl := List.map_eq_nil_iff.1 hnil
      exact .late ha hb hlate
    · rename_i hlate
      obtain ⟨first, rest, outcome, hsplit, hpause, h₁⟩ := Course.bind hrest
      obtain ⟨first, second, _, rfl, hslept, hlift⟩ := Course.bind hpause
      cases hlift
      obtain rfl := Course.of_ask hslept
      obtain ⟨c, tail, rfl, hc, rfl⟩ := List.map_eq_cons_iff.1 hsplit
      obtain ⟨hle, rfl, htime⟩ := elapses_again hb hc htime
      -- An interval of the time that is left has passed, and one retry is used.
      rw [Nat.succ_mul] at hretries
      exact .again ha hb hc (Nat.le_of_not_lt hlate) (ih htime (by omega) h₁)

/-- The first request is a look if it gets a message, and else the looks are among the others. -/
theorem looks_cons (x : Stamped) (rest : List Stamped) :
    looks (x :: rest) = if calls "basic.get" x.said then x :: looks rest else looks rest := by
  rw [looks, List.filter_cons]
  rfl

/-- Where no queue is looked at, there are no looks. -/
theorem looks_eq_nil {timeline : List Stamped}
    (h : ∀ x ∈ timeline.map Stamped.said, calls "basic.get" x = false) : looks timeline = [] := by
  refine List.filter_eq_nil_iff.2 fun x hx => ?_
  simp [h x.said (List.mem_map_of_mem hx)]

/-- The looks of two parts come one after the other. -/
theorem looks_append (xs ys : List Stamped) : looks (xs ++ ys) = looks xs ++ looks ys :=
  List.filter_append _ _

/-- A look that finds something is the only one. -/
theorem Seen.looks (h : Seen id remove (watched.map Stamped.said) r) :
    ∃ a tail, watched = a :: tail ∧ looks watched = [a] := by
  obtain ⟨x, rest, heq, hrest⟩ := h.shape
  obtain ⟨a, tail, rfl, ha, rfl⟩ := List.map_eq_cons_iff.1 heq
  refine ⟨a, tail, rfl, ?_⟩
  have hlook : calls "basic.get" a.said = true := by rw [ha]; rfl
  rw [looks_cons, if_pos hlook, looks_eq_nil fun y hy => (hrest y hy).calls.1]

/-- The looks of a round that is followed by others. -/
theorem looks_again {a b c : Stamped} {now : Nat} {rest : List Stamped} (ha : a.said = nothing id)
    (hb : b.said = ⟨.clock, now⟩) (hc : c.said = ⟨.sleep Direct.retryInterval, ()⟩) :
    looks (a :: b :: c :: rest) = a :: looks rest := by
  have hlook : calls "basic.get" a.said = true := by rw [ha]; rfl
  rw [looks_cons, if_pos hlook, looks_cons, hb, looks_cons, hc]
  rfl

/-- Of a look that finds nothing and the reading of the clock after it, one is a look. -/
theorem looks_late {a b : Stamped} {now : Nat} (ha : a.said = nothing id)
    (hb : b.said = ⟨.clock, now⟩) : looks [a, b] = [a] := by
  have hlook : calls "basic.get" a.said = true := by rw [ha]; rfl
  rw [looks_cons, if_pos hlook, looks_cons, hb]
  rfl

/-- The first look comes at once. -/
theorem Rounds.looks_first (h : Rounds deadline id remove watched r)
    (htime : Elapses start watched stop) :
    ∃ a rest, looks watched = a :: rest ∧ a.start = start := by
  cases h with
  | seen hseen =>
    obtain ⟨a, tail, rfl, hlooks⟩ := hseen.looks
    exact ⟨a, [], hlooks, htime.of_cons.1⟩
  | late ha hb _ => exact ⟨_, [], looks_late ha hb, htime.of_cons.1⟩
  | again ha hb hc _ _ => exact ⟨_, _, looks_again ha hb hc, htime.of_cons.1⟩

/-- Two looks are an interval apart. -/
theorem Rounds.spaced (h : Rounds deadline id remove watched r)
    (htime : Elapses start watched stop) :
    (Amqp.looks watched).IsChain fun a b => b.start = a.stop + Direct.retryInterval := by
  induction h generalizing start with
  | seen hseen =>
    obtain ⟨a, tail, rfl, hlooks⟩ := hseen.looks
    rw [hlooks]
    exact .singleton a
  | late ha hb _ =>
    rw [looks_late ha hb]
    exact .singleton _
  -- The next look begins when the pause is over, and the rest is the induction hypothesis.
  | again ha hb hc hearly hrounds ih =>
    obtain ⟨hle, rfl, htime⟩ := elapses_again hb hc htime
    obtain ⟨a', ls, hlooks, hfirst⟩ := hrounds.looks_first htime
    have hspaced := ih htime
    rw [looks_again ha hb hc]
    rw [hlooks] at hspaced ⊢
    exact List.isChain_cons_cons.2 ⟨by omega, hspaced⟩

/-- None but the first comes after the deadline. -/
theorem Rounds.punctual (h : Rounds deadline id remove watched r)
    (htime : Elapses start watched stop) : ∀ a ∈ (Amqp.looks watched).tail, a.start ≤ deadline := by
  induction h generalizing start with
  | seen hseen =>
    obtain ⟨a, tail, rfl, hlooks⟩ := hseen.looks
    rw [hlooks]
    exact nofun
  | late ha hb _ =>
    rw [looks_late ha hb]
    exact nofun
  -- There is another look only if the clock that was read before it had not passed the deadline.
  | again ha hb hc hearly hrounds ih =>
    obtain ⟨hle, rfl, htime⟩ := elapses_again hb hc htime
    obtain ⟨a', ls, hlooks, hfirst⟩ := hrounds.looks_first htime
    have hpunctual := ih htime
    rw [looks_again ha hb hc]
    rw [hlooks] at hpunctual ⊢
    exact List.forall_mem_cons.2 ⟨by omega, hpunctual⟩

/-- For each look but the first there is an interval before the deadline. -/
theorem Rounds.fit (h : Rounds deadline id remove watched r) (htime : Elapses start watched stop) :
    (Amqp.looks watched).length ≤ 1 ∨
      start + ((Amqp.looks watched).length - 1) * Direct.retryInterval ≤ deadline := by
  induction h generalizing start with
  | seen hseen =>
    obtain ⟨a, tail, rfl, hlooks⟩ := hseen.looks
    rw [hlooks]
    exact .inl (Nat.le_refl 1)
  | late ha hb _ =>
    rw [looks_late ha hb]
    exact .inl (Nat.le_refl 1)
  | again ha hb hc hearly hrounds ih =>
    obtain ⟨hle, rfl, htime⟩ := elapses_again hb hc htime
    obtain ⟨a', ls, hlooks, hfirst⟩ := hrounds.looks_first htime
    have hfit := ih htime
    rw [looks_again ha hb hc]
    rw [hlooks] at hfit ⊢
    simp only [List.length_cons, Nat.add_sub_cancel, Nat.succ_mul] at hfit ⊢
    right
    -- This round adds one look and one interval to those that follow.
    rcases hfit with hsingle | hfit
    · obtain rfl : ls = [] := List.length_eq_zero_iff.1 (by omega)
      simp only [List.length_nil, Nat.zero_mul]
      omega
    · omega

/-- If it comes to nothing, all looks found nothing, and after the last there was no time for
another. -/
theorem Rounds.patient (h : Rounds deadline id remove watched r)
    (htime : Elapses start watched stop) (hr : r = .ok none) :
    (∀ a ∈ Amqp.looks watched, a.said = nothing id) ∧
      ∃ last, (Amqp.looks watched).getLast? = some last ∧
        deadline < last.stop + Direct.retryInterval := by
  induction h generalizing start with
  | seen hseen => exact (hseen.ne_none hr).elim
  -- The fetch gives up on a clock that was read right after its last look.
  | @late a b now ha hb hlate =>
    obtain ⟨-, rfl, -⟩ := elapses_nothing hb htime
    rw [looks_late ha hb]
    exact ⟨List.forall_mem_singleton.2 ha, a, rfl, hlate⟩
  | again ha hb hc hearly hrounds ih =>
    obtain ⟨hle, rfl, htime⟩ := elapses_again hb hc htime
    obtain ⟨hnothing, last, hlast, hlate⟩ := ih htime hr
    rw [looks_again ha hb hc]
    refine ⟨List.forall_mem_cons.2 ⟨ha, hnothing⟩, last, ?_, hlate⟩
    rw [List.getLast?_cons, hlast]
    rfl

/-- Nothing that is said in the rounds declares or binds a queue. -/
theorem Rounds.quiet (h : Rounds deadline id remove watched r) :
    ∀ x ∈ watched.map Stamped.said,
      calls "queue.declare" x = false ∧ calls "queue.bind" x = false := by
  induction h with
  | seen hseen =>
    obtain ⟨x, rest, heq, hrest⟩ := hseen.shape
    rw [heq]
    exact List.forall_mem_cons.2 ⟨⟨rfl, rfl⟩, fun y hy => (hrest y hy).calls.2.imp_right And.left⟩
  | late ha hb _ =>
    rw [List.map_cons, List.map_cons, ha, hb]
    exact List.forall_mem_cons.2 ⟨⟨rfl, rfl⟩, List.forall_mem_singleton.2 ⟨rfl, rfl⟩⟩
  -- A look, a clock and a pause, none of which declares or binds.
  | again ha hb hc _ _ ih =>
    rw [List.map_cons, List.map_cons, List.map_cons, ha, hb, hc]
    exact List.forall_mem_cons.2 ⟨⟨rfl, rfl⟩, List.forall_mem_cons.2 ⟨⟨rfl, rfl⟩,
      List.forall_mem_cons.2 ⟨⟨rfl, rfl⟩, ih⟩⟩⟩

/-- Without the looks that were followed by others, the channel sees a single look. -/
theorem Rounds.lookOnce (h : Rounds deadline id remove watched r)
    (htime : Elapses start watched stop) :
    ∃ once, channelLevel (watched.map Stamped.said) =
        List.replicate ((Amqp.looks watched).length - 1) (nothing id) ++ once ∧
      Course (lookOnce id remove).run once r := by
  induction h generalizing start with
  | seen hseen =>
    obtain ⟨a, tail, rfl, hlooks⟩ := hseen.looks
    obtain ⟨x, rest, heq, hrest⟩ := hseen.shape
    refine ⟨_, ?_, hseen.course⟩
    rw [hlooks, heq]
    exact List.filter_eq_self.2 (List.forall_mem_cons.2 ⟨rfl, fun y hy => (hrest y hy).calls.2.2.2⟩)
  | late ha hb _ =>
    refine ⟨[nothing id], ?_, course_lookOnce_nothing id remove⟩
    rw [looks_late ha hb, List.map_cons, List.map_cons, ha, hb]
    rfl
  | again ha hb hc _ hrounds ih =>
    obtain ⟨-, -, htime⟩ := elapses_again hb hc htime
    obtain ⟨a', ls, hlooks, -⟩ := hrounds.looks_first htime
    obtain ⟨once, heq, honce⟩ := ih htime
    refine ⟨once, ?_, honce⟩
    -- The clock and the pause are no matter of the channel; the look is one more that is left out.
    rw [hlooks] at heq
    rw [looks_again ha hb hc, hlooks, List.map_cons, List.map_cons, List.map_cons, ha, hb, hc]
    exact congrArg (nothing id :: ·) heq

end

end Amqp
end TaskQueue
