import TaskQueue.Proofs.Client.Reports
import TaskQueue.Proofs.Client.Waiting
import TaskQueue.Proofs.Transport.Fetches

/-!
# `TaskQueue.Proofs.Client.Hidden`: waiting for a result that shows later

Over the broker in memory (`Memory.transport`) nothing fails and nothing takes time, so everything
about a wait can be counted: `Handle.Progress` are the fetches and the time that a part of it took,
and what it left of the handle and of the stored result. `Handle.isReady_glance` is one look. A
result that is hidden from the next `n` fetches shows after `n` looks, each with a pause after it.

The last pause is cut at the deadline, and there is one more look at the deadline itself. So the
looks that fit are the started intervals of the time limit, and one (`intervals_pause`).
`Handle.poll_found` is the wait that comes to the result, by induction on the looks that do not see
it, and `Handle.poll_late` is the wait that does not, by induction on the intervals that are left.
`Handle.get_hidden` puts the two together.
-/

set_option autoImplicit false

namespace TaskQueue

open Memory (Broker Stored glance)

namespace Handle

/-! ## One look -/

/-- Meanwhile so many fetches were made and so much time went by, in nanoseconds. Now the handle has
this body, and this is stored for its task. -/
structure Progress (h : Handle Memory.Connector) (w : World Broker) (fetches elapsed : Nat)
    (body : Option ResultBody) (stored : Option Stored) (h' : Handle Memory.Connector)
    (v : World Broker) : Prop where
  same : Same h h'
  body : h'.body = body
  fetches : v.broker.fetches = w.broker.fetches + fetches
  clock : v.clock = w.clock + elapsed
  stored : v.broker.results.get? h.id = stored

/-- The fetches and the time of two parts of a wait are added. -/
theorem Progress.trans {h h₁ h' : Handle Memory.Connector} {w w₁ v : World Broker}
    {f₁ f₂ e₁ e₂ : Nat} {b₁ b₂ : Option ResultBody} {s₁ s₂ : Option Stored}
    (p : Progress h w f₁ e₁ b₁ s₁ h₁ w₁) (q : Progress h₁ w₁ f₂ e₂ b₂ s₂ h' v) :
    Progress h w (f₁ + f₂) (e₁ + e₂) b₂ s₂ h' v where
  same := p.same.trans q.same
  body := q.body
  fetches := by rw [q.fetches, p.fetches, Nat.add_assoc]
  clock := by rw [q.clock, p.clock, Nat.add_assoc]
  stored := by rw [← p.same.id, q.stored]

/-- A pause takes time and nothing else. -/
theorem Progress.sleep {h h' : Handle Memory.Connector} {w v : World Broker} {f e : Nat}
    {b : Option ResultBody} {s : Option Stored} (p : Progress h w f e b s h' v) (pause : Nat) :
    Progress h w f (e + pause) b s h' (v.sleep pause) where
  same := p.same
  body := p.body
  fetches := p.fetches
  clock := by rw [World.clock_sleep, p.clock, Nat.add_assoc]
  stored := p.stored

/-- The broker in memory is always reached, at once and without a fetch. -/
theorem connected_memory (h : Handle Memory.Connector) (w : World Broker) :
    ∃ c v, h.connected Memory.transport w = (.ok c, { h with connector := some c }, v) ∧
      v.broker.results = w.broker.results ∧ v.broker.fetches = w.broker.fetches ∧
      v.clock = w.clock := by
  have hopened : ∃ c v, h.opened Memory.transport w = (.ok c, v) ∧
      v.broker.results = w.broker.results ∧ v.broker.fetches = w.broker.fetches ∧
      v.clock = w.clock := by
    unfold opened
    cases h.connector with
    | some c => exact ⟨c, w, rfl, rfl, rfl, rfl⟩
    | none => exact ⟨_, _, rfl, rfl, rfl, rfl⟩
  -- Connecting in memory sets a flag, so both cases leave the results alone.
  obtain ⟨⟨d, connected⟩, v, ho, hresults, hfetches, hclock⟩ := hopened
  rw [Handle.connected, ho]
  cases connected with
  | true => exact ⟨_, _, rfl, hresults, hfetches, hclock⟩
  | false => exact ⟨_, _, rfl, hresults, hfetches, hclock⟩

/-- A fetch is counted. -/
theorem fetches_fetch (b : Broker) (id : TaskId) (remove : Bool) :
    (b.fetch id remove).2.fetches = b.fetches + 1 := by
  rcases hs : b.results.get? id with _ | ⟨m, _ | n⟩
  · simp [Broker.fetch, hs]
  · cases remove <;> simp [Broker.fetch, hs]
  · simp [Broker.fetch, hs]

section
variable {h : Handle Memory.Connector} {w : World Broker} {m : ResultMessage} {b : ResultBody}
  {n : Nat}

/-- A look of a handle without a body is one fetch, which sees and leaves what a glance does. It
takes no time. -/
theorem isReady_glance (hb : h.body = none) {found : Option ResultMessage} {left : Option Stored}
    (hs : glance h.descriptor.removesResults (w.broker.results.get? h.id) = (found, left)) :
    ∃ h' v, h.isReady Memory.transport w = (readiness (verdict (.ok found)), h', v) ∧
      Progress h w 1 0 (delivered (verdict (.ok found))) left h' v := by
  obtain ⟨c, w₁, hc, hresults, hfetches, hclock⟩ := h.connected_memory w
  let fetched := w₁.broker.fetch h.id h.descriptor.removesResults
  have hfound : fetched.1 = found := by rw [Memory.fetch_glance, hresults, hs]
  have hleft : fetched.2.results.get? h.id = left := by
    rw [Memory.stored_fetch, if_pos rfl, hresults, hs]
  have hcount : fetched.2.fetches = w.broker.fetches + 1 := by rw [fetches_fetch, hfetches]
  obtain ⟨hanswer, hhandle, hbroker, htime⟩ := receive_verdict { h with connector := some c } hb
    (Memory.transport.kind c).name (.ok found) (w₁.setBroker fetched.2)
  -- The broker in memory is always reached, so the look gets as far as its fetch.
  have hlook : h.isReady Memory.transport w = { h with connector := some c }.receive
      (Memory.transport.kind c).name (.ok found) (w₁.setBroker fetched.2) := by
    rw [isReady_of_none _ hb, ask, hc, ← hfound]
    rfl
  refine ⟨_, _, hlook.trans (Prod.ext hanswer rfl), ?_⟩
  exact {
    same := by rw [hhandle]; exact .of_fields h _ _
    body := by rw [hhandle]
    fetches := by rw [hbroker]; exact hcount
    clock := by rw [htime]; exact hclock
    stored := by rw [hbroker]; exact hleft }

/-- A look at a hidden result brings it one fetch closer. -/
theorem isReady_hidden (hb : h.body = none)
    (hs : w.broker.results.get? h.id = some ⟨m, n + 1⟩) :
    ∃ h' v, h.isReady Memory.transport w = (.ok false, h', v) ∧
      Progress h w 1 0 none (some ⟨m, n⟩) h' v :=
  isReady_glance hb (by rw [hs, glance])

/-- What is left of a result that was found: a fetch may have removed it. -/
def leftover (h : Handle Memory.Connector) (m : ResultMessage) : Option Stored :=
  if h.descriptor.removesResults then none else some ⟨m, 0⟩

/-- A look at a result that shows finds it. -/
theorem isReady_shows (hb : h.body = none) (hm : m.decode = .ok b)
    (hs : w.broker.results.get? h.id = some ⟨m, 0⟩) :
    ∃ h' v, h.isReady Memory.transport w = (.ok true, h', v) ∧
      Progress h w 1 0 (some b) (h.leftover m) h' v := by
  have hverdict : verdict (.ok (some m)) = .ok (some b) := by
    rw [verdict, hm]
    rfl
  have hseen : glance h.descriptor.removesResults (w.broker.results.get? h.id) =
      (some m, h.leftover m) := by
    rw [hs]
    rfl
  have hlook := isReady_glance hb hseen
  rw [hverdict] at hlook
  exact hlook

end

/-! ## The intervals that are left -/

/-- Where no time is left, no interval is. -/
theorem intervals_zero {interval : Nat} (hi : 0 < interval) : intervals 0 interval = 0 :=
  Nat.div_eq_of_lt (by omega)

/-- The deadline is not over if an interval is left. -/
theorem lt_of_intervals_pos {interval now d : Nat} (hi : 0 < interval)
    (hpos : 0 < intervals (d - now) interval) : now < d := by
  refine Nat.lt_of_not_le fun hle => ?_
  rw [Nat.sub_eq_zero_of_le hle, intervals_zero hi] at hpos
  exact Nat.lt_irrefl 0 hpos

/-- A pause that begins before the deadline uses up one interval exactly, be it cut or not. -/
theorem intervals_pause {interval rest : Nat} (hi : 0 < interval) (hrest : 0 < rest) :
    intervals (rest - min interval rest) interval + 1 = intervals rest interval := by
  rcases Nat.le_total interval rest with hle | hle
  · have hspan : rest + interval - 1 = rest - interval + interval - 1 + interval := by omega
    rw [Nat.min_eq_left hle, intervals, intervals, hspan, Nat.add_div_right _ hi]
  · -- A part of an interval counts as one.
    have hone : intervals rest interval = 1 := by
      rw [intervals, Nat.div_eq_iff hi]
      omega
    rw [Nat.min_eq_right hle, Nat.sub_self, intervals_zero hi, hone]

/-- It does not matter in which unit the time is measured. -/
theorem intervals_millis (timeout : Nat) {interval : Nat} (hi : 0 < interval) :
    intervals (timeout * 1000000) (interval * 1000000) = intervals timeout interval := by
  have hunit : (timeout * 1000000 + interval * 1000000 - 1) / 1000000 = timeout + interval - 1 := by
    omega
  rw [intervals, Nat.mul_comm interval, ← Nat.div_div_eq_div_mul, Nat.mul_comm 1000000, hunit,
    intervals]

/-! ## The whole wait -/

section
variable {m : ResultMessage} {b : ResultBody} {n : Nat} (limit : Duration) {interval : Duration}
  {d : Nat}

/-- A look at a hidden result before the deadline is followed by a pause and the rest of the wait.
One interval less is left then. -/
theorem poll_hidden (hi : 0 < interval.nanoseconds) {h : Handle Memory.Connector} {w : World Broker}
    (hb : h.body = none) (hs : w.broker.results.get? h.id = some ⟨m, n + 1⟩) (hlt : w.clock < d) :
    ∃ h₁ w₁, (∀ tries, poll Memory.transport limit interval (some d) (tries + 1) h w =
        poll Memory.transport limit interval (some d) tries h₁ w₁) ∧
      Progress h w 1 (min interval.nanoseconds (d - w.clock)) none (some ⟨m, n⟩) h₁ w₁ ∧
      intervals (d - w₁.clock) interval.nanoseconds + 1 =
        intervals (d - w.clock) interval.nanoseconds := by
  obtain ⟨h₁, w₁, hr, hp⟩ := isReady_hidden hb hs
  have hclock : w₁.clock = w.clock := hp.clock
  -- The pause is cut off at the deadline, and takes one interval off those that are left.
  have hpaused := hp.sleep (min interval.nanoseconds (d - w.clock))
  rw [Nat.zero_add] at hpaused
  refine ⟨h₁, _, fun tries => ?_, hpaused, ?_⟩
  · simp only [poll, hr, hclock]
    rw [if_neg (Nat.not_le.2 hlt)]
  · rw [hpaused.clock, ← Nat.sub_sub]
    exact intervals_pause hi (Nat.sub_pos_of_lt hlt)

/-- If the result is hidden from no more looks than there are pauses until the deadline, then the
wait finds it, right after the last look that did not see it and the pause after that. -/
theorem poll_found (hi : 0 < interval.nanoseconds) (hm : m.decode = .ok b) {tries : Nat}
    {h : Handle Memory.Connector} {w : World Broker} (hb : h.body = none)
    (hs : w.broker.results.get? h.id = some ⟨m, n⟩)
    (hn : n ≤ intervals (d - w.clock) interval.nanoseconds) (htries : n < tries) :
    ∃ h' v, poll Memory.transport limit interval (some d) tries h w =
        (some (.ok b.result), h', v) ∧
      Progress h w (n + 1) (min (n * interval.nanoseconds) (d - w.clock)) (some b) (h.leftover m)
        h' v := by
  -- The induction is on the looks that do not see the result. Each of them uses up one interval.
  induction n generalizing tries h w with
  | zero =>
    obtain ⟨tries, rfl⟩ := Nat.exists_eq_add_one.2 htries
    obtain ⟨h', v, hr, hp⟩ := isReady_shows hb hm hs
    have hresult : h'.result = .ok b.result := by simp [result, cached, hp.body, Except.map]
    refine ⟨h', v, by simp only [poll, hr, hresult], ?_⟩
    rw [Nat.zero_mul, Nat.zero_min]
    exact hp
  | succ n ih =>
    obtain ⟨tries, rfl⟩ := Nat.exists_eq_add_one.2 (Nat.zero_lt_of_lt htries)
    have hlt := lt_of_intervals_pos hi (Nat.zero_lt_of_lt hn)
    obtain ⟨h₁, w₁, hpoll, hp, hleft⟩ := poll_hidden limit hi hb hs hlt
    obtain ⟨h', v, hlater, hq⟩ := ih hp.body (hp.same.id ▸ hp.stored) (by omega)
      (Nat.lt_of_succ_lt_succ htries)
    refine ⟨h', v, (hpoll tries).trans hlater, ?_⟩
    have hfetches : 1 + (n + 1) = n + 1 + 1 := Nat.add_comm ..
    have htime : min interval.nanoseconds (d - w.clock) +
        min (n * interval.nanoseconds) (d - w₁.clock) =
        min ((n + 1) * interval.nanoseconds) (d - w.clock) := by
      rw [hp.clock, Nat.succ_mul]
      omega
    have hleftover : h₁.leftover m = h.leftover m := by rw [leftover, hp.same.descriptor, leftover]
    have hsum := hp.trans hq
    rw [hfetches, htime, hleftover] at hsum
    exact hsum

/-- If the result is hidden from more looks than there are pauses until the deadline, then the wait
ends at the deadline, after a look that still did not see it. -/
theorem poll_late (hi : 0 < interval.nanoseconds) {k tries : Nat} {h : Handle Memory.Connector}
    {w : World Broker} (hb : h.body = none) (hs : w.broker.results.get? h.id = some ⟨m, n⟩)
    (hw : w.clock ≤ d) (hk : intervals (d - w.clock) interval.nanoseconds = k) (hn : k < n)
    (htries : k < tries) :
    ∃ h' v, poll Memory.transport limit interval (some d) tries h w =
        (some (.error (h.timeoutError limit)), h', v) ∧
      Progress h w (k + 1) (d - w.clock) none (some ⟨m, n - k - 1⟩) h' v := by
  -- The induction is on the intervals that are left. With each of them goes one of the looks from
  -- which the result is hidden.
  induction k generalizing n tries h w with
  | zero =>
    obtain ⟨tries, rfl⟩ := Nat.exists_eq_add_one.2 htries
    obtain ⟨n, rfl⟩ := Nat.exists_eq_add_one.2 hn
    obtain ⟨h', v, hr, hp⟩ := isReady_hidden hb hs
    have hover : d - w.clock = 0 := by
      refine Nat.eq_zero_of_not_pos fun hpos => ?_
      have hsome := intervals_pos hi hpos
      omega
    have hclock : v.clock = w.clock := hp.clock
    refine ⟨h', h'.timedOut limit v, ?_, ?_⟩
    · simp only [poll, hr]
      rw [if_pos (by omega), hp.same.timeoutError]
    · rw [hover]
      exact ⟨hp.same, hp.body, hp.fetches, hp.clock, hp.stored⟩
  | succ k ih =>
    obtain ⟨tries, rfl⟩ := Nat.exists_eq_add_one.2 (Nat.zero_lt_of_lt htries)
    obtain ⟨n, rfl⟩ := Nat.exists_eq_add_one.2 (Nat.zero_lt_of_lt hn)
    have hlt : w.clock < d := lt_of_intervals_pos hi (by omega)
    obtain ⟨h₁, w₁, hpoll, hp, hleft⟩ := poll_hidden limit hi hb hs hlt
    have hclock := hp.clock
    obtain ⟨h', v, hlater, hq⟩ := ih hp.body (hp.same.id ▸ hp.stored) (by omega) (by omega)
      (Nat.lt_of_succ_lt_succ hn) (Nat.lt_of_succ_lt_succ htries)
    rw [hp.same.timeoutError] at hlater
    refine ⟨h', v, (hpoll tries).trans hlater, ?_⟩
    have hfetches : 1 + (k + 1) = k + 1 + 1 := Nat.add_comm ..
    have htime : min interval.nanoseconds (d - w.clock) + (d - w₁.clock) = d - w.clock := by omega
    have hcount : n - k - 1 = n + 1 - (k + 1) - 1 := by omega
    have hsum := hp.trans hq
    rw [hfetches, htime, hcount] at hsum
    exact hsum

end

/-- A program asks often enough to come to the deadline. -/
theorem intervals_lt_tries {now timeout interval : Nat}
    (hd : (deadline? now (.ofMillis timeout)).isSome = true) (hi : 0 < interval) :
    intervals timeout interval < Session.tries now (.ofMillis timeout) (.ofMillis interval) := by
  obtain ⟨d, hd⟩ := Option.isSome_iff_exists.1 hd
  have hspan : (timeout * 1000000 + interval * 1000000 - 1) / (interval * 1000000) ≤
      (timeout * 1000000 + interval * 1000000) / (interval * 1000000) :=
    Nat.div_le_div_right (Nat.sub_le _ _)
  rw [Nat.add_div_right _ (Nat.mul_pos hi (by decide))] at hspan
  have hpatience : 1 < Session.patience := by decide
  rw [Session.tries, hd, ← intervals_millis timeout hi, intervals]
  show _ < Session.patience + timeout * 1000000 / (interval * 1000000)
  omega

/-- Waiting for a result that is hidden from the next `n` fetches, with a time limit that the clock
can show and an interval of a millisecond at least. If `n` intervals do not go beyond the interval
in which the limit is over, then the wait has the value, after one fetch more and the time of the
pauses before it. If they do, there is a timeout, at the limit exactly, and what remains of the `n`
fetches is left for a later wait. The handle may name any source, and its connector leads to the
broker in memory. -/
theorem get_hidden {h : Handle Memory.Connector} (hb : h.body = none) {m : ResultMessage}
    {b : ResultBody} (hm : m.decode = .ok b) {w : World Broker} {n : Nat}
    (hs : w.broker.results.get? h.id = some ⟨m, n⟩) {timeout interval : Nat} (hi : 1 ≤ interval)
    (hclock : (deadline? w.clock (.ofMillis timeout)).isSome = true) {tries : Nat}
    (htries : intervals timeout interval < tries) :
    (n ≤ intervals timeout interval →
      ∃ h' v, h.get Memory.transport tries (.ofMillis timeout) (.ofMillis interval) w =
          (some (.ok b.result), h', v) ∧
        Progress h w (n + 1) (min (n * interval) timeout * 1000000) (some b) (h.leftover m) h' v) ∧
    (intervals timeout interval < n →
      ∃ h' v, h.get Memory.transport tries (.ofMillis timeout) (.ofMillis interval) w =
          (some (.error (.timeout h.taskName h.arguments (.ofMillis timeout))), h', v) ∧
        Progress h w (intervals timeout interval + 1) (timeout * 1000000) none
          (some ⟨m, n - intervals timeout interval - 1⟩) h' v) := by
  obtain ⟨d, hd⟩ := Option.isSome_iff_exists.1 hclock
  have hi' : 0 < (Duration.ofMillis interval).nanoseconds := Nat.mul_pos hi (by decide)
  have hspan : d - w.clock = timeout * 1000000 := deadline_sub_clock hd
  have hintervals : intervals (d - w.clock) (Duration.ofMillis interval).nanoseconds =
      intervals timeout interval := by
    rw [hspan]
    exact intervals_millis timeout hi
  rw [get, hd]
  constructor
  · intro hn
    obtain ⟨h', v, hpoll, hp⟩ := poll_found (.ofMillis timeout) hi' hm hb hs
      (hintervals ▸ hn) (Nat.lt_of_le_of_lt hn htries)
    have hpauses : n * (Duration.ofMillis interval).nanoseconds = n * interval * 1000000 :=
      (Nat.mul_assoc ..).symm
    rw [hspan, hpauses, Nat.mul_min_mul_right] at hp
    exact ⟨h', v, hpoll, hp⟩
  · intro hn
    obtain ⟨h', v, hpoll, hp⟩ := poll_late (.ofMillis timeout) hi' hb hs
      (clock_le_deadline hd) hintervals hn htries
    rw [hspan] at hp
    exact ⟨h', v, hpoll, hp⟩

/-- A handle that waits. -/
def waiter : Handle Memory.Connector := .new ⟨"7f3a"⟩ "add" "(1, 2)" {} .given

/-- A broker that hides the result from the next fetches. -/
def hiddenWorld (n : Nat) : World Broker :=
  .start (Broker.put {} ⟨"7f3a"⟩ (Session.statusMessage "SUCCESS") n) ⟨0, 0⟩ 0

/-- In 100 ms there are four looks at intervals of 40 ms. A result that is hidden from two of them
is found by the third, after 80 ms. One that is hidden from five is still hidden from the next. -/
theorem get_hidden_waiter :
    (∃ h' v, waiter.get Memory.transport (Session.tries 0 (.ofMillis 100) (.ofMillis 40))
        (.ofMillis 100) (.ofMillis 40) (hiddenWorld 2) = (some (.ok .null), h', v) ∧
      v.broker.fetches = 3 ∧ v.clock = 80000000) ∧
    ∃ h' v, waiter.get Memory.transport (Session.tries 0 (.ofMillis 100) (.ofMillis 40))
        (.ofMillis 100) (.ofMillis 40) (hiddenWorld 5) =
          (some (.error (.timeout "add" "(1, 2)" (.ofMillis 100))), h', v) ∧
      v.broker.fetches = 4 ∧ v.clock = 100000000 ∧
      v.broker.results.get? ⟨"7f3a"⟩ = some ⟨Session.statusMessage "SUCCESS", 1⟩ := by
  have hclock : (deadline? 0 (.ofMillis 100)).isSome = true := by decide
  have htries : intervals 100 40 < Session.tries 0 (.ofMillis 100) (.ofMillis 40) :=
    intervals_lt_tries hclock (by decide)
  have hdecode := Session.statusMessage_decode "SUCCESS"
  obtain ⟨h', v, hget, hp⟩ :=
    (get_hidden (h := waiter) (w := hiddenWorld 2) rfl hdecode rfl (by decide) hclock htries).1
      (by decide)
  obtain ⟨h'', u, hlate, hq⟩ :=
    (get_hidden (h := waiter) (w := hiddenWorld 5) rfl hdecode rfl (by decide) hclock htries).2
      (by decide)
  exact ⟨⟨h', v, hget, hp.fetches, hp.clock⟩, h'', u, hlate, hq.fetches, hq.clock, hq.stored⟩

end Handle
end TaskQueue
