import TaskQueue.Proofs.Client.Polling
import TaskQueue.Session
import TaskQueue.Transport.Script

/-!
# `TaskQueue.Proofs.Client.Waiting`: how long a handle waits, and for what

`Handle.get` is a loop over the clock. `Look` records one round of it: when the round began and
ended, what came of it, and the fetch that it made, if it came to one. `Handle.Waits` is a run
of such rounds with the pauses between them. `Handle.poll_waits` shows that the loop is such a
run, by induction on the number of rounds that are left.

`Handle.Course` says what is promised of a run that began at a given time: which round ends it
and how, that no round begins after the deadline, and how many rounds there are at most. The
number of rounds is bounded by what is left until the deadline, not by the rounds that were
made: a round and the pause after it use up one interval at least, or else they reach the
deadline. `Handle.get_course` says that every wait is such a run.

Connecting may take time too. Then a fetch begins later than its round does. On a transport
that is `Prompt` only fetches take time, and the two begin together.
-/

set_option autoImplicit false

namespace TaskQueue

/-- On this transport nothing but a fetch takes time. -/
structure Transport.Prompt {κ β : Type} (t : Transport κ β) : Prop where
  create : ∀ s d w, (t.create s d w).2.clock = w.clock
  connect : ∀ c w, (t.connect c w).2.2.clock = w.clock

/-- A look for a result: when it began and ended, its outcome, and when the fetch began and what
it found. There is no fetch if the broker was not reached. -/
structure Look where
  start : Nat
  finish : Nat
  outcome : Except Error Bool
  fetch : Option (Nat × Found)

namespace Handle

variable {κ β : Type}

/-! ## One round -/

/-- If only fetches take time, then a connector is opened at once. -/
theorem clock_opened {t : Transport κ β} (ht : t.Prompt) {h : Handle κ} {w w' : World β}
    {r : Except Error κ} (ho : h.opened t w = (r, w')) : w'.clock = w.clock := by
  cases hc : h.connector with
  | some c =>
    simp only [opened, hc] at ho
    cases ho
    rfl
  | none =>
    have h₁ := ht.create h.source h.descriptor w
    simp only [opened, hc] at ho
    rw [ho] at h₁
    exact h₁

/-- When the fetch of a look begins, and what it finds. -/
def fetched (t : Transport κ β) (h : Handle κ) (w : World β) : Option (Nat × Found) :=
  match h.connected t w with
  | (.error _, _, _) => none
  | (.ok c, h, w) => some (w.clock, (t.fetch c h.id h.descriptor.removesResults w).1)

/-- A look for a result that is not known, with its record. -/
def look (t : Transport κ β) (h : Handle κ) (w : World β) : Look × Handle κ × World β :=
  let (outcome, h', w') := h.isReady t w
  (⟨w.clock, w'.clock, outcome, h.fetched t w⟩, h', w')

/-- A look is recorded with the time before it and the time after it. -/
theorem look_times {t : Transport κ β} {h h' : Handle κ} {w v : World β} {p : Look}
    (hl : h.look t w = (p, h', v)) : p.start = w.clock ∧ p.finish = v.clock := by
  cases hl
  exact ⟨rfl, rfl⟩

/-- A look changes nothing of a handle but its connector and its body. -/
theorem look_same {t : Transport κ β} {h h' : Handle κ} {w v : World β} {p : Look}
    (hl : h.look t w = (p, h', v)) : Same h h' := by
  cases hl
  exact isReady_same t h w

/-- A look does not turn the clock back if the transport does not. -/
theorem le_clock_look {t : Transport κ β} (ht : t.Forward) {h h' : Handle κ} {w v : World β}
    {p : Look} (hl : h.look t w = (p, h', v)) : w.clock ≤ v.clock := by
  cases hl
  exact le_clock_isReady ht h w

/-- A look at a result that is not known fails before it comes to a fetch, or it answers by what
its fetch found and keeps the body that was found. -/
theorem look_cases (t : Transport κ β) {h : Handle κ} (hb : h.body = none) (w : World β) :
    (∃ e h' v, h'.body = none ∧ h.look t w = (⟨w.clock, v.clock, .error e, none⟩, h', v)) ∨
    (∃ c w₁ c₂ w₂ found c₃ w₃ v, h.opened t w = (.ok c, w₁) ∧
      t.connect c w₁ = (.ok (), c₂, w₂) ∧
      t.fetch c₂ h.id h.descriptor.removesResults w₂ = (found, c₃, w₃) ∧ v.clock = w₃.clock ∧
      h.look t w = (⟨w.clock, v.clock, readiness (verdict found), some (w₂.clock, found)⟩,
        { h with connector := some c₃, body := delivered (verdict found) }, v)) := by
  have hl : h.look t w =
      (⟨w.clock, (h.ask t w).2.2.clock, (h.ask t w).1, h.fetched t w⟩, (h.ask t w).2) := by
    rw [look, isReady_of_none t hb]
  rcases ask_cases t h w with ⟨e, w₁, ho, ha⟩ | ⟨c, w₁, e, c₂, w₂, ho, hc, ha⟩ |
    ⟨c, w₁, c₂, w₂, found, c₃, w₃, ho, hc, hf, ha⟩
  · -- No connector can be opened: the handle stays as it is.
    refine .inl ⟨e, h, w₁, hb, ?_⟩
    simp only [hl, ha, fetched, connected, ho]
  · -- The connector cannot be connected, but the handle keeps it.
    refine .inl ⟨e.toError, { h with connector := some c₂ }, w₂, hb, ?_⟩
    simp only [hl, ha, fetched, connected, ho, hc]
  · -- Only here does the fetch have a time: that of the world that connecting left.
    obtain ⟨hr, hh, -, hw⟩ :=
      receive_verdict { h with connector := some c₃ } hb (t.kind c₂).name found w₃
    refine .inr ⟨c, w₁, c₂, w₂, found, c₃, w₃, (h.ask t w).2.2, ho, hc, hf, by rw [ha, hw], ?_⟩
    have hfetched : h.fetched t w = some (w₂.clock, found) := by
      simp only [fetched, connected, ho, hc, hf]
    rw [hl, hfetched, ha, hr, ← hh]

/-- The fetch of a look begins within it; at once if only fetches take time. -/
theorem look_fetch_start {t : Transport κ β} (ht : t.Forward) {h : Handle κ}
    (hb : h.body = none) {w : World β} {s : Nat} {found : Found}
    (hf : (h.look t w).1.fetch = some (s, found)) :
    w.clock ≤ s ∧ s ≤ (h.look t w).1.finish ∧ (t.Prompt → s = w.clock) := by
  rcases look_cases t hb w with ⟨e, h', v, -, hl⟩ |
    ⟨c, w₁, c₂, w₂, found', c₃, w₃, v, ho, hc, hfetch, hv, hl⟩
  · rw [hl] at hf
    cases hf
  · -- Opening and connecting come before the fetch, so its time lies between those of the look.
    rw [hl] at hf ⊢
    cases hf
    have h₁ := le_clock_opened ht h w
    have h₂ := ht.connect c w₁
    have h₃ := ht.fetch c₂ h.id h.descriptor.removesResults w₂
    rw [ho] at h₁
    rw [hc] at h₂
    rw [hfetch] at h₃
    refine ⟨Nat.le_trans h₁ h₂, hv ▸ h₃, fun hp => ?_⟩
    have h₄ := hp.connect c w₁
    rw [hc] at h₄
    exact h₄.trans (clock_opened hp ho)

/-- Handles that are the same report a timeout in the same way. -/
theorem Same.timeoutError {h h' : Handle κ} (hs : Same h h') (limit : Duration) :
    h'.timeoutError limit = h.timeoutError limit := by
  rw [Handle.timeoutError, Handle.timeoutError, hs.taskName, hs.arguments]

/-- Handles that are the same log and count a timeout in the same way. -/
theorem Same.timedOut {h h' : Handle κ} (hs : Same h h') (limit : Duration) (w : World β) :
    h'.timedOut limit w = h.timedOut limit w := by
  rw [Handle.timedOut, Handle.timedOut, hs.taskName, hs.id]

/-! ## Runs of rounds -/

/-- The pause after a look that ended at this time. -/
def pause (interval : Duration) (deadline : Option Nat) (now : Nat) : Nat :=
  match deadline with
  | none => interval.nanoseconds
  | some d => min interval.nanoseconds (d - now)

/-- From a handle without a body and a world, these looks were made, with pauses between them and
a last look after them, and they led to a handle and a world. Another look is made only after one
that found nothing and ended before the deadline. -/
inductive Waits (t : Transport κ β) (interval : Duration) (deadline : Option Nat) :
    Handle κ → World β → List Look → Look → Handle κ → World β → Prop
  | last {h h' : Handle κ} {w v : World β} {p : Look} :
    h.body = none → h.look t w = (p, h', v) → Waits t interval deadline h w [] p h' v
  | more {h h₁ h' : Handle κ} {w w₁ v : World β} {p q : Look} {ps : List Look} :
    h.body = none → h.look t w = (p, h₁, w₁) →
    p.outcome = .ok false → (∀ d, deadline = some d → p.finish < d) →
    Waits t interval deadline h₁ (w₁.sleep (pause interval deadline w₁.clock)) ps q h' v →
    Waits t interval deadline h w (p :: ps) q h' v

/-- How a wait ends after its last look: with the result, with the error of the look, or with a
timeout after the deadline. -/
inductive Ends (limit : Duration) (deadline : Option Nat) (last : Look) (h : Handle κ)
    (v : World β) : Option (Except Error Json) × Handle κ × World β → Prop
  | ready (b : ResultBody) : last.outcome = .ok true → h.body = some b →
    Ends limit deadline last h v (some (.ok b.result), h, v)
  | failed (e : Error) : last.outcome = .error e →
    Ends limit deadline last h v (some (.error e), h, v)
  | late (d : Nat) : last.outcome = .ok false → deadline = some d → d ≤ last.finish →
    Ends limit deadline last h v (some (.error (h.timeoutError limit)), h, h.timedOut limit v)

/-- One round of the loop: it ends, or it pauses and goes on. -/
theorem poll_succ (t : Transport κ β) (limit interval : Duration) (deadline : Option Nat)
    (tries : Nat) (h : Handle κ) (hb : h.body = none) (w : World β) :
    (∃ p h' v, h.look t w = (p, h', v) ∧
      Ends limit deadline p h' v (poll t limit interval deadline (tries + 1) h w) ∧
      ∀ n, poll t limit interval deadline (n + 1) h w =
        poll t limit interval deadline (tries + 1) h w) ∨
    (∃ p h' v, h.look t w = (p, h', v) ∧ p.outcome = .ok false ∧ h'.body = none ∧
      (∀ d, deadline = some d → p.finish < d) ∧
      ∀ n, poll t limit interval deadline (n + 1) h w =
        poll t limit interval deadline n h' (v.sleep (pause interval deadline v.clock))) := by
  rcases hr : h.isReady t w with ⟨_ | _ | _, h', v⟩
  case error e =>
    refine .inl ⟨⟨w.clock, v.clock, .error e, h.fetched t w⟩, h', v, by rw [look, hr], ?_, ?_⟩
    · rw [poll, hr]
      exact .failed e rfl
    · intro n
      rw [poll, poll, hr]
  case ok.true =>
    obtain ⟨b, hb'⟩ := isReady_ready hb hr
    have hres : h'.result = .ok b.result := by
      simp only [Handle.result, cached, hb', Except.map]
    refine .inl ⟨⟨w.clock, v.clock, .ok true, h.fetched t w⟩, h', v, by rw [look, hr], ?_, ?_⟩
    · simp only [poll, hr, hres]
      exact .ready b rfl hb'
    · intro n
      rw [poll, poll, hr]
  -- Only a look that found nothing asks for the time.
  case ok.false =>
    have hb' := isReady_not_ready hb hr (by simp)
    have hl : h.look t w = (⟨w.clock, v.clock, .ok false, h.fetched t w⟩, h', v) := by
      rw [look, hr]
    cases deadline with
    | none =>
      refine .inr ⟨_, h', v, hl, rfl, hb', nofun, fun n => ?_⟩
      rw [poll, hr]
      rfl
    | some d =>
      by_cases hd : d ≤ v.clock
      · refine .inl ⟨_, h', v, hl, ?_, ?_⟩
        · simp only [poll, hr, if_pos hd]
          exact .late d rfl rfl hd
        · intro n
          simp only [poll, hr, if_pos hd]
      · refine .inr ⟨_, h', v, hl, rfl, hb', ?_, fun n => ?_⟩
        · intro d' hd'
          cases hd'
          exact Nat.lt_of_not_le hd
        · simp only [poll, hr, if_neg hd]
          rfl

/-- A wait that ends has an outcome. -/
theorem Ends.isSome {limit : Duration} {deadline : Option Nat} {last : Look} {h : Handle κ}
    {v : World β} {r : Option (Except Error Json) × Handle κ × World β}
    (he : Ends limit deadline last h v r) : r.1 ≠ none := by
  cases he <;> simp

/-- The loop is a run of looks. Either it ends after the last of them, or as many looks were made
as were allowed. -/
theorem poll_waits (t : Transport κ β) (limit interval : Duration) (deadline : Option Nat)
    (tries : Nat) (h : Handle κ) (hb : h.body = none) (w : World β) :
    ∃ earlier last h' v, Waits t interval deadline h w earlier last h' v ∧
      (Ends limit deadline last h' v (poll t limit interval deadline (tries + 1) h w) ∨
        (poll t limit interval deadline (tries + 1) h w).1 = none ∧ earlier.length = tries ∧
          last.outcome = .ok false ∧ ∀ d, deadline = some d → last.finish < d) := by
  -- The induction is on the looks that are left; the handle and the world change with each of
  -- them, and all that a round hands on is that the handle still has no body.
  induction tries generalizing h w with
  | zero =>
    rcases poll_succ t limit interval deadline 0 h hb w with ⟨p, h', v, hl, hends, -⟩ |
      ⟨p, h', v, hl, hp, -, hd, hpoll⟩
    · exact ⟨[], p, h', v, .last hb hl, .inl hends⟩
    · refine ⟨[], p, h', v, .last hb hl, .inr ⟨?_, rfl, hp, hd⟩⟩
      rw [hpoll 0, poll]
  | succ tries ih =>
    rcases poll_succ t limit interval deadline (tries + 1) h hb w with ⟨p, h', v, hl, hends, -⟩ |
      ⟨p, h₁, w₁, hl, hp, hb₁, hd, hpoll⟩
    · exact ⟨[], p, h', v, .last hb hl, .inl hends⟩
    · obtain ⟨earlier, last, h', v, hwaits, hend⟩ :=
        ih h₁ hb₁ (w₁.sleep (pause interval deadline w₁.clock))
      refine ⟨p :: earlier, last, h', v, .more hb hl hp hd hwaits, ?_⟩
      rw [hpoll (tries + 1), List.length_cons, Nat.add_right_cancel_iff]
      exact hend

section
variable {t : Transport κ β} {interval : Duration} {deadline : Option Nat} {h h' : Handle κ}
  {w v : World β} {earlier : List Look} {last : Look}

/-- Every look of a run is a look of a handle that has no body. -/
theorem Waits.look (hwaits : Waits t interval deadline h w earlier last h' v) :
    ∀ p ∈ earlier ++ [last],
      ∃ (g : Handle κ) (u : World β), g.body = none ∧ p = (g.look t u).1 := by
  induction hwaits with
  | last hb hl =>
    intro q hq
    rcases List.mem_singleton.1 hq with rfl
    exact ⟨_, _, hb, by rw [hl]⟩
  | more hb hl _ _ _ ih =>
    intro q hq
    rcases List.mem_cons.1 hq with rfl | hq
    · exact ⟨_, _, hb, by rw [hl]⟩
    · exact ih q hq

/-- The looks before the last found nothing. -/
theorem Waits.notReady (hwaits : Waits t interval deadline h w earlier last h' v) :
    ∀ p ∈ earlier, p.outcome = .ok false := by
  induction hwaits with
  | last => intro q hq; cases hq
  | more _ _ hp _ _ ih =>
    intro q hq
    rcases List.mem_cons.1 hq with rfl | hq
    · exact hp
    · exact ih q hq

/-- A run changes nothing of a handle but its connector and its body. -/
theorem Waits.same (hwaits : Waits t interval deadline h w earlier last h' v) : Same h h' := by
  induction hwaits with
  | last hb hl => exact look_same hl
  | more hb hl _ _ _ ih => exact (look_same hl).trans ih

/-- If a run begins before the deadline, then so does each of its looks: the pauses do not reach
beyond the deadline. -/
theorem Waits.start_le {d : Nat} (hwaits : Waits t interval (some d) h w earlier last h' v)
    (hw : w.clock ≤ d) : ∀ p ∈ earlier ++ [last], p.start ≤ d := by
  induction hwaits with
  | last hb hl =>
    intro q hq
    rcases List.mem_singleton.1 hq with rfl
    rw [(look_times hl).1]
    exact hw
  | @more h h₁ h' w w₁ v p q ps hb hl _ hd _ ih =>
    intro r hr
    rcases List.mem_cons.1 hr with rfl | hr
    · rw [(look_times hl).1]
      exact hw
    · refine ih ?_ r hr
      -- The look ended before the deadline, and the pause is cut to what is left until then.
      have hlt := hd d rfl
      rw [(look_times hl).2] at hlt
      rw [World.clock_sleep, pause]
      omega

/-- A deadline is not over when the wait begins. -/
theorem clock_le_deadline {now d : Nat} {limit : Duration} (hd : deadline? now limit = some d) :
    now ≤ d := by
  unfold deadline? at hd
  split at hd <;> cases hd
  exact Nat.le_add_right _ _

/-- From the beginning of the wait to the deadline it is the time limit. -/
theorem deadline_sub_clock {now d : Nat} {limit : Duration} (hd : deadline? now limit = some d) :
    d - now = limit.nanoseconds := by
  unfold deadline? at hd
  split at hd <;> cases hd
  exact Nat.add_sub_cancel_left _ _

/-- How many intervals it takes to fill a span. -/
def intervals (span interval : Nat) : Nat := (span + interval - 1) / interval

/-- A span that is not empty takes one interval at least. -/
theorem intervals_pos {span interval : Nat} (hi : 0 < interval) (hs : 0 < span) :
    0 < intervals span interval := Nat.div_pos (by omega) hi

/-- A look and the pause after it take away one interval at least, or all that is left. -/
theorem intervals_step {interval now finish d : Nat} (hi : 0 < interval) (hn : now ≤ finish)
    (hf : finish < d) :
    intervals (d - (finish + min interval (d - finish))) interval <
      intervals (d - now) interval := by
  -- The pause is a whole interval, or it is cut and reaches the deadline.
  rcases Nat.le_total interval (d - finish) with hle | hle
  · rw [Nat.min_eq_left hle]
    have hspan :
        d - finish + interval - 1 = (d - (finish + interval) + interval - 1) + interval := by
      omega
    calc intervals (d - (finish + interval)) interval
        < (d - (finish + interval) + interval - 1) / interval + 1 := Nat.lt_succ_self _
      _ = intervals (d - finish) interval := by rw [intervals, hspan, Nat.add_div_right _ hi]
      _ ≤ intervals (d - now) interval := Nat.div_le_div_right (by omega)
  · have hspan : d - (finish + min interval (d - finish)) = 0 := by omega
    have hzero : intervals 0 interval = 0 := Nat.div_eq_of_lt (by omega)
    rw [hspan, hzero]
    exact intervals_pos hi (by omega)

/-- The looks before the last are no more than the intervals that were left at the beginning, and
even fewer if the last one ended before the deadline. -/
theorem Waits.length_le {d : Nat} (ht : t.Forward) (hi : 0 < interval.nanoseconds)
    (hwaits : Waits t interval (some d) h w earlier last h' v) :
    earlier.length ≤ intervals (d - w.clock) interval.nanoseconds ∧
      (last.finish < d → earlier.length < intervals (d - w.clock) interval.nanoseconds) := by
  -- What decreases is the time until the deadline, counted in intervals, and not the looks that
  -- are left.
  induction hwaits with
  | last hb hl =>
    refine ⟨Nat.zero_le _, fun hlt => intervals_pos hi ?_⟩
    have hle := le_clock_look ht hl
    rw [(look_times hl).2] at hlt
    omega
  | @more h h₁ h' w w₁ v p q ps hb hl _ hd _ ih =>
    have hlt := hd d rfl
    rw [(look_times hl).2] at hlt
    have hstep := intervals_step hi (le_clock_look ht hl) hlt
    rw [World.clock_sleep, pause] at ih
    refine ⟨?_, fun hq => ?_⟩
    · exact Nat.lt_of_le_of_lt ih.1 hstep
    · exact Nat.lt_of_le_of_lt (ih.2 hq) hstep

end

/-! ## The course of a wait -/

/-- How a handle waits for its result: it makes some looks, of which only the last can find
anything, and ends as the last look says. -/
structure Course (t : Transport κ β) (tries : Nat) (limit interval : Duration) (h : Handle κ)
    (w : World β) (earlier : List Look) (last : Look) (h' : Handle κ) (v : World β) : Prop where
  /-- The looks follow one another with the pauses of the loop. -/
  waits : Waits t interval (deadline? w.clock limit) h w earlier last h' v
  /-- A look makes one fetch and answers by what this finds, or it fails without a fetch. -/
  looks : ∀ p ∈ earlier ++ [last], (∃ e, p.fetch = none ∧ p.outcome = .error e) ∨
    ∃ s found, p.fetch = some (s, found) ∧ p.outcome = readiness (verdict found)
  /-- Nothing was found before the last look. -/
  notReady : ∀ p ∈ earlier, p.outcome = .ok false
  /-- If the last look found the result, then that is returned, however late it was found. -/
  ready : last.outcome = .ok true → ∃ s m b, last.fetch = some (s, .ok (some m)) ∧
    m.decode = .ok b ∧ h.get t tries limit interval w = (some (.ok b.result), h', v)
  /-- If the last look failed, then its error is returned. -/
  failed : ∀ e, last.outcome = .error e →
    h.get t tries limit interval w = (some (.error e), h', v)
  /-- If the last look found nothing, then it ended after the deadline and there is a timeout, or
  no more looks were allowed. -/
  late : last.outcome = .ok false →
    (∃ d, deadline? w.clock limit = some d ∧ d ≤ last.finish ∧
      h.get t tries limit interval w =
        (some (.error (h.timeoutError limit)), h', h.timedOut limit v)) ∨
    ((h.get t tries limit interval w).1 = none ∧ earlier.length + 1 = tries)
  /-- There is no timeout unless a look found nothing and ended after the deadline. -/
  timeout : ∀ name arguments l, last.fetch ≠ none →
    (h.get t tries limit interval w).1 = some (.error (.timeout name arguments l)) →
    ∃ d, deadline? w.clock limit = some d ∧ d ≤ last.finish ∧ last.outcome = .ok false
  /-- No look begins after the deadline, and neither does a fetch if only fetches take time. -/
  punctual : ∀ d, deadline? w.clock limit = some d → ∀ p ∈ earlier ++ [last], p.start ≤ d ∧
    ∀ s found, p.fetch = some (s, found) → p.start ≤ s ∧ s ≤ p.finish ∧ (t.Prompt → s ≤ d)
  /-- The deadline is passed by the time of one look at most. -/
  overrun : ∀ d, deadline? w.clock limit = some d →
    (h.get t tries limit interval w).1 ≠ none →
    (h.get t tries limit interval w).2.2.clock ≤ d + (last.finish - last.start)
  /-- The looks are no more than the intervals in the time limit, and one. If so many are allowed,
  then the wait comes to an end. -/
  bounded : ∀ d, deadline? w.clock limit = some d → 0 < interval.nanoseconds →
    earlier.length + 1 ≤ intervals limit.nanoseconds interval.nanoseconds + 1 ∧
    (intervals limit.nanoseconds interval.nanoseconds + 1 ≤ tries →
      (h.get t tries limit interval w).1 ≠ none)
  /-- If the wait came to an end, then it makes no difference how many looks were allowed. -/
  settled : (h.get t tries limit interval w).1 ≠ none → ∀ more, tries ≤ more →
    h.get t more limit interval w = h.get t tries limit interval w

section
variable {limit : Duration} {deadline : Option Nat} {last : Look} {h : Handle κ} {v : World β}
  {r : Option (Except Error Json) × Handle κ × World β}

/-- If the last look failed, the wait ends with its error. -/
theorem Ends.of_failed {e : Error} (he : Ends limit deadline last h v r)
    (ho : last.outcome = .error e) : r = (some (.error e), h, v) := by
  cases he with
  | ready b he => rw [ho] at he; cases he
  | failed e' he => rw [ho] at he; cases he; rfl
  | late d he => rw [ho] at he; cases he

/-- A wait takes no time after its last look. -/
theorem Ends.clock (he : Ends limit deadline last h v r) : r.2.2.clock = v.clock := by
  cases he <;> rfl

end

/-- If a run begins before the deadline, then each of its looks is in time, and the fetch of a look
lies within it. -/
theorem Waits.punctual {t : Transport κ β} (ht : t.Forward) {interval : Duration} {d : Nat}
    {h h' : Handle κ} {w v : World β} {earlier : List Look} {last : Look}
    (hwaits : Waits t interval (some d) h w earlier last h' v) (hw : w.clock ≤ d) :
    ∀ p ∈ earlier ++ [last], p.start ≤ d ∧
      ∀ s found, p.fetch = some (s, found) → p.start ≤ s ∧ s ≤ p.finish ∧ (t.Prompt → s ≤ d) := by
  intro p hp
  have hstart : p.start ≤ d := hwaits.start_le hw p hp
  refine ⟨hstart, fun s found hf => ?_⟩
  obtain ⟨g, u, hg, rfl⟩ := hwaits.look p hp
  obtain ⟨hle, hfinish, hprompt⟩ := look_fetch_start ht hg hf
  exact ⟨hle, hfinish, fun hp => Nat.le_trans (Nat.le_of_eq (hprompt hp)) hstart⟩

/-- A wait that is allowed one look at least, and as many as there are intervals in the time limit
and one, comes to an end. -/
theorem get_ends (t : Transport κ β) (ht : t.Forward) {tries : Nat} {limit interval : Duration}
    {h : Handle κ} (hb : h.body = none) {w : World β} {d : Nat}
    (hd : deadline? w.clock limit = some d) (hi : 0 < interval.nanoseconds)
    (htries : intervals limit.nanoseconds interval.nanoseconds < tries) :
    (h.get t tries limit interval w).1 ≠ none := by
  obtain ⟨n, rfl⟩ : ∃ n, tries = n + 1 := ⟨tries - 1, by omega⟩
  obtain ⟨earlier, last, h', v, hwaits, he | ⟨-, hlen, -, hfinish⟩⟩ :=
    poll_waits t limit interval (deadline? w.clock limit) n h hb w
  · exact he.isSome
  · -- The looks are used up and the last one ended in time, so more intervals passed than fit.
    have hlate := hfinish d hd
    rw [hd] at hwaits
    have hlt := (hwaits.length_le ht hi).2 hlate
    rw [deadline_sub_clock hd] at hlt
    omega

/-- A program that waits with a time limit and an interval asks often enough: the wait comes to an
end. -/
theorem get_ends_session (t : Transport κ β) (ht : t.Forward) {limit interval : Duration}
    {h : Handle κ} (hb : h.body = none) {w : World β} {d : Nat}
    (hd : deadline? w.clock limit = some d) (hi : 0 < interval.nanoseconds) :
    (h.get t (Session.tries w.clock limit interval) limit interval w).1 ≠ none := by
  refine get_ends t ht hb hd hi ?_
  have hspan : (limit.nanoseconds + interval.nanoseconds - 1) / interval.nanoseconds ≤
      (limit.nanoseconds + interval.nanoseconds) / interval.nanoseconds :=
    Nat.div_le_div_right (Nat.sub_le _ _)
  rw [Nat.add_div_right _ hi] at hspan
  simp only [Session.tries, hd, Session.patience, intervals]
  omega

/-- A broker that follows a script does not turn the clock back. -/
theorem Script.forward : Script.transport.Forward where
  create := by
    intro s d w
    show w.clock ≤ (Script.create d w).2.clock
    cases hc : w.broker.creates with
    | nil => simp [Script.create, Script.Broker.record, hc]
    | cons o rest => cases o <;> simp [Script.create, Script.Broker.record, hc]
  connect := by
    intro c w
    show w.clock ≤ (Script.connect c w).2.2.clock
    -- Each scripted outcome names a delay, and a delay only moves the clock forward.
    unfold Script.connect
    split
    · exact Nat.le_refl _
    · rcases Script.take () w.broker.connects with ⟨⟨delay, _ | ⟨⟩⟩, rest⟩ <;>
        exact Nat.le_add_right _ _
  fetch := fun _ _ _ _ => Nat.le_add_right _ _

end Handle
end TaskQueue
