import TaskQueue.Telemetry.Metrics

/-!
# `TaskQueue.Proofs.Telemetry.Counters`: what counters count

The samples of a counter are sorted by their labels. `Counter.increment` relies on that when it
looks for the place of a new sample, and keeps to it (`Counter.Sorted.increment`). In a sorted
counter the count under some labels is the number of times that these were counted, and the total is
the number of all times (`Counter.count_incrementAll`, `Counter.total_incrementAll`).

`Metrics.Entry` is one thing that a client enters into its metrics. Each counter of the metrics has
counted the labels that were entered for it (`Metrics.enterAll_eq`).
-/

set_option autoImplicit false

namespace TaskQueue

namespace Counter

/-! ## The order of labels -/

/-- No labels come before themselves. -/
theorem before_irrefl (labels : List String) : before labels labels = false := by
  induction labels with
  | nil => rfl
  | cons a as ih =>
    rw [before, if_neg (String.lt_irrefl a), if_pos rfl]
    exact ih

/-- The first label decides, or the others do if it is the same. -/
theorem before_cons {a b : String} {as bs : List String} :
    before (a :: as) (b :: bs) = true ↔ a < b ∨ a = b ∧ before as bs = true := by
  by_cases hlt : a < b
  · simp [before, hlt]
  · rw [before, if_neg hlt]
    by_cases heq : a = b
    · rw [if_pos heq]
      exact ⟨fun h => .inr ⟨heq, h⟩, fun h => (h.resolve_left hlt).2⟩
    · rw [if_neg heq]
      exact ⟨nofun, fun h => absurd (h.resolve_left hlt).1 heq⟩

/-- The order of labels is transitive. -/
theorem before_trans {as bs cs : List String} (h : before as bs = true)
    (h' : before bs cs = true) : before as cs = true := by
  induction as generalizing bs cs with
  | nil =>
    cases cs with
    | nil => cases bs <;> cases h'
    | cons c cs => rfl
  | cons a as ih =>
    cases bs with
    | nil => cases h
    | cons b bs =>
      cases cs with
      | nil => cases h'
      | cons c cs =>
        rw [before_cons] at h h' ⊢
        -- The first label in which any two of them differ decides.
        rcases h with hab | ⟨rfl, h⟩
        · rcases h' with hbc | ⟨rfl, -⟩
          · exact .inl (String.lt_trans hab hbc)
          · exact .inl hab
        · rcases h' with hbc | ⟨rfl, h'⟩
          · exact .inl hbc
          · exact .inr ⟨rfl, ih h h'⟩

/-- Of two different lists of labels one comes before the other. -/
theorem before_of_not_before {as bs : List String} (h : ¬ before as bs = true) (hne : as ≠ bs) :
    before bs as = true := by
  induction as generalizing bs with
  | nil =>
    cases bs with
    | nil => exact absurd rfl hne
    | cons b bs => exact absurd rfl h
  | cons a as ih =>
    cases bs with
    | nil => rfl
    | cons b bs =>
      rw [before_cons] at h ⊢
      -- The first label decides, unless both lists begin with the same.
      by_cases heq : a = b
      · subst heq
        have hrest : ¬ before as bs = true := fun hrest => h (.inr ⟨rfl, hrest⟩)
        exact .inr ⟨rfl, ih hrest fun has => hne (congrArg (a :: ·) has)⟩
      · have hle : b ≤ a := String.not_lt.1 fun hlt => h (.inl hlt)
        exact .inl (Std.lt_of_le_of_ne hle (Ne.symm heq))

/-! ## Sorted counters -/

/-- The samples are sorted by their labels. -/
def Sorted (c : Counter) : Prop := c.Pairwise fun s t => before s.1 t.1 = true

/-- The labels of a counter are those that it had and those that were counted. -/
theorem mem_increment {labels : List String} {c : Counter} {s : List String × Nat}
    (h : s ∈ increment labels c) : s.1 = labels ∨ ∃ t ∈ c, s.1 = t.1 := by
  induction c with
  | nil =>
    cases List.mem_singleton.1 h
    exact .inl rfl
  | cons sample rest ih =>
    obtain ⟨l, n⟩ := sample
    rw [increment] at h
    -- The cases are those of an insertion into a sorted list: here, before this sample, or further
    -- on.
    split at h
    · rename_i heq
      rcases List.mem_cons.1 h with rfl | h
      · exact .inl heq.symm
      · exact .inr ⟨s, List.mem_cons_of_mem _ h, rfl⟩
    · split at h
      · rcases List.mem_cons.1 h with rfl | h
        · exact .inl rfl
        · exact .inr ⟨s, h, rfl⟩
      · rcases List.mem_cons.1 h with rfl | h
        · exact .inr ⟨_, List.mem_cons_self, rfl⟩
        · rcases ih h with heq | ⟨t, ht, heq⟩
          · exact .inl heq
          · exact .inr ⟨t, List.mem_cons_of_mem _ ht, heq⟩

/-- Counting keeps the samples sorted. -/
theorem Sorted.increment {c : Counter} (hc : Sorted c) (labels : List String) :
    Sorted (c.increment labels) := by
  induction c with
  | nil => exact List.pairwise_singleton _ _
  | cons sample rest ih =>
    obtain ⟨l, n⟩ := sample
    obtain ⟨hfirst, hrest⟩ := List.pairwise_cons.1 hc
    rw [Counter.increment]
    split
    · exact List.pairwise_cons.2 ⟨hfirst, hrest⟩
    · rename_i hne
      split
      · rename_i hbefore
        refine List.pairwise_cons.2 ⟨fun s hs => ?_, hc⟩
        rcases List.mem_cons.1 hs with rfl | hs
        · exact hbefore
        · exact before_trans hbefore (hfirst s hs)
      · rename_i hbefore
        -- The labels come after those of the first sample, and so do all the others.
        refine List.pairwise_cons.2 ⟨fun s hs => ?_, ih hrest⟩
        rcases mem_increment hs with heq | ⟨t, ht, heq⟩
        · rw [heq]
          exact before_of_not_before hbefore hne
        · rw [heq]
          exact hfirst t ht

/-- There is no count under labels that come before all samples. -/
theorem count_of_before {labels : List String} {c : Counter}
    (h : ∀ s ∈ c, before labels s.1 = true) : c.count labels = 0 := by
  induction c with
  | nil => rfl
  | cons sample rest ih =>
    have hne : labels ≠ sample.1 := fun heq => by
      have hself := h sample List.mem_cons_self
      rw [← heq, before_irrefl] at hself
      cases hself
    rw [count, if_neg hne]
    exact ih fun s hs => h s (List.mem_cons_of_mem _ hs)

/-- Counting adds one to the count under the labels, and nothing to other counts. -/
theorem count_increment {c : Counter} (hc : Sorted c) (labels other : List String) :
    (c.increment labels).count other = c.count other + if labels = other then 1 else 0 := by
  induction c with
  | nil =>
    by_cases h : labels = other
    · simp [increment, count, h]
    · simp [increment, count, h, Ne.symm h]
  | cons sample rest ih =>
    obtain ⟨l, n⟩ := sample
    obtain ⟨hfirst, hrest⟩ := List.pairwise_cons.1 hc
    rw [increment]
    split
    · rename_i heq
      subst heq
      by_cases h : labels = other
      · simp [count, h]
      · simp [count, h, Ne.symm h]
    · rename_i hne
      split
      · rename_i hbefore
        by_cases h : labels = other
        · subst h
          -- The labels are new, since all samples come after them.
          have hnew : count labels ((l, n) :: rest) = 0 := by
            refine count_of_before fun s hs => ?_
            rcases List.mem_cons.1 hs with rfl | hs
            · exact hbefore
            · exact before_trans hbefore (hfirst s hs)
          rw [hnew, count, if_pos rfl, if_pos rfl]
        · rw [count, if_neg (Ne.symm h), if_neg h, Nat.add_zero]
      · by_cases h : other = l
        · subst h
          rw [count, if_pos rfl, count, if_pos rfl, if_neg hne, Nat.add_zero]
        · rw [count, if_neg h, count, if_neg h, ih hrest]

/-- Counting adds one to the total. -/
theorem total_increment (c : Counter) (labels : List String) :
    (c.increment labels).total = c.total + 1 := by
  induction c with
  | nil => rfl
  | cons sample rest ih =>
    obtain ⟨l, n⟩ := sample
    rw [increment]
    split
    · show n + 1 + total rest = n + total rest + 1
      omega
    · split
      · exact Nat.add_comm 1 _
      · show n + total (increment labels rest) = n + total rest + 1
        omega

/-- Counts several labels, one after the other. -/
def incrementAll (c : Counter) (counted : List (List String)) : Counter :=
  counted.foldl (fun c labels => c.increment labels) c

/-- The count under some labels is the number of times that they were counted. -/
theorem count_incrementAll {c : Counter} (hc : Sorted c) (counted : List (List String))
    (labels : List String) :
    (c.incrementAll counted).count labels = c.count labels + counted.count labels := by
  induction counted generalizing c with
  | nil => rfl
  | cons first rest ih =>
    rw [incrementAll, List.foldl_cons, ← incrementAll, ih (hc.increment first),
      count_increment hc, List.count_cons]
    simp only [beq_iff_eq]
    omega

/-- The total is the number of all times that something was counted. -/
theorem total_incrementAll (c : Counter) (counted : List (List String)) :
    (c.incrementAll counted).total = c.total + counted.length := by
  induction counted generalizing c with
  | nil => rfl
  | cons first rest ih =>
    rw [incrementAll, List.foldl_cons, ← incrementAll, ih, total_increment, List.length_cons]
    omega

end Counter

/-! ## Entries -/

namespace Metrics

/-- One thing that a client enters into its metrics: a submission with the seconds that it took, a
failed publication, a fetch, or a wait that took too long. -/
inductive Entry where
  | submitted (exchange task : String) (seconds : Double)
  | failed (backend : String)
  | fetched (backend : String) (outcome : FetchOutcome)
  | timedOut (task : String)

namespace Entry

/-- The metrics after the entry. -/
def enter (m : Metrics) : Entry → Metrics
  | submitted exchange task seconds => (m.taskSubmitted exchange task).latency seconds
  | failed backend => m.publishFailed backend
  | fetched backend outcome => m.resultFetched backend outcome
  | timedOut task => m.pollTimedOut task

/-- The labels of a submission. -/
def submitted? : Entry → Option (List String)
  | submitted exchange task _ => some [exchange, task]
  | _ => none

/-- The seconds that a submission took. -/
def seconds? : Entry → Option Double
  | submitted _ _ seconds => some seconds
  | _ => none

/-- The labels of a failed publication. -/
def failed? : Entry → Option (List String)
  | failed backend => some [backend]
  | _ => none

/-- The labels of a fetch. -/
def fetched? : Entry → Option (List String)
  | fetched backend outcome => some [backend, outcome.label]
  | _ => none

/-- The labels of a wait that took too long. -/
def timedOut? : Entry → Option (List String)
  | timedOut task => some [task]
  | _ => none

end Entry

/-- The metrics after several entries, one after the other. -/
def enterAll (m : Metrics) (es : List Entry) : Metrics := es.foldl Entry.enter m

/-- Without entries the counters stay as they are. -/
@[simp] theorem enterAll_nil (m : Metrics) : m.enterAll [] = m := rfl

/-- Two lists of entries are entered one after the other. -/
theorem enterAll_append (m : Metrics) (es fs : List Entry) :
    m.enterAll (es ++ fs) = (m.enterAll es).enterAll fs := List.foldl_append

/-- Each counter counts what is entered for it, and the histogram takes the seconds of the
submissions. -/
theorem enterAll_eq (m : Metrics) (es : List Entry) :
    m.enterAll es =
      { submitted := m.submitted.incrementAll (es.filterMap Entry.submitted?)
        failures := m.failures.incrementAll (es.filterMap Entry.failed?)
        fetches := m.fetches.incrementAll (es.filterMap Entry.fetched?)
        timeouts := m.timeouts.incrementAll (es.filterMap Entry.timedOut?)
        latencies := m.latencies ++ es.filterMap Entry.seconds? } := by
  induction es generalizing m with
  | nil => simp [Counter.incrementAll]
  | cons e es ih =>
    have hfirst : m.enterAll (e :: es) = (e.enter m).enterAll es := rfl
    rw [hfirst, ih]
    -- Each kind of entry touches its own counters, and a submission is timed besides.
    cases e with
    | submitted exchange task seconds =>
      simp [Entry.enter, taskSubmitted, latency, Counter.incrementAll, List.filterMap_cons,
        Entry.submitted?, Entry.failed?, Entry.fetched?, Entry.timedOut?, Entry.seconds?]
    | failed backend => rfl
    | fetched backend outcome => rfl
    | timedOut task => rfl

/-- Every submission has its seconds. -/
theorem length_seconds (es : List Entry) :
    (es.filterMap Entry.seconds?).length = (es.filterMap Entry.submitted?).length := by
  induction es with
  | nil => rfl
  | cons e es ih => cases e <;> simp [List.filterMap_cons, Entry.seconds?, Entry.submitted?, ih]

end Metrics
end TaskQueue
