import TaskQueue.Proofs.Task.Building
import TaskQueue.Proofs.Time.DateText

/-!
# `TaskQueue.Proofs.Task.Time`: times that are written, and whether they could be given

A time that a caller gives as text is checked, and then sent as it is. Any other time is written
from its instant, and what is written is not checked. `TaskTime.normalize_again` says when it would
pass: the year has to be one of 0 to 9999. Every instant of these years does, whatever its fraction
of a second is, and also if it is in a leap second. The years outside of them are written with a
sign, in a form that no check takes. An envelope holds the times of its task, so the same is said
of them.
-/

set_option autoImplicit false

namespace TaskQueue

namespace TaskTime

/-- The instant that a time is written from. A text is written as it is. -/
def instant? : TaskTime → Option Instant
  | timestamp seconds => (instantOf "" seconds).toOption
  | text _ => none
  | «at» t => some t

/-- The year is written without a sign, unless the time is given as text. -/
def HasPlainYear (time : TaskTime) : Prop :=
  ∀ t ∈ time.instant?, 0 ≤ t.date.year ∧ t.date.year ≤ 9999

instance (time : TaskTime) : Decidable time.HasPlainYear :=
  inferInstanceAs (Decidable (∀ t ∈ time.instant?, 0 ≤ t.date.year ∧ t.date.year ≤ 9999))

/-- Which instants these are. -/
theorem hasPlainYear_at (t : Instant) :
    («at» t).HasPlainYear ↔ -62167219200 ≤ t.seconds ∧ t.seconds < 253402300800 := by
  rw [← Instant.year_iff]
  simp [HasPlainYear, instant?]

/-- What is to come of the text of a time that is given again. -/
def again (time : TaskTime) (field s : String) : Except Error String :=
  if time.HasPlainYear then .ok s
  else .error (.invalidDate field (Error.ticked s ++ " is not a valid date"))

/-- The field only matters for the error. -/
theorem instantOf_ok {field other : String} {seconds : Double} {t : Instant}
    (h : instantOf field seconds = .ok t) : instantOf other seconds = .ok t := by
  unfold instantOf at h ⊢
  -- The field is only named in the errors, so a success does not depend on it.
  cases hvalue : seconds.value? with
  | none =>
    rw [hvalue] at h
    cases h
  | some v =>
    rw [hvalue] at h
    simp only at h ⊢
    cases hinstant : Instant.ofSeconds? (v.1 / (v.2 : Int)) (nanosOf (v.1 % (v.2 : Int)).toNat v.2)
    with
    | none =>
      rw [hinstant] at h
      cases h
    | some t' =>
      rw [hinstant] at h
      exact h

/-- A time is written from its instant, or it is a valid text. -/
theorem normalize_ok {time : TaskTime} {field s : String} (h : time.normalize field = .ok s) :
    (∃ t, time.instant? = some t ∧ s = t.text) ∨ (time = text s ∧ DateText.isValid s = true) := by
  cases time with
  | timestamp seconds =>
    rw [normalize] at h
    cases hinstant : instantOf field seconds with
    | error e =>
      rw [hinstant] at h
      cases h
    | ok t =>
      rw [hinstant] at h
      cases h
      exact .inl ⟨t, by rw [instant?, instantOf_ok hinstant]; rfl, rfl⟩
  -- A text is kept as it is; all other times are written anew.
  | text s' =>
    rw [normalize] at h
    split at h
    · cases h
      exact .inr ⟨rfl, ‹_›⟩
    · cases h
  | «at» t =>
    cases h
    exact .inl ⟨t, rfl, rfl⟩

/-- What is written of a time is a valid date if and only if the year has no sign. -/
theorem isValid_of_normalize {time : TaskTime} {field s : String}
    (h : time.normalize field = .ok s) : DateText.isValid s = true ↔ time.HasPlainYear := by
  rcases normalize_ok h with ⟨t, ht, rfl⟩ | ⟨rfl, hvalid⟩
  · rw [DateText.isValid_text, HasPlainYear, ht]
    simp
  · have hplain : (text s).HasPlainYear := by simp [HasPlainYear, instant?]
    exact iff_of_true hvalid hplain

/-- A text is taken if it is valid, so what was written of a time comes to what it is to. -/
theorem normalize_of_normalize {time : TaskTime} {first s : String}
    (h : time.normalize first = .ok s) (field : String) :
    (text s).normalize field = time.again field s := by
  have hvalid := isValid_of_normalize h
  rw [normalize]
  by_cases hyear : time.HasPlainYear
  · rw [again, if_pos hyear, if_pos (hvalid.2 hyear)]
  · rw [again, if_neg hyear, if_neg (mt hvalid.1 hyear), invalid]

end TaskTime

/-- A time that is in an envelope was written from the one that the caller gave. -/
theorem Envelope.normalize_of_map {field s : String} {time : Option TaskTime}
    {written : Option String} (h : time.map (TaskTime.normalize field) = written.map .ok)
    (hs : written = some s) :
    ∃ t, time = some t ∧ t.normalize field = .ok s := by
  rw [hs] at h
  obtain ⟨t, ht, hwritten⟩ := Option.map_eq_some_iff.1 h
  exact ⟨t, ht, hwritten⟩

/-- What is written of a time is taken again, by any field and as it is, if the year is one of 0 to
9999, and otherwise it is refused. These are the instants from second -62167219200 on, and before
second 253402300800. The times in an envelope come to the same. -/
theorem TaskTime.normalize_again (field : String) :
    (∀ (time : TaskTime) (first s : String), time.normalize first = .ok s →
      (text s).normalize field = time.again field s) ∧
    (∀ t : Instant, («at» t).HasPlainYear ↔
      -62167219200 ≤ t.seconds ∧ t.seconds < 253402300800) ∧
    ∀ (now : Instant) (id : TaskId) (task : String) (arguments : Json.Value)
      (o : TaskOptions) (e : Envelope), Envelope.build now id task arguments o = .ok e →
      (∀ s, e.eta = some s → ∃ time, Envelope.plannedEta now o = some time ∧
        (text s).normalize field = time.again field s) ∧
      ∀ s, e.expires = some s → ∃ time, Envelope.givenExpires o = some time ∧
        (text s).normalize field = time.again field s := by
  refine ⟨?again, hasPlainYear_at, ?envelope⟩
  case again =>
    intro time first s h
    exact normalize_of_normalize h field
  case envelope =>
    intro now id task arguments o e he
    have hspec := (Envelope.build_runs now id task arguments o).wanted_of_ok he
    constructor
    · intro s hs
      obtain ⟨time, htime, hwritten⟩ := Envelope.normalize_of_map hspec.eta hs
      exact ⟨time, htime, normalize_of_normalize hwritten field⟩
    · intro s hs
      obtain ⟨time, htime, hwritten⟩ := Envelope.normalize_of_map hspec.expires hs
      exact ⟨time, htime, normalize_of_normalize hwritten field⟩

/-- A time in a leap second, beside one in the year 10000. -/
def TaskOptions.farApart : TaskOptions where
  eta := some (.at ⟨1483228799, 1500000000⟩)
  expires := some (.at ⟨253402300800, 0⟩)

/-- A leap second is written as one, and is taken again. The year 10000 is not, in the same
envelope. -/
theorem TaskTime.normalize_again_leap :
    (text "2016-12-31T23:59:60.500000+00:00").normalize "expires" =
        .ok "2016-12-31T23:59:60.500000+00:00" ∧
      ∃ e, Envelope.build ⟨0, 0⟩ ⟨"t-1"⟩ "tasks.add" (.array [.int 2]) .farApart = .ok e ∧
        (∃ s, e.eta = some s ∧ (text s).normalize "eta" = .ok s) ∧
        ∃ s, e.expires = some s ∧ (text s).normalize "eta" =
          .error (.invalidDate "eta" (Error.ticked s ++ " is not a valid date")) := by
  obtain ⟨hagain, hplain, -⟩ := TaskTime.normalize_again "expires"
  have hyear : («at» ⟨1483228799, 1500000000⟩).HasPlainYear := (hplain _).2 (by decide)
  have hlate : ¬(«at» ⟨253402300800, 0⟩).HasPlainYear := mt (hplain _).1 (by decide)
  have hleap := hagain («at» ⟨1483228799, 1500000000⟩) "eta" _ rfl
  rw [again, if_pos hyear] at hleap
  obtain ⟨-, -, hbuilt⟩ := TaskTime.normalize_again "eta"
  obtain ⟨heta, hexpires⟩ := hbuilt ⟨0, 0⟩ ⟨"t-1"⟩ "tasks.add" (.array [.int 2]) .farApart _ rfl
  refine ⟨hleap, _, rfl, ⟨_, rfl, ?_⟩, _, rfl, ?_⟩
  · obtain ⟨time, htime, htaken⟩ := heta _ rfl
    cases htime
    rw [htaken, again, if_pos hyear]
  · obtain ⟨time, htime, hrefused⟩ := hexpires _ rfl
    cases htime
    rw [hrefused, again, if_neg hlate]

/-- The last second of the year 9999 has one after it, and a countdown can end there. What is then
written is refused as a text. -/
theorem TaskTime.normalize_again_not :
    countdown ⟨253402300799, 0⟩ 1 = .ok ⟨253402300800, 0⟩ ∧
      ¬∀ (time : TaskTime) (field s : String), time = «at» ⟨253402300800, 0⟩ →
        time.normalize field = .ok s → (text s).normalize field = .ok s := by
  have hcountdown : countdown ⟨253402300799, 0⟩ 1 = .ok ⟨253402300800, 0⟩ := by decide
  have hwritten : (TaskTime.at ⟨253402300800, 0⟩).normalize "eta" =
      .ok "+10000-01-01T00:00:00.000000+00:00" := by decide
  exact ⟨hcountdown, fun hclaim => absurd (hclaim _ _ _ rfl hwritten) (by decide)⟩

end TaskQueue
