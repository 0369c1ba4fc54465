import TaskQueue.Proofs.Json.Numeral
import TaskQueue.Proofs.Time.Calendar
import TaskQueue.Time.DateText

/-!
# `TaskQueue.Proofs.Time.DateText`: which instants are read back

An instant is written as a date, a time of day and the offset of UTC. Each reader of `DateText`
takes back what was written for it: `exactly_padded` and `upTo_padded` a number in a column,
`year_yearChars` a year with its sign, `date_chars` a date, and `time_timeChars` a time of day.

Only the form in fixed columns reads an offset, and it has no place for a sign before the year.
The loose forms leave the offset over (`isLocal_text`). So the text of an instant is valid if and
only if its year is one of 0 to 9999, which is `isValid_text`.
-/

set_option autoImplicit false

namespace TaskQueue.DateText

open Duration (padded)
open Json (Digits digits_natChars digits_zeros)

/-! ## Digits -/

/-- Digits are taken until there are as many as wanted, or until something else comes. -/
theorem takeDigits_append {ds rest : List Char} (hds : Digits ds) :
    ∀ {most : Nat}, ds.length ≤ most →
      (ds.length = most ∨ ∀ c ∈ rest.head?, isDigit c = false) →
      takeDigits most (ds ++ rest) = (ds, rest) := by
  induction ds with
  | nil =>
    intro most _ hstop
    cases most with
    | zero => rfl
    | succ most =>
      cases rest with
      | nil => rfl
      | cons c rest =>
        -- There is room for another digit, but none follows.
        have hc : isDigit c = false := hstop.resolve_left (by simp) c rfl
        simp [takeDigits, hc]
  | cons d ds ih =>
    intro most hlen hstop
    cases most with
    | zero => simp at hlen
    | succ most =>
      have hd : isDigit d = true := hds d (by simp)
      have hlen' : ds.length ≤ most := by simpa using hlen
      have htail : takeDigits most (ds ++ rest) = (ds, rest) :=
        ih (fun c hc => hds c (by simp [hc])) hlen' (hstop.imp_left (by simp))
      simp [takeDigits, hd, htail]

/-- All digits at the front are taken. -/
theorem spanDigits_append {ds rest : List Char} (hds : Digits ds)
    (hstop : ∀ c ∈ rest.head?, isDigit c = false) : spanDigits (ds ++ rest) = (ds, rest) :=
  takeDigits_append hds (by simp) (.inr hstop)

/-- A digit is no white space. -/
theorem isBlank_of_isDigit {c : Char} (hc : c.isDigit = true) : Text.isBlank c = false := by
  have hrange : 48 ≤ c.toNat ∧ c.toNat ≤ 57 := Char.isDigit_iff_toNat.1 hc
  simp [Text.isBlank, Text.inRanges, Text.blankRanges]
  omega

/-- There is no white space to drop in front of digits. -/
theorem dropWhile_digits {ds : List Char} (hds : Digits ds) (hne : ds ≠ []) (rest : List Char) :
    (ds ++ rest).dropWhile Text.isBlank = ds ++ rest := by
  cases ds with
  | nil => exact absurd rfl hne
  | cons d ds =>
    have hd := isBlank_of_isDigit (hds d (by simp))
    simp [hd]

/-! ## Columns -/

/-- A padded number is written in digits. -/
theorem digits_padded (w n : Nat) : Digits (padded w n) :=
  (digits_zeros _).append (digits_natChars n)

/-- A padded number has one digit at least. -/
theorem padded_ne_nil (w n : Nat) : padded w n ≠ [] := by
  simp [padded, Nat.toDigits_ne_nil]

/-- A column is as wide as it should be, if the number fits. -/
theorem length_padded {w n : Nat} (hw : 0 < w) (hn : n < 10 ^ w) : (padded w n).length = w := by
  have hlen := (Nat.length_toDigits_le_iff (by decide) hw).2 hn
  simp only [padded, List.length_append, List.length_replicate]
  omega

/-- The digits are those of a decimal number. -/
theorem number_eq (ds : List Char) : number ds = Nat.ofDigitChars 10 ds 0 := by
  simp only [Nat.ofDigitChars_eq_foldl, number, Nat.mul_comm 10]
  rfl

/-- Zeros in front do not count. -/
theorem number_padded (w n : Nat) : number (padded w n) = n := by
  rw [number_eq, padded, Nat.ofDigitChars_append, Nat.ofDigitChars_replicate_zero, Nat.mul_zero,
    Nat.ofDigitChars_ten_toDigits]

/-- A padded number is taken off the front digit by digit. -/
theorem takeDigits_padded {w n : Nat} (hw : 0 < w) (hn : n < 10 ^ w) (rest : List Char) :
    takeDigits w (padded w n ++ rest) = (padded w n, rest) :=
  have hlen := length_padded hw hn
  takeDigits_append (digits_padded w n) hlen.le (.inl hlen)

/-- A column of fixed width is read back. -/
theorem exactly_padded {w n : Nat} (hw : 0 < w) (hn : n < 10 ^ w) (rest : List Char) :
    exactly w (padded w n ++ rest) = some (n, rest) := by
  simp [exactly, takeDigits_padded hw hn, length_padded hw hn, number_padded]

/-- A column that may be shorter is read back too. -/
theorem upTo_padded {w n : Nat} (hw : 0 < w) (hn : n < 10 ^ w) (rest : List Char) :
    upTo w (padded w n ++ rest) = some (n, rest) := by
  rw [upTo, dropWhile_digits (digits_padded w n) (padded_ne_nil w n), takeDigits_padded hw hn]
  simp [padded_ne_nil, number_padded]

/-- A point and some places are read. -/
theorem fraction_padded (w n : Nat) {rest : List Char}
    (hstop : ∀ c ∈ rest.head?, isDigit c = false) :
    fraction ('.' :: (padded w n ++ rest)) = some ((), rest) := by
  obtain ⟨d, ds, hcons⟩ := List.exists_cons_of_ne_nil (padded_ne_nil w n)
  rw [fraction, spanDigits_append (digits_padded w n) hstop, hcons]

/-! ## Dates and times of day -/

/-- A sign is no digit, nor white space. -/
theorem ne_sign_of_isDigit {c : Char} (hc : c.isDigit = true) : c ≠ '+' ∧ c ≠ '-' := by
  constructor <;> (rintro rfl; exact absurd hc (by decide))

/-- A year is read back with its sign. -/
theorem year_yearChars (y : Int) (rest : List Char) :
    year (Date.yearChars y ++ '-' :: rest) = some (y, '-' :: rest) := by
  have hdigits := digits_padded 4 y.natAbs
  have hnumber := number_padded 4 y.natAbs
  have hstop : ∀ c ∈ ('-' :: rest).head?, isDigit c = false := by
    intro c hc
    cases hc
    rfl
  have hspan := spanDigits_append hdigits hstop
  have hdrop := dropWhile_digits hdigits (padded_ne_nil 4 y.natAbs) ('-' :: rest)
  obtain ⟨d, ds, hcons⟩ := List.exists_cons_of_ne_nil (padded_ne_nil 4 y.natAbs)
  unfold Date.yearChars
  rw [hcons] at hdigits hnumber hspan hdrop ⊢
  by_cases hneg : y < 0
  · have hsign : (-1) * (y.natAbs : Int) = y := by omega
    have hblank : Text.isBlank '-' = false := by decide
    rw [if_pos hneg, List.cons_append, year, List.dropWhile_cons_of_neg (by simp [hblank])]
    simp only
    rw [hspan]
    simp only [hnumber, hsign]
  by_cases hlong : 9999 < y
  · have hsign : 1 * (y.natAbs : Int) = y := by omega
    have hblank : Text.isBlank '+' = false := by decide
    rw [if_neg hneg, if_pos hlong, List.cons_append, year,
      List.dropWhile_cons_of_neg (by simp [hblank])]
    simp only
    rw [hspan]
    simp only [hnumber, hsign]
  · have habs : (y.natAbs : Int) = y := by omega
    have htake := takeDigits_padded (w := 4) (n := y.natAbs) (by decide) (by omega) ('-' :: rest)
    rw [hcons] at htake
    rw [if_neg hneg, if_neg hlong, year, hdrop]
    -- The first digit is no sign, so the year has four digits at most.
    obtain ⟨hplus, hminus⟩ := ne_sign_of_isDigit (hdigits d (by simp))
    split
    · rename_i heq
      exact absurd (List.cons.inj heq).1 hplus
    · rename_i heq
      exact absurd (List.cons.inj heq).1 hminus
    · rw [htake]
      simp only [hnumber, habs]

/-- A date is read back. -/
theorem date_chars {d : Date} (hmonth : d.month < 100) (hday : d.day < 100) (rest : List Char) :
    date (d.chars ++ rest) = some (d, rest) := by
  have hyear := year_yearChars d.year (padded 2 d.month ++ '-' :: (padded 2 d.day ++ rest))
  have hm := upTo_padded (w := 2) (by decide) hmonth ('-' :: (padded 2 d.day ++ rest))
  have hd := upTo_padded (w := 2) (by decide) hday rest
  simp [date, Date.chars, hyear, hm, hd, literal]

/-- The time of day of an instant is one. It has second 60 at the latest, in a leap second. -/
theorem timeChars_eq (t : Instant) :
    ∃ hour minute second micros : Nat, hour < 24 ∧ minute < 60 ∧ second ≤ 60 ∧
      t.timeChars = padded 2 hour ++ ':' :: (padded 2 minute ++ ':' :: (padded 2 second ++
        '.' :: padded 6 micros)) := by
  obtain ⟨s, hs⟩ : ∃ s, s = (t.seconds % 86400).toNat := ⟨_, rfl⟩
  have hday : s < 86400 := by omega
  simp only [Instant.timeChars, ← hs]
  by_cases hleap : t.nanos < 1000000000
  · rw [if_pos hleap]
    exact ⟨_, _, _, _, by omega, by omega, by omega, rfl⟩
  · rw [if_neg hleap]
    exact ⟨_, _, _, _, by omega, by omega, by omega, rfl⟩

/-- A time of day is read back. -/
theorem time_timeChars (t : Instant) {rest : List Char}
    (hstop : ∀ c ∈ rest.head?, isDigit c = false) :
    time (t.timeChars ++ rest) = some ((), rest) := by
  obtain ⟨hour, minute, second, micros, hhour, hminute, hsecond, htime⟩ := timeChars_eq t
  have hh := upTo_padded (w := 2) (n := hour) (by decide) (by omega)
  have hm := upTo_padded (w := 2) (n := minute) (by decide) (by omega)
  have hs := upTo_padded (w := 2) (n := second) (by decide) (by omega)
  simp [time, htime, hh, hm, hs, literal, fraction_padded 6 micros hstop, isTime, hhour, hminute,
    hsecond]

/-! ## Instants -/

/-- The offset of UTC, as it is written. -/
def utcChars : List Char := ['+', '0', '0', ':', '0', '0']

/-- The offset of universal time is read as one. -/
theorem offset_utcChars : offset utcChars = some ((), []) := by decide

/-- It does not begin with a digit, so it ends the seconds before it. -/
theorem isDigit_head_utcChars : ∀ c ∈ utcChars.head?, isDigit c = false := by
  intro c hc
  cases hc
  rfl

/-- The text of an instant has the offset at its end. -/
theorem toList_text (t : Instant) :
    t.text.toList = t.date.chars ++ 'T' :: (t.timeChars ++ utcChars) := by
  simp [Instant.text, utcChars]

/-- The loose forms have no offset, so they do not take the text of an instant. -/
theorem isLocal_text (t : Instant) : isLocal t.text.toList = false := by
  have hmonth : t.date.month ≤ 12 := (Date.month_ofDays _).2
  have hday : t.date.day ≤ 31 := (Date.day_ofDays _).2
  have hdate := date_chars (d := t.date) (by omega) (by omega) ('T' :: (t.timeChars ++ utcChars))
  have htime := time_timeChars t isDigit_head_utcChars
  -- White space between date and time of day does not stand for the letter.
  have hletter : Text.isBlank 'T' = false := by decide
  have hblank : time ('T' :: (t.timeChars ++ utcChars)) = none := by
    simp [time, upTo, hletter, takeDigits, isDigit]
  have hleft : utcChars ≠ [] := List.cons_ne_nil _ _
  rw [toList_text]
  simp [isLocal, isDateTime, isDate, hdate, htime, hblank, hleft, Separator.read, literal, hletter]

/-- A text in fixed columns starts with a digit. -/
theorem isTimestamp_cons {c : Char} (hc : isDigit c = false) (rest : List Char) :
    isTimestamp (c :: rest) = false := by
  have hyear : exactly 4 (c :: rest) = none := by simp [exactly, takeDigits, hc]
  rw [isTimestamp, timestamp?, hyear]
  rfl

/-- A step that reads something, and those after it. -/
theorem bind_of_read {α β : Type} {step : Option α} {a : α} {next : α → Option β} {b : Option β}
    (hstep : step = some a) (hnext : next a = b) : (step >>= next) = b := by
  rw [hstep]
  exact hnext

/-- The form in fixed columns takes the text of an instant if the year has four digits. -/
theorem isTimestamp_of_year {t : Instant} (h0 : 0 ≤ t.date.year) (h1 : t.date.year ≤ 9999) :
    isTimestamp t.text.toList = true := by
  have hunsigned : ¬t.date.year < 0 ∧ ¬9999 < t.date.year := by omega
  have hdate : Date.mk t.date.year.natAbs t.date.month t.date.day = t.date := by
    rw [Int.natAbs_of_nonneg h0]
  have hexists : t.date.exists? = true :=
    Date.exists?_ofDays (Int.le_trans (by decide) h0) (Int.le_trans h1 (by decide))
  have hmonth : t.date.month ≤ 12 := (Date.month_ofDays _).2
  have hday : t.date.day ≤ 31 := (Date.day_ofDays _).2
  obtain ⟨hour, minute, second, micros, hhour, hminute, hsecond, htime⟩ := timeChars_eq t
  have hclock : isTime hour minute second = true := by simp [isTime, hhour, hminute, hsecond]
  have two {n : Nat} (hn : n < 100) := exactly_padded (w := 2) (by decide) hn
  -- The columns are read one by one, in the order in which they were written.
  have hread : timestamp? t.text.toList = some () := by
    rw [toList_text, htime, Date.chars, Date.yearChars, if_neg hunsigned.1, if_neg hunsigned.2]
    simp only [List.append_assoc, List.cons_append]
    refine bind_of_read (exactly_padded (by decide) (by omega) _) (bind_of_read rfl ?_)
    refine bind_of_read (two (by omega) _) (bind_of_read rfl ?_)
    refine bind_of_read (two (by omega) _) (bind_of_read rfl ?_)
    refine bind_of_read (two (by omega) _) (bind_of_read rfl ?_)
    refine bind_of_read (two (by omega) _) (bind_of_read rfl ?_)
    refine bind_of_read (two (by omega) _) ?_
    refine bind_of_read (fraction_padded 6 micros isDigit_head_utcChars) ?_
    refine bind_of_read offset_utcChars ?_
    exact if_pos ⟨rfl, hdate ▸ hexists, hclock⟩
  rw [isTimestamp, hread]
  rfl

/-- The text of an instant is taken for a timestamp exactly in the years 0 to 9999. -/
theorem isTimestamp_text (t : Instant) :
    isTimestamp t.text.toList = true ↔ 0 ≤ t.date.year ∧ t.date.year ≤ 9999 := by
  constructor
  · intro h
    -- A year with a sign does not start with a digit.
    rw [toList_text, Date.chars, Date.yearChars] at h
    by_cases hneg : t.date.year < 0
    · simp [hneg, isTimestamp_cons (c := '-') (by decide)] at h
    by_cases hlong : 9999 < t.date.year
    · simp [hneg, hlong, isTimestamp_cons (c := '+') (by decide)] at h
    · omega
  · intro h
    exact isTimestamp_of_year h.1 h.2

/-- The text of an instant names a date if and only if the year is one of 0 to 9999. -/
theorem isValid_text (t : Instant) :
    isValid t.text = true ↔ 0 ≤ t.date.year ∧ t.date.year ≤ 9999 := by
  rw [isValid, isLocal_text, Bool.or_false, isTimestamp_text]

end TaskQueue.DateText
