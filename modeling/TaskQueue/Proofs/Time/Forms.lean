import Mathlib.Data.List.DropRight
import TaskQueue.Proofs.Time.DateText

/-!
# `TaskQueue.Proofs.Time.Forms`: the four forms of a date

`DateText.isValid` reads a text from the front. Here the texts that name a date are put together
from their parts, and nothing is read: `NamesDate` has one constructor for each form.
`isValid_iff` says that these are the valid texts.

A part ends where the next one begins, and mostly there is a character between them that is in
neither. Only day and hour can touch. A reader takes as many digits as it can, so that the day has
two digits then. This is why `Column` and `LooseDate` say how many there are.
-/

set_option autoImplicit false

namespace TaskQueue.DateText

open Json (Digits)

/-! ## Parts -/

/-- So many digits, and at least one, that write the number. -/
structure Numeral (width n : Nat) (ds : List Char) : Prop where
  digits : Digits ds
  length : ds.length = width
  ne_nil : ds ≠ []
  value : Nat.ofDigitChars 10 ds 0 = n

/-- White space, as much as there is. -/
def Blanks (cs : List Char) : Prop := ∀ c ∈ cs, Text.isBlank c = true

/-- White space, and then a number of one or two digits. -/
inductive Column (width n : Nat) : List Char → Prop
  | mk {blanks ds : List Char} : Blanks blanks → Numeral width n ds → width ≤ 2 →
      Column width n (blanks ++ ds)

/-- White space, and then a year: up to four digits, or a sign and any number of them. -/
inductive YearColumn : Int → List Char → Prop
  | short {width n : Nat} {blanks ds : List Char} : Blanks blanks → Numeral width n ds →
      width ≤ 4 → YearColumn n (blanks ++ ds)
  | plus {width n : Nat} {blanks ds : List Char} : Blanks blanks → Numeral width n ds →
      YearColumn n (blanks ++ '+' :: ds)
  | minus {width n : Nat} {blanks ds : List Char} : Blanks blanks → Numeral width n ds →
      YearColumn (-n) (blanks ++ '-' :: ds)

/-- Nothing, or a point and the places after it. -/
inductive Fraction : List Char → Prop
  | whole : Fraction []
  | places {width n : Nat} {ds : List Char} : Numeral width n ds → Fraction ('.' :: ds)

/-- The letter of UTC, or a sign with hours and minutes. The sign may also be a proper minus. -/
inductive Offset : List Char → Prop
  | utc {c : Char} : c ∈ ['Z', 'z'] → Offset [c]
  | shift {sign : Char} {hours minutes : List Char} {h m : Nat} :
      sign ∈ ['+', '-', Char.ofNat 0x2212] → Numeral 2 h hours → Numeral 2 m minutes →
      h < 24 → m < 60 → Offset (sign :: (hours ++ ':' :: minutes))

/-- The numbers are those of a time of day. Second 60 is a leap second. -/
structure TimeOfDay (hour minute second : Nat) : Prop where
  hour : hour < 24
  minute : minute < 60
  second : second ≤ 60

/-! ## Forms -/

/-- A date and a time of day with an offset, each number as wide as its column. -/
inductive Timestamp : List Char → Prop
  | mk {y m d h i s : Nat} {year month day hour minute second fraction shift : List Char}
      {between : Char} :
      Numeral 4 y year → Numeral 2 m month → Numeral 2 d day → Date.OnCalendar ⟨y, m, d⟩ →
      between ∈ ['T', 't', ' '] →
      Numeral 2 h hour → Numeral 2 i minute → Numeral 2 s second → TimeOfDay h i s →
      Fraction fraction → Offset shift →
      Timestamp (year ++ '-' :: (month ++ '-' :: (day ++ between :: (hour ++ ':' ::
        (minute ++ ':' :: (second ++ (fraction ++ shift)))))))

/-- A date whose day has so many digits. White space may stand in front of each number. -/
inductive LooseDate (width : Nat) : Date → List Char → Prop
  | mk {y : Int} {v m d : Nat} {year month day : List Char} :
      YearColumn y year → Column v m month → Column width d day →
      LooseDate width ⟨y, m, d⟩ (year ++ '-' :: (month ++ '-' :: day))

/-- A time of day. White space may stand in front of each number. -/
inductive LooseTime : List Char → Prop
  | mk {u v w h i s : Nat} {hour minute second fraction : List Char} :
      Column u h hour → Column v i minute → Column w s second → TimeOfDay h i s →
      Fraction fraction → LooseTime (hour ++ ':' :: (minute ++ ':' :: (second ++ fraction)))

/-- The text names a date that exists, in one of four forms. Nothing has to stand between a date and
the time of day after it, if the day has two digits. -/
inductive NamesDate : List Char → Prop
  | timestamp {cs : List Char} : Timestamp cs → NamesDate cs
  | letter {width : Nat} {d : Date} {date time : List Char} :
      LooseDate width d date → d.OnCalendar → LooseTime time → NamesDate (date ++ 'T' :: time)
  | spaced {width : Nat} {d : Date} {date gap time : List Char} :
      LooseDate width d date → d.OnCalendar → Blanks gap → (gap = [] → width = 2) →
      LooseTime time → NamesDate (date ++ (gap ++ time))
  | alone {width : Nat} {d : Date} {date : List Char} :
      LooseDate width d date → d.OnCalendar → NamesDate date

/-! ## Digits and white space -/

/-- A number does not go on here. -/
def Stops (rest : List Char) : Prop := ∀ c ∈ rest.head?, isDigit c = false

/-- At the end there is no further digit. -/
theorem stops_nil : Stops [] := by simp [Stops]

/-- Before a character that is no digit there is none either. -/
theorem stops_cons {c : Char} (hc : isDigit c = false) (rest : List Char) : Stops (c :: rest) := by
  intro d hd
  cases hd
  exact hc

/-- What is taken are digits, and no more of them could have been. -/
theorem takeDigits_iff {most : Nat} {cs ds rest : List Char} :
    takeDigits most cs = (ds, rest) ↔
      Digits ds ∧ ds.length ≤ most ∧ (ds.length = most ∨ Stops rest) ∧ cs = ds ++ rest := by
  constructor
  · intro h
    -- The reader counts down how many digits it may still take.
    induction most generalizing cs ds with
    | zero =>
      cases h
      exact ⟨List.forall_mem_nil _, Nat.le_refl 0, .inl rfl, rfl⟩
    | succ most ih =>
      cases cs with
      | nil =>
        cases h
        exact ⟨List.forall_mem_nil _, Nat.zero_le _, .inr stops_nil, rfl⟩
      | cons c cs =>
        rw [takeDigits] at h
        by_cases hc : isDigit c = true
        · rw [if_pos hc] at h
          have hrest : (takeDigits most cs).2 = rest := congrArg Prod.snd h
          obtain ⟨hds, hmost, hstop, htail⟩ := ih (Prod.ext rfl hrest)
          obtain rfl : c :: (takeDigits most cs).1 = ds := congrArg Prod.fst h
          refine ⟨List.forall_mem_cons.2 ⟨hc, hds⟩, Nat.succ_le_succ hmost, ?_, ?_⟩
          · exact hstop.imp_left (congrArg (· + 1))
          · exact congrArg (c :: ·) htail
        · rw [if_neg hc] at h
          cases h
          refine ⟨List.forall_mem_nil _, Nat.zero_le _, .inr fun d hd => ?_, rfl⟩
          cases hd
          simpa using hc
  · rintro ⟨hds, hmost, hstop, rfl⟩
    exact takeDigits_append hds hmost hstop

/-- The digits in front are those up to the first character that is none. -/
theorem spanDigits_iff {cs ds rest : List Char} :
    spanDigits cs = (ds, rest) ↔ Digits ds ∧ Stops rest ∧ cs = ds ++ rest := by
  rw [spanDigits, takeDigits_iff]
  constructor
  · rintro ⟨hds, -, hstop, rfl⟩
    refine ⟨hds, hstop.elim (fun hall => ?_) id, rfl⟩
    obtain rfl : rest = [] := by simpa using hall
    exact stops_nil
  · rintro ⟨hds, hstop, rfl⟩
    exact ⟨hds, by simp, .inr hstop, rfl⟩

/-- White space does not matter if white space is dropped. -/
theorem Blanks.dropWhile {blanks : List Char} (h : Blanks blanks) (cs : List Char) :
    (blanks ++ cs).dropWhile Text.isBlank = cs.dropWhile Text.isBlank :=
  List.dropWhile_append_of_pos h

/-- What is dropped is white space. -/
theorem exists_blanks (cs : List Char) :
    ∃ blanks, Blanks blanks ∧ cs = blanks ++ cs.dropWhile Text.isBlank :=
  ⟨cs.takeWhile Text.isBlank, List.all_eq_true.1 List.all_takeWhile,
    List.takeWhile_append_dropWhile.symm⟩

/-! ## What the readers take -/

/-- A literal is read off if it stands in front. -/
theorem literal_iff {c : Char} {cs rest : List Char} {u : Unit} :
    literal c cs = some (u, rest) ↔ cs = c :: rest := by
  cases cs with
  | nil => simp [literal]
  | cons d ds => simp [literal]

/-- A literal that stands in front is read off. -/
theorem literal_cons (c : Char) (rest : List Char) : literal c (c :: rest) = some ((), rest) :=
  literal_iff.2 rfl

/-- One of several literals is read off if one of them stands in front. -/
theorem oneOf_iff {choices cs rest : List Char} {u : Unit} :
    oneOf choices cs = some (u, rest) ↔ ∃ c ∈ choices, cs = c :: rest := by
  cases cs with
  | nil => simp [oneOf]
  | cons d ds => simp [oneOf]

/-- Any of them is read off if it stands in front. -/
theorem oneOf_cons {choices : List Char} {c : Char} (hc : c ∈ choices) (rest : List Char) :
    oneOf choices (c :: rest) = some ((), rest) :=
  oneOf_iff.2 ⟨c, hc, rfl⟩

/-- Digits write their number. -/
theorem numeral_of_digits {ds : List Char} (hds : Digits ds) (hne : ds ≠ []) :
    Numeral ds.length (number ds) ds :=
  ⟨hds, rfl, hne, (number_eq ds).symm⟩

/-- A numeral is read as the number that it denotes. -/
theorem Numeral.number {width n : Nat} {ds : List Char} (h : Numeral width n ds) :
    DateText.number ds = n :=
  (number_eq ds).trans h.value

/-- A number of fixed width is read off exactly if a numeral of that width stands in front. -/
theorem exactly_iff {width n : Nat} (hwidth : 0 < width) {cs rest : List Char} :
    exactly width cs = some (n, rest) ↔ ∃ ds, Numeral width n ds ∧ cs = ds ++ rest := by
  constructor
  · intro h
    obtain ⟨ds, tail, htake⟩ : ∃ ds tail, takeDigits width cs = (ds, tail) := ⟨_, _, rfl⟩
    obtain ⟨hds, -, -, rfl⟩ := takeDigits_iff.1 htake
    simp only [exactly, htake, Option.ite_none_right_eq_some, Option.some.injEq,
      Prod.mk.injEq] at h
    obtain ⟨hlen, hvalue, rfl⟩ := h
    have hne : ds ≠ [] := List.ne_nil_of_length_pos (hlen ▸ hwidth)
    exact ⟨ds, ⟨hds, hlen, hne, number_eq ds ▸ hvalue⟩, rfl⟩
  · rintro ⟨ds, h, rfl⟩
    rw [exactly, takeDigits_append h.digits h.length.le (.inl h.length)]
    simp [h.length, h.number]

/-- A step that reads a number, if those after it succeed. -/
theorem numeral_of_bind {β : Type} {width : Nat} (hwidth : 0 < width) {cs : List Char}
    {next : Nat × List Char → Option β} {b : β} (h : (exactly width cs >>= next) = some b) :
    ∃ n ds rest, Numeral width n ds ∧ cs = ds ++ rest ∧ next (n, rest) = some b := by
  obtain ⟨⟨n, rest⟩, hread, hnext⟩ := Option.bind_eq_some_iff.1 h
  obtain ⟨ds, hds, hcs⟩ := (exactly_iff hwidth).1 hread
  exact ⟨n, ds, rest, hds, hcs, hnext⟩

/-- A step that reads a character, if those after it succeed. -/
theorem literal_of_bind {β : Type} {c : Char} {cs : List Char}
    {next : Unit × List Char → Option β} {b : β} (h : (literal c cs >>= next) = some b) :
    ∃ rest, cs = c :: rest ∧ next ((), rest) = some b := by
  obtain ⟨⟨_, rest⟩, hread, hnext⟩ := Option.bind_eq_some_iff.1 h
  exact ⟨rest, literal_iff.1 hread, hnext⟩

/-- A number of at most two digits is read off as a column, and one digit only if no second follows.
-/
theorem upTo_iff {n : Nat} {cs rest : List Char} :
    upTo 2 cs = some (n, rest) ↔
      ∃ width part, Column width n part ∧ (width = 2 ∨ Stops rest) ∧ cs = part ++ rest := by
  constructor
  · intro h
    obtain ⟨blanks, hblanks, hcs⟩ := exists_blanks cs
    obtain ⟨ds, tail, htake⟩ :
      ∃ ds tail, takeDigits 2 (cs.dropWhile Text.isBlank) = (ds, tail) := ⟨_, _, rfl⟩
    obtain ⟨hds, hmost, hstop, hdrop⟩ := takeDigits_iff.1 htake
    simp only [upTo, htake, Option.ite_none_left_eq_some, Option.some.injEq,
      Prod.mk.injEq, List.isEmpty_iff] at h
    -- At least one digit was taken, and if there was just one, then no second followed.
    obtain ⟨hne, hvalue, rfl⟩ := h
    subst hvalue
    refine ⟨_, _, .mk hblanks (numeral_of_digits hds hne) hmost, hstop, ?_⟩
    rw [hcs, hdrop, List.append_assoc]
  · rintro ⟨width, _, ⟨hblanks, h, hmost⟩, hstop, rfl⟩
    have htake := takeDigits_append h.digits (h.length.le.trans hmost)
      (hstop.imp_left h.length.trans)
    rw [upTo, List.append_assoc, hblanks.dropWhile, dropWhile_digits h.digits h.ne_nil, htake]
    simp [h.ne_nil, h.number]

/-- A fraction that was read off is one. -/
theorem fraction_sound {cs rest : List Char} {u : Unit} (h : fraction cs = some (u, rest)) :
    ∃ part, Fraction part ∧ cs = part ++ rest := by
  unfold fraction at h
  split at h
  · rename_i tail
    obtain ⟨ds, tail', hspan⟩ : ∃ ds tail', spanDigits tail = (ds, tail') := ⟨_, _, rfl⟩
    obtain ⟨hds, -, rfl⟩ := spanDigits_iff.1 hspan
    rw [hspan] at h
    -- A point without digits behind it is refused; without a point there is no fraction.
    cases ds with
    | nil => cases h
    | cons d ds =>
      cases h
      exact ⟨_, .places (numeral_of_digits hds (List.cons_ne_nil d ds)), rfl⟩
  · cases h
    exact ⟨[], .whole, rfl⟩

/-- A fraction is taken if what follows does not go on with it. -/
theorem Fraction.read {part rest : List Char} (h : Fraction part) (hstop : Stops rest)
    (hpoint : rest.head? ≠ some '.') : fraction (part ++ rest) = some ((), rest) := by
  cases h with
  | whole =>
    rw [List.nil_append]
    unfold fraction
    split
    · exact absurd rfl hpoint
    · rfl
  | @places _ _ ds h =>
    obtain ⟨d, ds', hcons⟩ := List.exists_cons_of_ne_nil h.ne_nil
    rw [List.cons_append, fraction, spanDigits_append h.digits hstop, hcons]

/-- An offset is read off exactly if one stands in front. -/
theorem offset_iff {cs rest : List Char} {u : Unit} :
    offset cs = some (u, rest) ↔ ∃ part, Offset part ∧ cs = part ++ rest := by
  have two : 0 < 2 := by decide
  constructor
  · intro h
    cases cs with
    | nil => cases h
    | cons c cs =>
      rw [offset] at h
      -- A letter for universal time, or a sign with hours and minutes behind it.
      split at h
      · rename_i hutc
        cases h
        exact ⟨[c], .utc (by simpa using hutc), rfl⟩
      split at h
      · rename_i hsign
        obtain ⟨_, hours, _, hhours, _, h⟩ := numeral_of_bind two h
        obtain ⟨_, _, h⟩ := literal_of_bind h
        obtain ⟨_, minutes, _, hminutes, _, h⟩ := numeral_of_bind two h
        obtain ⟨⟨hh, hm⟩, hrest⟩ := Option.ite_none_right_eq_some.1 h
        cases hrest
        subst_vars
        exact ⟨_, .shift (by simpa using hsign) hhours hminutes hh hm, by simp⟩
      · cases h
  · rintro ⟨_, hutc | @⟨sign, _, _, _, _, hsign, hhours, hminutes, hh, hm⟩, rfl⟩
    · have hletter := hutc
      simp only [List.mem_cons, List.not_mem_nil, or_false] at hletter
      rw [List.cons_append, offset, if_pos hletter]
      rfl
    · have hletter : ¬(sign = 'Z' ∨ sign = 'z') := by
        rintro (rfl | rfl) <;> revert hsign <;> decide
      simp only [List.mem_cons, List.not_mem_nil, or_false] at hsign
      rw [List.cons_append, offset, if_neg hletter, if_pos hsign, List.append_assoc,
        List.cons_append]
      refine bind_of_read ((exactly_iff two).2 ⟨_, hhours, rfl⟩) ?_
      refine bind_of_read (literal_cons _ _) ?_
      refine bind_of_read ((exactly_iff two).2 ⟨_, hminutes, rfl⟩) ?_
      exact if_pos ⟨hh, hm⟩

/-- An offset starts with a letter or a sign. -/
theorem Offset.stops {part : List Char} (h : Offset part) :
    Stops part ∧ part.head? ≠ some '.' := by
  cases h with
  | @utc c hc =>
    have hfirst : isDigit c = false ∧ c ≠ '.' := by
      simp only [List.mem_cons, List.not_mem_nil, or_false] at hc
      rcases hc with rfl | rfl <;> decide
    exact ⟨stops_cons hfirst.1 _, by simpa using hfirst.2⟩
  | @shift sign _ _ _ _ hsign _ _ _ _ =>
    have hfirst : isDigit sign = false ∧ sign ≠ '.' := by
      simp only [List.mem_cons, List.not_mem_nil, or_false] at hsign
      rcases hsign with rfl | rfl | rfl <;> decide
    exact ⟨stops_cons hfirst.1 _, by simpa using hfirst.2⟩

/-- A year after its sign. -/
def signedYear (sign : Int) : Reader Int := fun cs =>
  match spanDigits cs with
  | ([], _) => none
  | (ds, rest) => some (sign * number ds, rest)

/-- A year without a sign. -/
def shortYear : Reader Int := fun cs =>
  match takeDigits 4 cs with
  | ([], _) => none
  | (ds, rest) => some ((number ds : Int), rest)

/-- The year is read by its sign, after any blanks. -/
theorem year_eq (cs : List Char) :
    year cs =
      match cs.dropWhile Text.isBlank with
      | '+' :: rest => signedYear 1 rest
      | '-' :: rest => signedYear (-1) rest
      | cs => shortYear cs := rfl

/-- A year with a sign takes all the digits up to the dash. -/
theorem signedYear_iff {sign y : Int} {cs rest : List Char} :
    signedYear sign cs = some (y, '-' :: rest) ↔
      ∃ width n ds, Numeral width n ds ∧ y = sign * n ∧ cs = ds ++ '-' :: rest := by
  constructor
  · intro h
    obtain ⟨ds, tail, hspan⟩ : ∃ ds tail, spanDigits cs = (ds, tail) := ⟨_, _, rfl⟩
    obtain ⟨hds, -, rfl⟩ := spanDigits_iff.1 hspan
    rw [signedYear, hspan] at h
    -- The dash that follows ends the digits, so the year is all of them.
    cases ds with
    | nil => cases h
    | cons d ds =>
      cases h
      exact ⟨_, _, _, numeral_of_digits hds (List.cons_ne_nil d ds), rfl, rfl⟩
  · rintro ⟨_, n, ds, h, rfl, rfl⟩
    obtain ⟨d, ds', hcons⟩ := List.exists_cons_of_ne_nil h.ne_nil
    have hnumber := h.number
    rw [signedYear, spanDigits_append h.digits (stops_cons (by decide) rest)]
    rw [hcons] at hnumber ⊢
    simp only [hnumber]

/-- A year without a sign takes four digits at most up to the dash. -/
theorem shortYear_iff {y : Int} {cs rest : List Char} :
    shortYear cs = some (y, '-' :: rest) ↔
      ∃ width n ds, Numeral width n ds ∧ width ≤ 4 ∧ y = n ∧ cs = ds ++ '-' :: rest := by
  constructor
  · intro h
    obtain ⟨ds, tail, htake⟩ : ∃ ds tail, takeDigits 4 cs = (ds, tail) := ⟨_, _, rfl⟩
    obtain ⟨hds, hmost, -, rfl⟩ := takeDigits_iff.1 htake
    rw [shortYear, htake] at h
    -- Four digits are taken at most, and the dash that follows shows that there were no more.
    cases ds with
    | nil => cases h
    | cons d ds =>
      cases h
      exact ⟨_, _, _, numeral_of_digits hds (List.cons_ne_nil d ds), hmost, rfl, rfl⟩
  · rintro ⟨_, n, ds, h, hmost, rfl, rfl⟩
    obtain ⟨d, ds', hcons⟩ := List.exists_cons_of_ne_nil h.ne_nil
    have hnumber := h.number
    have hstop : Stops ('-' :: rest) := stops_cons (by decide) rest
    rw [shortYear, takeDigits_append h.digits (h.length.le.trans hmost) (.inr hstop)]
    rw [hcons] at hnumber ⊢
    simp only [hnumber]

/-- The year is read off exactly if a year column stands before the dash. -/
theorem year_iff {y : Int} {cs rest : List Char} :
    year cs = some (y, '-' :: rest) ↔ ∃ part, YearColumn y part ∧ cs = part ++ '-' :: rest := by
  constructor
  · intro h
    obtain ⟨blanks, hblanks, hcs⟩ := exists_blanks cs
    rw [year_eq] at h
    split at h
    · rename_i tail hdrop
      obtain ⟨_, n, ds, hds, rfl, rfl⟩ := signedYear_iff.1 h
      rw [hdrop] at hcs
      refine ⟨blanks ++ '+' :: ds, ?_, by simp [hcs]⟩
      rw [Int.one_mul]
      exact .plus hblanks hds
    · rename_i tail hdrop
      obtain ⟨_, n, ds, hds, rfl, rfl⟩ := signedYear_iff.1 h
      rw [hdrop] at hcs
      refine ⟨blanks ++ '-' :: ds, ?_, by simp [hcs]⟩
      rw [Int.neg_one_mul]
      exact .minus hblanks hds
    · -- There is no sign, so that four digits were taken at most.
      obtain ⟨_, n, ds, hds, hmost, rfl, hdrop⟩ := shortYear_iff.1 h
      rw [hdrop] at hcs
      exact ⟨blanks ++ ds, .short hblanks hds hmost, by simp [hcs]⟩
  · have hplus : Text.isBlank '+' = false := by decide
    have hminus : Text.isBlank '-' = false := by decide
    rintro ⟨_, hyear, rfl⟩
    rw [year_eq]
    cases hyear with
    | plus hblanks hds =>
      rw [List.append_assoc, hblanks.dropWhile, List.cons_append,
        List.dropWhile_cons_of_neg (by simp [hplus])]
      exact signedYear_iff.2 ⟨_, _, _, hds, (Int.one_mul _).symm, rfl⟩
    | minus hblanks hds =>
      rw [List.append_assoc, hblanks.dropWhile, List.cons_append,
        List.dropWhile_cons_of_neg (by simp [hminus])]
      exact signedYear_iff.2 ⟨_, _, _, hds, (Int.neg_one_mul _).symm, rfl⟩
    | @short _ _ _ ds hblanks hds hmost =>
      rw [List.append_assoc, hblanks.dropWhile, dropWhile_digits hds.digits hds.ne_nil]
      have hread : shortYear (ds ++ '-' :: rest) = some (_, '-' :: rest) :=
        shortYear_iff.2 ⟨_, _, ds, hds, hmost, rfl, rfl⟩
      -- The first digit is no sign.
      obtain ⟨d, ds', rfl⟩ := List.exists_cons_of_ne_nil hds.ne_nil
      obtain ⟨hp, hm⟩ := ne_sign_of_isDigit (hds.digits d List.mem_cons_self)
      split
      · rename_i heq
        exact absurd (List.cons.inj heq).1 hp
      · rename_i heq
        exact absurd (List.cons.inj heq).1 hm
      · exact hread

/-- A date is read off exactly if a loose date stands in front. -/
theorem date_iff {d : Date} {cs rest : List Char} :
    date cs = some (d, rest) ↔
      ∃ width part, LooseDate width d part ∧ (width = 2 ∨ Stops rest) ∧ cs = part ++ rest := by
  constructor
  · intro h
    simp only [date, Option.bind_eq_bind, Option.bind_eq_some_iff, Prod.exists, literal_iff,
      upTo_iff, Option.some.injEq, Prod.mk.injEq] at h
    obtain ⟨y, _, hyear, _, _, rfl, m, _, ⟨v, month, hmonth, -, rfl⟩, _, _, rfl, d, _,
      ⟨w, day, hday, hstop, rfl⟩, rfl, rfl⟩ := h
    -- Year and month end at their dashes. Only the day may be cut off after two digits.
    obtain ⟨year, hcolumn, rfl⟩ := year_iff.1 hyear
    exact ⟨w, _, .mk hcolumn hmonth hday, hstop, by simp⟩
  · rintro ⟨width, _, ⟨hyear, hmonth, hday⟩, hstop, rfl⟩
    simp only [List.append_assoc, List.cons_append]
    refine bind_of_read (year_iff.2 ⟨_, hyear, rfl⟩) (bind_of_read (literal_cons _ _) ?_)
    refine bind_of_read (upTo_iff.2 ⟨_, _, hmonth, .inr (stops_cons (by decide) _), rfl⟩) ?_
    refine bind_of_read (literal_cons _ _) ?_
    exact bind_of_read (upTo_iff.2 ⟨_, _, hday, hstop, rfl⟩) rfl

/-- The parts of a time are accepted exactly if they are a time of day. -/
theorem isTime_iff {hour minute second : Nat} :
    isTime hour minute second = true ↔ TimeOfDay hour minute second := by
  simp only [isTime, Bool.and_eq_true, decide_eq_true_eq]
  constructor
  · rintro ⟨⟨hhour, hminute⟩, hsecond⟩
    exact ⟨hhour, hminute, hsecond⟩
  · rintro ⟨hhour, hminute, hsecond⟩
    exact ⟨⟨hhour, hminute⟩, hsecond⟩

/-- A fraction starts with a point. -/
theorem Fraction.stops {part : List Char} (h : Fraction part) : Stops part := by
  cases h with
  | whole => exact stops_nil
  | places _ => exact stops_cons (by decide) _

/-- A time is read to its end exactly if it is a loose time. -/
theorem time_iff {cs : List Char} : time cs = some ((), []) ↔ LooseTime cs := by
  constructor
  · intro h
    simp only [time, Option.bind_eq_bind, Option.bind_eq_some_iff, Prod.exists, literal_iff,
      upTo_iff, Option.ite_none_right_eq_some, isTime_iff] at h
    obtain ⟨h, _, ⟨u, hour, hhour, -, rfl⟩, _, _, rfl, i, _, ⟨v, minute, hminute, -, rfl⟩, _, _,
      rfl, s, _, ⟨w, second, hsecond, -, rfl⟩, _, _, hfraction, htime, hend⟩ := h
    -- Only the fraction is left open by the parts before it, and the text ends there.
    obtain ⟨fraction, hpart, rfl⟩ := fraction_sound hfraction
    cases hend
    rw [List.append_nil]
    exact .mk hhour hminute hsecond htime hpart
  · rintro ⟨hhour, hminute, hsecond, htime, hfraction⟩
    refine bind_of_read (upTo_iff.2 ⟨_, _, hhour, .inr (stops_cons (by decide) _), rfl⟩) ?_
    refine bind_of_read (literal_cons _ _) ?_
    refine bind_of_read (upTo_iff.2 ⟨_, _, hminute, .inr (stops_cons (by decide) _), rfl⟩) ?_
    refine bind_of_read (literal_cons _ _) ?_
    refine bind_of_read (upTo_iff.2 ⟨_, _, hsecond, .inr hfraction.stops, rfl⟩) ?_
    have hread : fraction _ = some ((), []) := hfraction.read stops_nil (by simp)
    rw [List.append_nil] at hread
    exact bind_of_read hread (if_pos (isTime_iff.2 htime))

/-! ## Valid texts -/

/-- A text is taken for a timestamp exactly if it has the form of one. -/
theorem isTimestamp_iff {cs : List Char} : isTimestamp cs = true ↔ Timestamp cs := by
  have two : 0 < 2 := by decide
  have four : 0 < 4 := by decide
  have hread : isTimestamp cs = true ↔ timestamp? cs = some () := by
    rw [isTimestamp, Option.isSome_iff_exists]
    constructor
    · rintro ⟨_, h⟩
      exact h
    · intro h
      exact ⟨(), h⟩
  rw [hread]
  constructor
  · intro h
    -- What is left after each column is put together at the end.
    obtain ⟨y, year, _, hyear, _, h⟩ := numeral_of_bind four h
    obtain ⟨_, _, h⟩ := literal_of_bind h
    obtain ⟨m, month, _, hmonth, _, h⟩ := numeral_of_bind two h
    obtain ⟨_, _, h⟩ := literal_of_bind h
    obtain ⟨d, day, _, hday, _, h⟩ := numeral_of_bind two h
    obtain ⟨⟨_, _⟩, hone, h⟩ := Option.bind_eq_some_iff.1 h
    obtain ⟨between, hbetween, _⟩ := oneOf_iff.1 hone
    obtain ⟨hh, hour, _, hhour, _, h⟩ := numeral_of_bind two h
    obtain ⟨_, _, h⟩ := literal_of_bind h
    obtain ⟨i, minute, _, hminute, _, h⟩ := numeral_of_bind two h
    obtain ⟨_, _, h⟩ := literal_of_bind h
    obtain ⟨s, second, _, hsecond, _, h⟩ := numeral_of_bind two h
    obtain ⟨⟨_, _⟩, hplaces, h⟩ := Option.bind_eq_some_iff.1 h
    obtain ⟨fraction, hfraction, _⟩ := fraction_sound hplaces
    obtain ⟨⟨_, _⟩, hsign, h⟩ := Option.bind_eq_some_iff.1 h
    obtain ⟨shift, hshift, _⟩ := offset_iff.1 hsign
    obtain ⟨⟨hrest, hexists, htime⟩, -⟩ := Option.ite_none_right_eq_some.1 h
    have hend := List.isEmpty_iff.1 hrest
    subst_vars
    rw [List.append_nil]
    exact .mk hyear hmonth hday ((Date.exists?_iff _).1 hexists) hbetween hhour hminute hsecond
      (isTime_iff.1 htime) hfraction hshift
  · rintro ⟨hyear, hmonth, hday, hdate, hbetween, hhour, hminute, hsecond, htime, hfraction, hshift⟩
    refine bind_of_read ((exactly_iff four).2 ⟨_, hyear, rfl⟩) (bind_of_read (literal_cons _ _) ?_)
    refine bind_of_read ((exactly_iff two).2 ⟨_, hmonth, rfl⟩) (bind_of_read (literal_cons _ _) ?_)
    refine bind_of_read ((exactly_iff two).2 ⟨_, hday, rfl⟩) ?_
    refine bind_of_read (oneOf_cons hbetween _) ?_
    refine bind_of_read ((exactly_iff two).2 ⟨_, hhour, rfl⟩) (bind_of_read (literal_cons _ _) ?_)
    refine bind_of_read ((exactly_iff two).2 ⟨_, hminute, rfl⟩) (bind_of_read (literal_cons _ _) ?_)
    refine bind_of_read ((exactly_iff two).2 ⟨_, hsecond, rfl⟩) ?_
    obtain ⟨hstop, hpoint⟩ := hshift.stops
    have hoffset : offset _ = some ((), []) := offset_iff.2 ⟨_, hshift, (List.append_nil _).symm⟩
    refine bind_of_read (hfraction.read hstop hpoint) (bind_of_read hoffset ?_)
    exact if_pos ⟨rfl, (Date.exists?_iff _).2 hdate, isTime_iff.2 htime⟩

/-- A time of day that is read with white space in front can do without. -/
theorem time_dropWhile (cs : List Char) : time (cs.dropWhile Text.isBlank) = time cs := by
  simp [time, upTo, List.dropWhile_idempotent]

/-- Without the white space in front, a time of day starts with a digit. -/
theorem LooseTime.split {cs : List Char} (h : LooseTime cs) :
    ∃ gap time, Blanks gap ∧ LooseTime time ∧ ¬ Stops time ∧ cs = gap ++ time := by
  obtain ⟨⟨hblanks, hour, hwidth⟩, hminute, hsecond, htime, hfraction⟩ := h
  have hcolumn := Column.mk (List.forall_mem_nil _) hour hwidth
  refine ⟨_, _, hblanks, .mk hcolumn hminute hsecond htime hfraction, ?_, List.append_assoc _ _ _⟩
  obtain ⟨d, ds, rfl⟩ := List.exists_cons_of_ne_nil hour.ne_nil
  intro hstop
  have hdigit : isDigit d = true := hour.digits d List.mem_cons_self
  have hnone : isDigit d = false := hstop d rfl
  rw [hdigit] at hnone
  cases hnone

/-- A text is taken for a date and time exactly if a date of the calendar, the separator and a time
make it up. -/
theorem isDateTime_iff {between : Separator} {cs : List Char} :
    isDateTime between cs = true ↔
      ∃ width d day rest rest', LooseDate width d day ∧ (width = 2 ∨ Stops rest) ∧ d.OnCalendar ∧
        cs = day ++ rest ∧ between.read rest = some ((), rest') ∧ time rest' = some ((), []) := by
  simp only [isDateTime, Option.isSome_iff_exists, Option.bind_eq_bind, Option.bind_eq_some_iff,
    Prod.exists, date_iff, Option.ite_none_right_eq_some, List.isEmpty_iff, Date.exists?_iff]
  constructor
  · rintro ⟨_, d, rest, ⟨width, day, hday, hstop, rfl⟩, _, rest', hread, _, _, htime,
      ⟨rfl, hdate⟩, -⟩
    exact ⟨width, d, day, rest, rest', hday, hstop, hdate, rfl, hread, htime⟩
  · rintro ⟨width, d, day, rest, rest', hday, hstop, hdate, rfl, hread, htime⟩
    exact ⟨(), d, rest, ⟨width, day, hday, hstop, rfl⟩, (), rest', hread, (), [], htime,
      ⟨rfl, hdate⟩, trivial⟩

/-- A text is taken for a date exactly if it is a loose date of the calendar. -/
theorem isDate_iff {cs : List Char} :
    isDate cs = true ↔ ∃ width d, LooseDate width d cs ∧ d.OnCalendar := by
  -- A date has to reach to the end of the text.
  have hread {d : Date} : date cs = some (d, []) ↔ ∃ width, LooseDate width d cs := by
    rw [date_iff]
    constructor
    · rintro ⟨width, part, hpart, -, rfl⟩
      exact ⟨width, by simpa using hpart⟩
    · rintro ⟨width, h⟩
      exact ⟨width, cs, h, .inr stops_nil, (List.append_nil _).symm⟩
  unfold isDate
  split
  · rename_i d hdate
    rw [Date.exists?_iff]
    constructor
    · intro h
      obtain ⟨width, hloose⟩ := hread.1 hdate
      exact ⟨width, d, hloose, h⟩
    · rintro ⟨width, d', hloose, h⟩
      cases hdate.symm.trans (hread.2 ⟨width, hloose⟩)
      exact h
  · rename_i hnone
    constructor
    · intro h
      cases h
    · rintro ⟨width, d, hloose, -⟩
      exact absurd (hread.2 ⟨width, hloose⟩) (hnone d)

/-- White space is no part of a number. -/
theorem Blanks.stops {blanks : List Char} (h : Blanks blanks) (hne : blanks ≠ [])
    (rest : List Char) : Stops (blanks ++ rest) := by
  cases blanks with
  | nil => exact absurd rfl hne
  | cons b bs =>
    refine stops_cons ?_ _
    rw [← Bool.not_eq_true]
    intro hdigit
    have hblank := h b List.mem_cons_self
    rw [isBlank_of_isDigit hdigit] at hblank
    cases hblank

/-- The letter stands between date and time of day. -/
theorem isDateTime_letter {cs : List Char} :
    isDateTime .letter cs = true ↔
      ∃ width d date time, LooseDate width d date ∧ d.OnCalendar ∧ LooseTime time ∧
        cs = date ++ 'T' :: time := by
  simp only [isDateTime_iff, Separator.read, literal_iff, time_iff]
  constructor
  · rintro ⟨width, d, date, _, time, hloose, -, hdate, rfl, rfl, htime⟩
    exact ⟨width, d, date, time, hloose, hdate, htime, rfl⟩
  · rintro ⟨width, d, date, time, hloose, hdate, htime, rfl⟩
    have hstop : Stops ('T' :: time) := stops_cons (by decide) time
    exact ⟨width, d, date, _, time, hloose, .inr hstop, hdate, rfl, rfl, htime⟩

/-- White space stands between date and time of day, or a day of two digits comes before. -/
theorem isDateTime_blank {cs : List Char} :
    isDateTime .blank cs = true ↔
      ∃ width d date gap time, LooseDate width d date ∧ d.OnCalendar ∧ Blanks gap ∧
        (gap = [] → width = 2) ∧ LooseTime time ∧ cs = date ++ (gap ++ time) := by
  simp only [isDateTime_iff, Separator.read, Option.some.injEq, Prod.mk.injEq, true_and]
  constructor
  · rintro ⟨width, d, date, rest, _, hloose, hstop, hdate, rfl, rfl, htime⟩
    -- The hour would have been read with the same white space, which is the gap.
    rw [time_dropWhile, time_iff] at htime
    obtain ⟨gap, time, hgap, htime', hdigit, rfl⟩ := htime.split
    refine ⟨width, d, date, gap, time, hloose, hdate, hgap, fun hnil => ?_, htime', rfl⟩
    subst hnil
    exact hstop.resolve_right hdigit
  · rintro ⟨width, d, date, gap, time, hloose, hdate, hgap, hwidth, htime, rfl⟩
    have hstop : width = 2 ∨ Stops (gap ++ time) := by
      by_cases hnil : gap = []
      · exact .inl (hwidth hnil)
      · exact .inr (hgap.stops hnil time)
    refine ⟨width, d, date, _, _, hloose, hstop, hdate, rfl, rfl, ?_⟩
    rw [hgap.dropWhile, time_dropWhile, time_iff]
    exact htime

/-- The texts in one of the forms are those that name a date. -/
theorem namesDate_iff {cs : List Char} : (isTimestamp cs || isLocal cs) = true ↔ NamesDate cs := by
  simp only [isLocal, Bool.or_eq_true, isTimestamp_iff, isDateTime_letter, isDateTime_blank,
    isDate_iff]
  constructor
  · rintro (h | (⟨_, _, _, _, hdate, hexists, htime, rfl⟩ |
      ⟨_, _, _, _, _, hdate, hexists, hgap, hwidth, htime, rfl⟩) | ⟨_, _, hdate, hexists⟩)
    · exact .timestamp h
    · exact .letter hdate hexists htime
    · exact .spaced hdate hexists hgap hwidth htime
    · exact .alone hdate hexists
  · intro h
    cases h with
    | timestamp h => exact .inl h
    | letter hdate hexists htime =>
      exact .inr (.inl (.inl ⟨_, _, _, _, hdate, hexists, htime, rfl⟩))
    | spaced hdate hexists hgap hwidth htime =>
      exact .inr (.inl (.inr ⟨_, _, _, _, _, hdate, hexists, hgap, hwidth, htime, rfl⟩))
    | alone hdate hexists => exact .inr (.inr ⟨_, _, hdate, hexists⟩)

instance : DecidablePred NamesDate := fun _ => decidable_of_iff _ namesDate_iff

/-- The valid texts are those that name a date. -/
theorem isValid_iff {s : String} : isValid s = true ↔ NamesDate s.toList :=
  namesDate_iff

/-- With nothing between them, day and hour are told apart by the two digits of the day. There is no
31st of February, although a third of February at 12 is written in the same way. -/
example : NamesDate "2024-02-3 12:00:00".toList ∧ ¬NamesDate "2024-02-312:00:00".toList := by
  decide

end TaskQueue.DateText
