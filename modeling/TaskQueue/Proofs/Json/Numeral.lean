import Mathlib.Algebra.Group.Int.Defs
import TaskQueue.Json.Draft
import TaskQueue.Json.Printer

/-!
# `TaskQueue.Proofs.Json.Numeral`: how numbers are spelled

`Json.Spelling` is a number as it stands in a text: its sign, and the characters of its whole
part, its fraction and its exponent. `Spelling.Sound` says that these are digits, as many as
there must be, and that no zero stands before others. `Draft.scanNumber_spelling` reads a sound
spelling back; what follows it must not go on with the number, which is `Draft.Stops`.

Every number that is printed has a sound spelling: `intSpelling` for integers and
`floatSpelling` for binary64 numbers.
-/

set_option autoImplicit false

namespace TaskQueue

open Utf8 (Piece)

namespace Json

/-! ## Digits -/

/-- The value of a decimal digit. -/
def digitValue (c : Char) : Nat := c.toNat - 0x30

/-- All of the characters are decimal digits. -/
def Digits (cs : List Char) : Prop := ∀ c ∈ cs, c.isDigit = true

/-- Digits followed by digits are digits. -/
theorem Digits.append {xs ys : List Char} (hx : Digits xs) (hy : Digits ys) :
    Digits (xs ++ ys) := fun c hc => (List.mem_append.1 hc).elim (hx c) (hy c)

/-- A number is written in digits. -/
theorem digits_natChars (n : Nat) : Digits (natChars n) :=
  fun _ hc => Nat.isDigit_of_mem_toDigits (by decide) (by decide) hc

/-- Zeros are digits. -/
theorem digits_zeros (n : Nat) : Digits (List.replicate n '0') :=
  fun c hc => by rw [(List.mem_replicate.1 hc).2]; rfl

/-- A number is written in one digit at least. -/
theorem natChars_ne_nil (n : Nat) : natChars n ≠ [] := Nat.toDigits_ne_nil

/-- The first digit of a positive number is not zero. -/
theorem head_natChars {n : Nat} (hn : 0 < n) : (natChars n).head? ≠ some '0' := by
  unfold natChars
  -- The first digit is that of a tenth of the number, as long as there is one.
  induction n using Nat.strongRecOn with
  | _ n ih =>
    by_cases hlt : n < 10
    · rw [Nat.toDigits_of_lt_base hlt, List.head?_cons]
      intro h
      have hchar : n.digitChar = '0' := Option.some.inj h
      have hval := Nat.toNat_digitChar_sub_48_of_lt_ten hlt
      rw [hchar] at hval
      have hzero : '0'.toNat - 48 = 0 := rfl
      omega
    · rw [Nat.toDigits_of_base_le (by decide) (by omega), List.head?_append]
      obtain ⟨d, ds, hd⟩ := List.exists_cons_of_ne_nil (@Nat.toDigits_ne_nil (n / 10) 10)
      have hrest := ih (n / 10) (by omega) (by omega)
      rw [hd] at hrest ⊢
      exact hrest

/-- A digit has a value as a piece. -/
theorem digit?_of_isDigit {c : Char} (hc : c.isDigit = true) :
    Draft.digit? (.char c) = some (digitValue c) := by
  rw [Char.isDigit_iff_toNat] at hc
  have hle : '0' ≤ c ∧ c ≤ '9' := by
    simp only [Char.le_def, UInt32.le_iff_toNat_le]
    exact hc
  simp only [Draft.digit?, hle, and_self, if_true, digitValue]

end Json

namespace Draft

open Json

/-- The digits at the front of a text are taken, and no more. -/
theorem takeDigits_append {cs : List Char} (hcs : Digits cs) {rest : List Piece}
    (hrest : ∀ p ∈ rest.head?, digit? p = none) :
    takeDigits (cs.map .char ++ rest) = (cs.map digitValue, rest) := by
  induction cs with
  | nil =>
    cases rest with
    | nil => rfl
    | cons p ps =>
      have hp : digit? p = none := hrest p rfl
      simp only [List.map_nil, List.nil_append, takeDigits, hp]
  | cons c cs ih =>
    have hc := digit?_of_isDigit (hcs c (by simp))
    have htail := ih fun d hd => hcs d (by simp [hd])
    simp only [List.map_cons, List.cons_append, takeDigits, hc, htail]

/-- The value of digits is that of their characters. -/
theorem natOfDigits_map (cs : List Char) :
    natOfDigits (cs.map digitValue) = Nat.ofDigitChars 10 cs 0 := by
  rw [Nat.ofDigitChars_eq_foldl, natOfDigits, List.foldl_map]
  congr 1
  funext n c
  rw [Nat.mul_comm, digitValue]
  rfl

/-- The digits of a number have its value. -/
theorem natOfDigits_natChars (n : Nat) : natOfDigits ((natChars n).map digitValue) = n := by
  rw [natOfDigits_map, natChars, Nat.ofDigitChars_ten_toDigits]

end Draft

namespace Json

/-! ## Spellings -/

/-- A number as it is spelled. -/
structure Spelling where
  negative : Bool
  whole : List Char
  fraction : Option (List Char)
  exponent : Option (Bool × List Char)

namespace Spelling

/-- The characters of a fraction. -/
def fractionChars : Option (List Char) → List Char
  | none => []
  | some f => '.' :: f

/-- The characters of an exponent, whose sign is always written. -/
def exponentChars : Option (Bool × List Char) → List Char
  | none => []
  | some (negative, ds) => 'e' :: (if negative then '-' else '+') :: ds

/-- The characters after the sign. -/
def body (s : Spelling) : List Char :=
  s.whole ++ (fractionChars s.fraction ++ exponentChars s.exponent)

/-- The characters of the number. -/
def chars (s : Spelling) : List Char := if s.negative then '-' :: s.body else s.body

/-- The numeral that is spelled. -/
def numeral (s : Spelling) : Draft.Numeral where
  negative := s.negative
  whole := s.whole.map digitValue
  fraction := s.fraction.map (·.map digitValue)
  exponent := s.exponent.map fun x => (x.1, x.2.map digitValue)

/-- The parts of the number are digits, and there are some; a zero at the start stands alone. -/
structure Sound (s : Spelling) : Prop where
  whole : Digits s.whole
  nonempty : s.whole ≠ []
  zero : s.whole.head? = some '0' → s.whole = ['0']
  fraction : ∀ f ∈ s.fraction, Digits f ∧ f ≠ []
  exponent : ∀ x ∈ s.exponent, Digits x.2 ∧ x.2 ≠ []

/-- A digit without value is a zero. -/
theorem eq_zero_of_digitValue {c : Char} (hc : c.isDigit = true) (h : digitValue c = 0) :
    c = '0' := by
  rw [Char.isDigit_iff_toNat] at hc
  have hzero : '0'.toNat = 48 := rfl
  have hval : c.toNat = '0'.toNat := by
    rw [digitValue] at h
    omega
  rw [← Char.ofNat_toNat c, hval]
  rfl

/-- No zero stands before other digits. -/
theorem Sound.not_leading_zero {s : Spelling} (hs : s.Sound) {d : Nat} {ds : List Nat} :
    s.whole.map digitValue ≠ 0 :: d :: ds := by
  intro h
  cases hw : s.whole with
  | nil => rw [hw] at h; cases h
  | cons c cs =>
    rw [hw, List.map_cons] at h
    have hc : c = '0' := eq_zero_of_digitValue (hs.whole c (by simp [hw])) (List.cons.inj h).1
    -- A sound spelling with a zero in front has nothing else, so there is no second digit.
    have hall := hs.zero (by rw [hw, hc]; rfl)
    rw [hw] at hall
    have hrest := (List.cons.inj h).2
    rw [(List.cons.inj hall).2] at hrest
    cases hrest

end Spelling
end Json

namespace Draft

open Json

/-- The text does not go on with a number: it does not begin with a digit, a point, or a letter
that begins an exponent. -/
structure Stops (rest : List Piece) : Prop where
  digit : ∀ p ∈ rest.head?, digit? p = none
  point : rest.head? ≠ some (.char '.')
  small : rest.head? ≠ some (.char 'e')
  great : rest.head? ≠ some (.char 'E')

/-- No exponent is found where the number stops. -/
theorem scanExponent_stop {rest : List Piece} (h : Stops rest) :
    scanExponent rest = .ok (none, rest) := by
  cases rest with
  | nil => rfl
  | cons p ps =>
    cases p with
    | stray bs => rfl
    | char c =>
      have he : ¬ (c = 'e' ∨ c = 'E') := by
        rintro (rfl | rfl)
        · exact h.small rfl
        · exact h.great rfl
      simp only [scanExponent, he, if_false]

/-- An exponent is read back. -/
theorem scanExponent_chars {x : Option (Bool × List Char)}
    (hx : ∀ y ∈ x, Digits y.2 ∧ y.2 ≠ []) {rest : List Piece} (h : Stops rest) :
    scanExponent ((Spelling.exponentChars x).map .char ++ rest) =
      .ok (x.map fun y => (y.1, y.2.map digitValue), rest) := by
  cases x with
  | none => exact scanExponent_stop h
  | some y =>
    obtain ⟨negative, ds⟩ := y
    obtain ⟨hds, hne⟩ := hx _ rfl
    -- All digits are taken, since what follows begins with none.
    have htake := takeDigits_append hds h.digit
    obtain ⟨d, ds, rfl⟩ := List.exists_cons_of_ne_nil hne
    simp only [List.map_cons, List.cons_append] at htake
    cases negative <;>
      simp only [Spelling.exponentChars, if_true, if_false, List.map_cons, List.cons_append,
        scanExponent, true_or, htake, Option.map_some, Bool.false_eq_true]

/-- A fraction is read back. -/
theorem scanFraction_chars {f : Option (List Char)} (hf : ∀ ds ∈ f, Digits ds ∧ ds ≠ [])
    {rest : List Piece} (hdigit : ∀ p ∈ rest.head?, digit? p = none)
    (hpoint : rest.head? ≠ some (.char '.')) :
    scanFraction ((Spelling.fractionChars f).map .char ++ rest) =
      .ok (f.map (·.map digitValue), rest) := by
  cases f with
  | none =>
    cases rest with
    | nil => rfl
    | cons p ps =>
      cases p with
      | stray bs => rfl
      | char c =>
        -- There is no fraction, and what follows is no point, so the scanner stops at once.
        have hc : c ≠ '.' := fun h => hpoint (by rw [h]; rfl)
        simp only [Spelling.fractionChars, List.map_nil, List.nil_append, Option.map_none]
        unfold scanFraction
        split
        · rename_i heq
          cases heq
          exact absurd rfl hc
        · rfl
  | some ds =>
    obtain ⟨hds, hne⟩ := hf _ rfl
    -- The scanner takes all digits, since none follows them.
    have htake := takeDigits_append hds hdigit
    obtain ⟨d, ds, rfl⟩ := List.exists_cons_of_ne_nil hne
    simp only [List.map_cons, List.cons_append] at htake
    simp only [Spelling.fractionChars, List.map_cons, List.cons_append, scanFraction, htake,
      Option.map_some]

/-- What follows the whole part of a number is no digit, and no point unless there is a
fraction. -/
theorem head_exponentChars {x : Option (Bool × List Char)} {rest : List Piece} (h : Stops rest) :
    (∀ p ∈ ((Spelling.exponentChars x).map Piece.char ++ rest).head?, digit? p = none) ∧
      ((Spelling.exponentChars x).map Piece.char ++ rest).head? ≠ some (.char '.') := by
  cases x with
  | none => exact ⟨h.digit, h.point⟩
  | some y =>
    refine ⟨fun p hp => ?_, ?_⟩
    · cases hp
      rfl
    · intro hp
      cases hp

/-- A sound spelling is read back as its numeral, if the text stops there. -/
theorem scanNumber_spelling {s : Spelling} (hs : s.Sound) {rest : List Piece} (h : Stops rest) :
    scanNumber s.negative (s.body.map .char ++ rest) = .ok (s.numeral, rest) := by
  obtain ⟨hdigit, hpoint⟩ := head_exponentChars (x := s.exponent) h
  have hfraction := scanFraction_chars hs.fraction hdigit hpoint
  have hexponent := scanExponent_chars hs.exponent h
  -- The whole part ends where the fraction, the exponent or what is behind the number begins.
  -- None of these begins with a digit.
  have hwhole : takeDigits (s.whole.map .char ++ ((Spelling.fractionChars s.fraction).map .char ++
      ((Spelling.exponentChars s.exponent).map .char ++ rest))) = (s.whole.map digitValue,
        (Spelling.fractionChars s.fraction).map .char ++
          ((Spelling.exponentChars s.exponent).map .char ++ rest)) := by
    refine takeDigits_append hs.whole fun p hp => ?_
    cases hf : s.fraction with
    | none =>
      rw [hf] at hp
      exact hdigit p hp
    | some f =>
      rw [hf] at hp
      cases hp
      rfl
  have hbody : s.body.map Piece.char ++ rest = s.whole.map .char ++
      ((Spelling.fractionChars s.fraction).map .char ++
        ((Spelling.exponentChars s.exponent).map .char ++ rest)) := by
    simp only [Spelling.body, List.map_append, List.append_assoc]
  rw [hbody, scanNumber, hwhole]
  split
  · rename_i heq
    exact absurd (List.map_eq_nil_iff.1 (congrArg Prod.fst heq)) hs.nonempty
  · rename_i heq
    exact absurd (congrArg Prod.fst heq) hs.not_leading_zero
  · rename_i heq
    cases heq
    simp only [hfraction, hexponent, bind, Except.bind, Spelling.numeral]

end Draft

namespace Json

/-! ## Integers -/

/-- How an integer is spelled. -/
def intSpelling (n : Int) : Spelling := ⟨decide (n < 0), natChars n.natAbs, none, none⟩

/-- An integer is spelled as it is written. -/
theorem intSpelling_chars (n : Int) : (intSpelling n).chars = intChars n := by
  by_cases h : n < 0
  · simp [intSpelling, Spelling.chars, Spelling.body, Spelling.fractionChars,
      Spelling.exponentChars, intChars, h]
  · simp [intSpelling, Spelling.chars, Spelling.body, Spelling.fractionChars,
      Spelling.exponentChars, intChars, h]

/-- The digits of a natural number are a sound whole part. -/
theorem natChars_zero {n : Nat} (h : (natChars n).head? = some '0') : natChars n = ['0'] := by
  cases n with
  | zero => rfl
  | succ n => exact absurd h (head_natChars (Nat.succ_pos n))

/-- The spelling of an integer is one that the reader takes. -/
theorem intSpelling_sound (n : Int) : (intSpelling n).Sound where
  whole := digits_natChars _
  nonempty := natChars_ne_nil _
  zero := natChars_zero
  fraction := nofun
  exponent := nofun

/-- An integer of 64 bits, with or without a sign, is read back as itself. -/
theorem draft_intSpelling {n : Int} (hlow : -(2 ^ 63 : Int) ≤ n) (hhigh : n < 2 ^ 64) :
    (intSpelling n).numeral.draft = .int n := by
  have hnat : Draft.natOfDigits ((natChars n.natAbs).map digitValue) = n.natAbs :=
    Draft.natOfDigits_natChars _
  -- With a sign the numeral is taken up to 63 bits, without one up to 64.
  by_cases hneg : n < 0
  · have hrange : n.natAbs ≠ 0 ∧ n.natAbs ≤ Nat.pow 2 63 := by
      rw [Nat.pow_eq]
      omega
    have hback : -(n.natAbs : Int) = n := by omega
    simp only [intSpelling, Spelling.numeral, Option.map_none, Draft.Numeral.draft, hnat, hneg,
      decide_true, if_true, hrange, and_self, hback, ne_eq, not_false_eq_true]
  · have hrange : n.natAbs ≤ Draft.maxSignificand := by
      show n.natAbs ≤ 2 ^ 64 - 1
      omega
    have hback : (n.natAbs : Int) = n := by omega
    simp only [intSpelling, Spelling.numeral, Option.map_none, Draft.Numeral.draft, hnat, hneg,
      decide_false, Bool.false_eq_true, if_false, hrange, if_true, hback]

/-! ## Binary64 numbers -/

/-- How the digits `d` with the first at exponent `e` are spelled positionally. -/
def positionalSpelling (negative : Bool) (d : List Char) (e : Int) : Spelling :=
  if e < 0 then ⟨negative, ['0'], some (List.replicate (-e - 1).toNat '0' ++ d), none⟩
  else if d.length ≤ e.toNat + 1 then
    ⟨negative, d ++ List.replicate (e.toNat + 1 - d.length) '0', some ['0'], none⟩
  else ⟨negative, d.take (e.toNat + 1), some (d.drop (e.toNat + 1)), none⟩

/-- How the digits `d` with the first at exponent `e` are spelled with an exponent. -/
def exponentialSpelling (negative : Bool) (d : List Char) (e : Int) : Spelling :=
  ⟨negative, d.take 1, if d.length ≤ 1 then none else some (d.drop 1),
    some (decide (e < 0), natChars e.natAbs)⟩

/-- How a finite number is spelled. -/
def floatSpelling (negative : Bool) (m : Nat) (e : Int) : Spelling :=
  if m = 0 then ⟨negative, ['0'], some ['0'], none⟩
  else
    let ⟨d, x⟩ := Double.shortest m e
    if floatLayout.leastPositional ≤ x ∧ x < floatLayout.positionalEnd then
      positionalSpelling negative (natChars d) x
    else exponentialSpelling negative (natChars d) x

/-- The positional spelling is written out as the writer does. -/
theorem positionalSpelling_body (negative : Bool) (d : List Char) (e : Int) :
    (positionalSpelling negative d e).body = positional d e := by
  unfold positionalSpelling positional
  by_cases he : e < 0
  · simp [he, Spelling.body, Spelling.fractionChars, Spelling.exponentChars]
  · by_cases hd : d.length ≤ e.toNat + 1
    · simp [he, hd, Spelling.body, Spelling.fractionChars, Spelling.exponentChars]
    · simp [he, hd, Spelling.body, Spelling.fractionChars, Spelling.exponentChars]

/-- The positional spelling keeps the sign. -/
@[simp] theorem positionalSpelling_negative (negative : Bool) (d : List Char) (e : Int) :
    (positionalSpelling negative d e).negative = negative := by
  unfold positionalSpelling
  split
  · rfl
  split <;> rfl

/-- The exponential spelling keeps the sign. -/
@[simp] theorem exponentialSpelling_negative (negative : Bool) (d : List Char) (e : Int) :
    (exponentialSpelling negative d e).negative = negative := rfl

/-- The exponential spelling is written out as the writer does. -/
theorem exponentialSpelling_body (negative : Bool) {d : List Char} (hd : d ≠ []) (e : Int) :
    (exponentialSpelling negative d e).body = exponential d e := by
  match d with
  | [] => exact absurd rfl hd
  | [a] =>
    simp [exponentialSpelling, exponential, Spelling.body, Spelling.fractionChars,
      Spelling.exponentChars]
  | a :: b :: rest =>
    simp [exponentialSpelling, exponential, Spelling.body, Spelling.fractionChars,
      Spelling.exponentChars]

end Json
end TaskQueue
