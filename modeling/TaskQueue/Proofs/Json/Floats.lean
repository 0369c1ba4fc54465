import TaskQueue.Proofs.Json.Numeral
import TaskQueue.Proofs.Number.Shortest

/-!
# `TaskQueue.Proofs.Json.Floats`: printed numbers are not out of range

A reader computes a number from its significand by one product or quotient in the format. It
need not get back the number that was printed, and a product can be too great even though the
decimal is not. `Json.floatSpelling_double` says that this does not happen to a number that was
printed: reading it gives a number.

A quotient is never a fault (`Draft.scale_of_neg`), and a product is none if the exact value is
so small that two roundings do not lift it to `Double.overflow` (`Draft.scale_of_small`). Digits
that were printed are near the number (`Double.shortest_near`), so this settles every number but
the three greatest. For these the reading is carried out.
-/

set_option autoImplicit false

namespace TaskQueue

open Double (overflow)

/-! ## Digits and their values -/

namespace Draft

/-- Digits after a number shift it to the left. -/
theorem foldl_digits (ds : List Nat) (n : Nat) :
    ds.foldl (fun n d => n * 10 + d) n = n * 10 ^ ds.length + natOfDigits ds := by
  induction ds generalizing n with
  | nil => simp [natOfDigits]
  | cons d ds ih =>
    rw [natOfDigits, List.foldl_cons, List.foldl_cons, ih, ih, List.length_cons, pow_succ]
    ring

/-- Digits followed by others count for as many places more. -/
theorem natOfDigits_append (xs ys : List Nat) :
    natOfDigits (xs ++ ys) = natOfDigits xs * 10 ^ ys.length + natOfDigits ys := by
  rw [natOfDigits, List.foldl_append, foldl_digits]
  rfl

/-- A digit in front counts for as many places as follow it. -/
theorem natOfDigits_cons (d : Nat) (ds : List Nat) :
    natOfDigits (d :: ds) = d * 10 ^ ds.length + natOfDigits ds := by
  have := natOfDigits_append [d] ds
  simpa [natOfDigits] using this

/-- So many digits stay below that power of ten. -/
theorem natOfDigits_lt {ds : List Nat} (hds : ∀ d ∈ ds, d < 10) :
    natOfDigits ds < 10 ^ ds.length := by
  induction ds with
  | nil => simp [natOfDigits]
  | cons d ds ih =>
    have htail := ih fun x hx => hds x (by simp [hx])
    have hd : d ≤ 9 := by have := hds d (by simp); omega
    have hhead : d * 10 ^ ds.length ≤ 9 * 10 ^ ds.length := Nat.mul_le_mul_right _ hd
    rw [natOfDigits_cons, List.length_cons, pow_succ]
    omega

/-- Digits are dropped from a significand only at the end, so that it stays below their value. -/
theorem accumulate_le (s : Nat) (ds : List Nat) :
    (accumulate s ds).2 ≤ ds.length ∧
      (accumulate s ds).1 * 10 ^ (ds.length - (accumulate s ds).2) ≤
        s * 10 ^ ds.length + natOfDigits ds := by
  induction ds generalizing s with
  | nil => simp [accumulate, natOfDigits]
  | cons d ds ih =>
    obtain ⟨hlen, hle⟩ := ih (s * 10 + d)
    rw [accumulate]
    -- A digit that does not fit ends the significand. What is dropped there only makes it
    -- smaller.
    split
    · refine ⟨by simpa using hlen, ?_⟩
      simp only [List.length_cons, Nat.add_sub_add_right]
      refine hle.trans (le_of_eq ?_)
      rw [natOfDigits_cons, pow_succ]
      ring
    · refine ⟨Nat.zero_le _, ?_⟩
      simp

/-- All digits are taken if the number fits into 64 bits. -/
theorem accumulate_all (s : Nat) (ds : List Nat)
    (h : s * 10 ^ ds.length + natOfDigits ds ≤ maxSignificand) :
    accumulate s ds = (s * 10 ^ ds.length + natOfDigits ds, ds.length) := by
  induction ds generalizing s with
  | nil => simp [accumulate, natOfDigits]
  | cons d ds ih =>
    have hshift : s * 10 ^ (d :: ds).length + natOfDigits (d :: ds) =
        (s * 10 + d) * 10 ^ ds.length + natOfDigits ds := by
      rw [natOfDigits_cons, List.length_cons, pow_succ]
      ring
    rw [hshift] at h ⊢
    -- Each beginning of the digits is no greater than the whole number, so it fits too.
    have hone : s * 10 + d ≤ (s * 10 + d) * 10 ^ ds.length :=
      Nat.le_mul_of_pos_right _ (by positivity)
    have hfits : s * 10 + d ≤ maxSignificand := by omega
    rw [accumulate, if_pos hfits, ih _ h]
    rfl

/-! ## Scaling -/

/-- What two roundings can make of a number. -/
def slack : ℚ := (1 + 1 / 2 ^ 53) * (1 + 1 / 2 ^ 53)

/-- Scaling down always gives a number. -/
theorem scale_of_neg (steps : Nat) (x : Double) {e : Int} (he : e < 0) :
    ∃ y, scale steps x e = .ok y := by
  -- A negative exponent divides, and a quotient cannot overflow. Only the other branch could fail.
  induction steps generalizing x e with
  | zero =>
    unfold scale
    split
    · rw [if_neg (by omega)]
      exact ⟨_, rfl⟩
    · split
      · exact ⟨_, rfl⟩
      · rw [if_neg (by omega)]
        exact ⟨_, rfl⟩
  | succ steps ih =>
    unfold scale
    split
    · rw [if_neg (by omega)]
      exact ⟨_, rfl⟩
    · split
      · exact ⟨_, rfl⟩
      · rw [if_neg (by omega)]
        exact ih _ (by omega)

/-- A natural number is rounded up by one factor at most. -/
theorem ofRatio_natural {n : Nat} (hn : (n : ℚ) < overflow) :
    ∃ m e, Double.ofRatio false n 1 = .finite false m e ∧
      (m : ℚ) * 2 ^ e ≤ n * (1 + 1 / 2 ^ 53) := by
  rcases Nat.eq_zero_or_pos n with rfl | hpos
  · exact ⟨0, Double.minExponent, rfl, by simp⟩
  · have hone : (1 : ℚ) ≤ (n : ℚ) / (1 : Nat) := by
      rw [Nat.cast_one, div_one]
      exact_mod_cast hpos
    obtain ⟨m, e, h, hle⟩ :=
      Double.ofRatio_finite false n Nat.one_pos (by rw [Nat.cast_one, div_one]; exact hn)
    rw [Nat.cast_one, div_one] at hle hone
    exact ⟨m, e, h, hle hone⟩

/-- Scaling up gives a number if the exact product is small enough. -/
theorem scale_of_small (steps s : Nat) {e : Nat} (he : e ≤ 308)
    (hsmall : (s : ℚ) * 10 ^ e * slack < overflow) :
    ∃ y, scale steps (Double.ofNat s) e = .ok y := by
  have hten : (1 : ℚ) ≤ 10 ^ e := one_le_pow₀ (by norm_num)
  have hslack : (1 : ℚ) ≤ slack := by norm_num [slack]
  have hs : (s : ℚ) < overflow := by
    have h₁ : (s : ℚ) * 1 ≤ s * 10 ^ e := mul_le_mul_of_nonneg_left hten (by positivity)
    have h₂ : (s : ℚ) * 10 ^ e * 1 ≤ s * 10 ^ e * slack :=
      mul_le_mul_of_nonneg_left hslack (by positivity)
    linarith
  have hpower : ((1 * 10 ^ e : Nat) : ℚ) < overflow := by
    rw [Nat.one_mul]
    exact Double.lt_overflow
      (lt_of_le_of_lt (Nat.pow_le_pow_right (by decide) he) (by decide +kernel))
  -- The significand is rounded once and the power of ten once, and their product is below
  -- overflow.
  obtain ⟨m, g, hx, hxle⟩ := ofRatio_natural hs
  obtain ⟨n, f, hp, hple⟩ := ofRatio_natural hpower
  have htenth : powerOfTen e = .finite false n f := by
    rw [powerOfTen, Double.ofDecimal, if_neg one_ne_zero, if_neg (by omega), if_neg (by omega),
      if_pos (by omega), Int.toNat_natCast, Nat.pow_eq, hp]
  have hproduct : (m : ℚ) * 2 ^ g * (n * 2 ^ f) < overflow := by
    refine lt_of_le_of_lt (mul_le_mul hxle hple (by positivity) (by positivity)) ?_
    refine lt_of_eq_of_lt ?_ hsmall
    rw [slack]
    push_cast
    ring
  unfold scale
  rw [if_pos (by omega), if_pos (by omega), Int.toNat_natCast, htenth, Double.ofNat, hx]
  simp only [Double.mul_finite false false hproduct, if_true]
  exact ⟨_, rfl⟩

/-! ## Numerals -/

namespace Numeral

/-- The digits of a numeral without the point. -/
def coefficient (n : Numeral) : Nat := natOfDigits (n.whole ++ n.fraction.getD [])

/-- How many digits stand after the point. -/
def places (n : Numeral) : Nat := (n.fraction.getD []).length

/-- The numeral is so small that rounding does not lift it out of range. -/
def Tame (n : Numeral) : Prop :=
  match n.exponent with
  | none => (n.coefficient : ℚ) * slack < overflow * 10 ^ n.places
  | some (true, ds) => 0 < natOfDigits ds
  | some (false, ds) => natOfDigits ds ≤ 308 ∧
    (n.coefficient : ℚ) * 10 ^ natOfDigits ds * slack < overflow * 10 ^ n.places

/-- The significand of a numeral with few whole digits: no whole digit is dropped, and those
after the point only at the end. -/
theorem significand_le (n : Numeral) (hlen : n.whole.length ≤ 16) (hwhole : ∀ d ∈ n.whole, d < 10) :
    ∃ s k, k ≤ n.places ∧ accumulate 0 n.whole = (natOfDigits n.whole, n.whole.length) ∧
      accumulate (natOfDigits n.whole) (n.fraction.getD []) = (s, k) ∧
      s * 10 ^ (n.places - k) ≤ n.coefficient := by
  have hsmall : natOfDigits n.whole < 10 ^ 16 :=
    lt_of_lt_of_le (natOfDigits_lt hwhole) (Nat.pow_le_pow_right (by decide) hlen)
  have hall := accumulate_all 0 n.whole (by
    have : maxSignificand = 2 ^ 64 - 1 := rfl
    omega)
  rw [Nat.zero_mul, Nat.zero_add] at hall
  obtain ⟨hk, hle⟩ := accumulate_le (natOfDigits n.whole) (n.fraction.getD [])
  rw [← natOfDigits_append] at hle
  exact ⟨_, _, hk, hall, rfl, hle⟩

/-- The exponent of a numeral, brought into 32 bits. -/
def bounded (e : Int) : Int := max (-(2 ^ 31 : Int)) (min e (2 ^ 31 - 1))

/-- A negative exponent stays negative when it is cut off. -/
theorem bounded_of_neg {e : Int} (he : e < 0) : bounded e < 0 := by
  unfold bounded
  omega

/-- An exponent that a double can have is not cut off. -/
theorem bounded_of_small {e : Int} (hlow : 0 ≤ e) (hhigh : e ≤ 308) : bounded e = e := by
  unfold bounded
  omega

/-- A significand that is scaled by an exponent, less the places after the point, gives a number
if the whole is small enough. -/
theorem scale_significand {s k places x : Nat} {c : Nat} (hk : k ≤ places)
    (hs : s * 10 ^ (places - k) ≤ c) (hx : x ≤ 308)
    (hsmall : (c : ℚ) * 10 ^ x * slack < overflow * 10 ^ places) :
    ∃ y, scale 4 (Double.ofNat s) (bounded ((x : Int) - k)) = .ok y := by
  -- More places than the exponent makes up for: the number is scaled down, which never fails.
  rcases lt_or_ge x k with hlt | hge
  · exact scale_of_neg 4 _ (bounded_of_neg (by omega))
  · obtain ⟨e, rfl⟩ : ∃ e, x = e + k := ⟨x - k, by omega⟩
    obtain ⟨l, rfl⟩ : ∃ l, places = l + k := ⟨places - k, by omega⟩
    have hexp : ((e + k : Nat) : Int) - k = e := by push_cast; ring
    rw [hexp, bounded_of_small (by omega) (by omega)]
    refine scale_of_small 4 s (by omega) ?_
    rw [Nat.add_sub_cancel] at hs
    have hs' : (s : ℚ) * 10 ^ l ≤ c := by exact_mod_cast hs
    have hpos : (0 : ℚ) < 10 ^ (l + k) := by positivity
    have hslack : (0 : ℚ) < slack := by norm_num [slack]
    refine lt_of_mul_lt_mul_right ?_ hpos.le
    calc (s : ℚ) * 10 ^ e * slack * 10 ^ (l + k) = s * 10 ^ l * (10 ^ (e + k) * slack) := by
          rw [pow_add, pow_add]
          ring
      _ ≤ c * (10 ^ (e + k) * slack) := mul_le_mul_of_nonneg_right hs' (by positivity)
      _ = c * 10 ^ (e + k) * slack := by ring
      _ < overflow * 10 ^ (l + k) := hsmall

/-- A tame numeral with few whole digits gives a number. -/
theorem double_of_tame {n : Numeral} (hlen : n.whole.length ≤ 16)
    (hwhole : ∀ d ∈ n.whole, d < 10) (h : n.Tame) : ∃ y, n.double = .ok y := by
  obtain ⟨s, k, hk, hall, hrest, hs⟩ := significand_le n hlen hwhole
  unfold Tame at h
  cases hx : n.exponent with
  | none =>
    rw [hx] at h
    have hy : ∃ y, scale 4 (Double.ofNat s) (0 - k) = .ok y := by
      rcases Nat.eq_zero_or_pos k with rfl | hpos
      · have := scale_significand (x := 0) hk hs (by decide) (by simpa using h)
        rwa [bounded_of_small (by omega) (by omega)] at this
      · exact scale_of_neg 4 _ (by omega)
    obtain ⟨y, hy⟩ := hy
    refine ⟨if n.negative then y.neg else y, ?_⟩
    simp only [double, hall, hrest, hx, Nat.sub_self, Nat.cast_zero, hy]
    rfl
  | some x =>
    obtain ⟨negative, ds⟩ := x
    rw [hx] at h
    cases negative with
    -- A negative exponent scales down, or it is so great that the number is zero.
    | true =>
      by_cases hgreat : Draft.maxExponent < natOfDigits ds
      · refine ⟨if n.negative then Double.zero.neg else Double.zero, ?_⟩
        simp [double, hall, hrest, hx, hgreat]
      · have hneg : (0 : Int) - k - natOfDigits ds < 0 := by omega
        obtain ⟨y, hy⟩ := scale_of_neg 4 (Double.ofNat s) (bounded_of_neg hneg)
        rw [bounded] at hy
        refine ⟨if n.negative then y.neg else y, ?_⟩
        simp only [double, hall, hrest, hx, Nat.sub_self, Nat.cast_zero, hgreat, if_false, if_true,
          Nat.pow_eq, Nat.cast_pow, Nat.cast_ofNat, hy]
        rfl
    | false =>
      have hgreat : ¬ Draft.maxExponent < natOfDigits ds := by
        have : Draft.maxExponent = 2 ^ 31 - 1 := rfl
        omega
      obtain ⟨y, hy⟩ := scale_significand hk hs h.1 h.2
      rw [bounded, show (natOfDigits ds : Int) - k = 0 - k + natOfDigits ds by ring] at hy
      refine ⟨if n.negative then y.neg else y, ?_⟩
      simp only [double, hall, hrest, hx, Nat.sub_self, Nat.cast_zero, hgreat, if_false,
        Bool.false_eq_true, Nat.pow_eq, Nat.cast_pow, Nat.cast_ofNat, hy]
      rfl

end Numeral
end Draft

namespace Json

/-! ## Printed numbers -/

/-- The spelling of a number has its characters. -/
theorem floatSpelling_chars (negative : Bool) (m : Nat) (e : Int) :
    (floatSpelling negative m e).chars = floatChars (.finite negative m e) := by
  have hsign : ∀ s : Spelling, s.chars = if s.negative then '-' :: s.body else s.body :=
    fun _ => rfl
  rw [hsign, floatSpelling, floatChars]
  by_cases hm : m = 0
  · simp [hm, Spelling.body, Spelling.fractionChars, Spelling.exponentChars]
  · simp only [hm, if_false]
    split
    · rw [positionalSpelling_body, positionalSpelling_negative]
    · rw [exponentialSpelling_body _ (natChars_ne_nil _), exponentialSpelling_negative]

/-- Digits of a positive number, spelled positionally, are sound. -/
theorem positionalSpelling_sound (negative : Bool) {d : Nat} (hd : 0 < d) (e : Int) :
    (positionalSpelling negative (natChars d) e).Sound := by
  have hlen : 0 < (natChars d).length := List.length_pos_iff.2 (natChars_ne_nil d)
  have hhead : ∀ cs : List Char, cs.head? = (natChars d).head? → cs.head? = some '0' → cs = ['0'] :=
    fun cs h h' => absurd (h ▸ h') (head_natChars hd)
  unfold positionalSpelling
  -- The point stands before the digits, behind them, or between two of them.
  split
  · exact {
      whole := digits_natChars 0
      nonempty := by simp
      zero := fun _ => rfl
      fraction := by
        rintro _ ⟨⟩
        exact ⟨(digits_zeros _).append (digits_natChars d), by simp [natChars_ne_nil]⟩
      exponent := nofun }
  split
  · exact {
      whole := (digits_natChars d).append (digits_zeros _)
      nonempty := by simp [natChars_ne_nil]
      zero := hhead _ (by rw [List.head?_append_of_ne_nil _ (natChars_ne_nil d)])
      fraction := by
        rintro _ ⟨⟩
        exact ⟨digits_natChars 0, by simp⟩
      exponent := nofun }
  · exact {
      whole := fun c hc => digits_natChars d c (List.mem_of_mem_take hc)
      nonempty := by simp [natChars_ne_nil]
      zero := hhead _ (by rw [List.head?_take]; simp)
      fraction := by
        rintro _ ⟨⟩
        refine ⟨fun c hc => digits_natChars d c (List.mem_of_mem_drop hc), ?_⟩
        rw [ne_eq, List.drop_eq_nil_iff]
        omega
      exponent := nofun }

/-- Digits of a positive number, spelled with an exponent, are sound. -/
theorem exponentialSpelling_sound (negative : Bool) {d : Nat} (hd : 0 < d) (e : Int) :
    (exponentialSpelling negative (natChars d) e).Sound where
  whole := fun c hc => digits_natChars d c (List.mem_of_mem_take hc)
  nonempty := by simp [exponentialSpelling, natChars_ne_nil]
  zero := fun h => by
    rw [exponentialSpelling, List.head?_take] at h
    exact absurd (by simpa using h) (head_natChars hd)
  fraction := by
    intro f hf
    simp only [exponentialSpelling] at hf
    split at hf
    · cases hf
    -- There is a fraction only if there are more digits than the one before the point.
    · rename_i hlen
      cases hf
      refine ⟨fun c hc => digits_natChars d c (List.mem_of_mem_drop hc), ?_⟩
      rw [ne_eq, List.drop_eq_nil_iff]
      exact hlen
  exponent := by
    rintro _ ⟨⟩
    exact ⟨digits_natChars _, natChars_ne_nil _⟩

/-- A printed number has a sound spelling. -/
theorem floatSpelling_sound (negative : Bool) {m : Nat} (hm : m < 2 ^ 53) (e : Int) :
    (floatSpelling negative m e).Sound := by
  unfold floatSpelling
  split
  · exact {
      whole := digits_natChars 0
      nonempty := by simp
      zero := fun _ => rfl
      fraction := by
        rintro _ ⟨⟩
        exact ⟨digits_natChars 0, by simp⟩
      exponent := nofun }
  -- The shortest digits of a number that is not zero do not begin with a zero.
  · have hnear := (Double.shortest_near (by omega) hm e).1
    simp only
    split
    · exact positionalSpelling_sound negative hnear _
    · exact exponentialSpelling_sound negative hnear _

/-- The digits of a text have values below ten. -/
theorem digitValue_lt {cs : List Char} (hcs : Digits cs) :
    ∀ d ∈ cs.map digitValue, d < 10 := by
  intro d hd
  obtain ⟨c, hc, rfl⟩ := List.mem_map.1 hd
  have h := Char.isDigit_iff_toNat.1 (hcs c hc)
  have hnine : '9'.toNat = 57 := rfl
  rw [digitValue]
  omega

/-- A number that has at most 16 whole digits and no exponent is not out of range. -/
theorem tame_of_positional {s : Spelling} (hs : s.Sound) (hlen : s.whole.length ≤ 16)
    (hx : s.exponent = none) : s.numeral.Tame := by
  have hdigits : ∀ d ∈ s.numeral.whole ++ s.numeral.fraction.getD [], d < 10 := by
    intro d hd
    rcases List.mem_append.1 hd with hd | hd
    · exact digitValue_lt hs.whole d hd
    · cases hf : s.fraction with
      | none =>
        rw [Spelling.numeral, hf] at hd
        cases hd
      | some f =>
        rw [Spelling.numeral, hf] at hd
        exact digitValue_lt (hs.fraction f hf).1 d hd
  -- At most 16 digits before the point: the number is less than 10 ^ 16, far below overflow.
  have hlt := Draft.natOfDigits_lt hdigits
  rw [List.length_append, pow_add] at hlt
  have hwhole : s.numeral.whole.length ≤ 16 := by simpa [Spelling.numeral] using hlen
  have hpow : 10 ^ s.numeral.whole.length ≤ 10 ^ 16 := Nat.pow_le_pow_right (by decide) hwhole
  have hle : s.numeral.coefficient ≤ 10 ^ 16 * 10 ^ s.numeral.places :=
    hlt.le.trans (Nat.mul_le_mul_right _ hpow)
  have hle' : (s.numeral.coefficient : ℚ) ≤ 10 ^ 16 * 10 ^ s.numeral.places := by
    exact_mod_cast hle
  have hbound : (10 : ℚ) ^ 16 * Draft.slack < overflow := by
    have h₁ : (10 : ℚ) ^ 16 * Draft.slack < (10 ^ 17 : Nat) := by norm_num [Draft.slack]
    exact h₁.trans (Double.lt_overflow (by decide +kernel))
  have hnone : s.numeral.exponent = none := by rw [Spelling.numeral, hx]; rfl
  have hslack : (0 : ℚ) < Draft.slack := by norm_num [Draft.slack]
  rw [Draft.Numeral.Tame, hnone]
  calc (s.numeral.coefficient : ℚ) * Draft.slack
      ≤ 10 ^ 16 * 10 ^ s.numeral.places * Draft.slack :=
        mul_le_mul_of_nonneg_right hle' hslack.le
    _ = 10 ^ 16 * Draft.slack * 10 ^ s.numeral.places := by ring
    _ < overflow * 10 ^ s.numeral.places := mul_lt_mul_of_pos_right hbound (by positivity)

/-- A number that is not among the greatest stays in range when it is rounded twice. -/
theorem slack_lt {m : Nat} {e : Int} (hm : m < 2 ^ 53) (he : e ≤ 971)
    (htop : e = 971 → m < 2 ^ 53 - 3) :
    ((m : ℚ) + 1 / 2) * 2 ^ e * Draft.slack < overflow := by
  have hslack : (0 : ℚ) < Draft.slack := by norm_num [Draft.slack]
  have hunit : (0 : ℚ) < 2 ^ (970 : Int) := by positivity
  rw [overflow]
  -- With the greatest exponent the number has to be three steps away from the end of the range;
  -- with any other there is a factor of two to spare.
  rcases eq_or_lt_of_le he with rfl | hlt
  · have hm' : (m : ℚ) + 4 ≤ 2 ^ 53 := by
      have := htop rfl
      exact_mod_cast (show m + 4 ≤ 2 ^ 53 by omega)
    have hnumber : ((m : ℚ) + 1 / 2) * 2 * Draft.slack < 2 ^ 54 - 1 := by
      have hle : ((m : ℚ) + 1 / 2) * 2 ≤ 2 ^ 54 - 7 := by linarith
      refine lt_of_le_of_lt (mul_le_mul_of_nonneg_right hle hslack.le) ?_
      norm_num [Draft.slack]
    rw [show (971 : Int) = 970 + 1 from rfl, zpow_add_one₀ (by norm_num)]
    calc ((m : ℚ) + 1 / 2) * (2 ^ (970 : Int) * 2) * Draft.slack
        = ((m : ℚ) + 1 / 2) * 2 * Draft.slack * 2 ^ (970 : Int) := by ring
      _ < (2 ^ 54 - 1) * 2 ^ (970 : Int) := mul_lt_mul_of_pos_right hnumber hunit
  · have hm' : (m : ℚ) + 1 ≤ 2 ^ 53 := by exact_mod_cast hm
    have hpow : (2 : ℚ) ^ e ≤ 2 ^ (970 : Int) :=
      zpow_le_zpow_right₀ (by norm_num) (by omega)
    have hnumber : (2 : ℚ) ^ 53 * Draft.slack < 2 ^ 54 - 1 := by norm_num [Draft.slack]
    calc ((m : ℚ) + 1 / 2) * 2 ^ e * Draft.slack
        ≤ 2 ^ 53 * 2 ^ (970 : Int) * Draft.slack :=
          mul_le_mul_of_nonneg_right
            (mul_le_mul (by linarith) hpow (by positivity) (by positivity)) hslack.le
      _ = 2 ^ 53 * Draft.slack * 2 ^ (970 : Int) := by ring
      _ < (2 ^ 54 - 1) * 2 ^ (970 : Int) := mul_lt_mul_of_pos_right hnumber hunit

/-- The digits of a number that is spelled with an exponent, and how many stand after the
point. -/
theorem exponentialSpelling_coefficient (negative : Bool) (d : Nat) (x : Int) :
    (exponentialSpelling negative (natChars d) x).numeral.coefficient = d ∧
      (exponentialSpelling negative (natChars d) x).numeral.places = (natChars d).length - 1 := by
  rw [Draft.Numeral.coefficient, Draft.Numeral.places, Spelling.numeral, exponentialSpelling]
  split
  · rename_i hlen
    have htake : (natChars d).take 1 = natChars d := List.take_of_length_le hlen
    simp only [Option.map_none, Option.getD_none, List.append_nil, htake,
      Draft.natOfDigits_natChars, List.length_nil, true_and]
    omega
  · simp only [Option.map_some, Option.getD_some, ← List.map_append, List.take_append_drop,
      Draft.natOfDigits_natChars, List.length_map, List.length_drop, and_self]

/-- Digits with an exponent that are near such a number are not out of range. -/
theorem tame_of_exponential (negative : Bool) {m : Nat} {e : Int} {d : Nat} {x : Int}
    (hnear : Double.Near m e d (x + 1 - (natChars d).length)) (hx : x ≠ 0)
    (hsmall : ((m : ℚ) + 1 / 2) * 2 ^ e * Draft.slack < overflow) :
    (exponentialSpelling negative (natChars d) x).numeral.Tame := by
  obtain ⟨hcoefficient, hplaces⟩ := exponentialSpelling_coefficient negative d x
  have hexponent : (exponentialSpelling negative (natChars d) x).numeral.exponent =
      some (decide (x < 0), (natChars x.natAbs).map digitValue) := rfl
  have hvalue : Draft.natOfDigits ((natChars x.natAbs).map digitValue) = x.natAbs :=
    Draft.natOfDigits_natChars _
  rw [Draft.Numeral.Tame, hexponent, hcoefficient, hplaces]
  by_cases hneg : x < 0
  · simp only [hneg, decide_true, hvalue]
    omega
  · simp only [hneg, decide_false, hvalue]
    obtain ⟨n, rfl⟩ := Int.eq_ofNat_of_zero_le (not_lt.1 hneg)
    have hlen : 0 < (natChars d).length := List.length_pos_iff.2 (natChars_ne_nil d)
    obtain ⟨hd, hle⟩ := hnear
    have hslack : (1 : ℚ) ≤ Draft.slack := by norm_num [Draft.slack]
    -- The power of the leading digit is that of the last one, times the places.
    have hshift : (10 : ℚ) ^ n =
        10 ^ ((n : Int) + 1 - (natChars d).length) * 10 ^ ((natChars d).length - 1) := by
      rw [← zpow_natCast (10 : ℚ) ((natChars d).length - 1), ← zpow_add₀ (by norm_num),
        ← zpow_natCast (10 : ℚ) n]
      congr 1
      push_cast [Nat.cast_sub hlen]
      ring
    have hpow : (0 : ℚ) < 10 ^ ((natChars d).length - 1) := by positivity
    have hdigits : (d : ℚ) * 10 ^ n * Draft.slack <
        overflow * 10 ^ ((natChars d).length - 1) := by
      calc (d : ℚ) * 10 ^ n * Draft.slack
          = d * 10 ^ ((n : Int) + 1 - (natChars d).length) * Draft.slack *
              10 ^ ((natChars d).length - 1) := by rw [hshift]; ring
        _ ≤ (m + 1 / 2) * 2 ^ e * Draft.slack * 10 ^ ((natChars d).length - 1) :=
            mul_le_mul_of_nonneg_right
              (mul_le_mul_of_nonneg_right hle (by linarith)) hpow.le
        _ < overflow * 10 ^ ((natChars d).length - 1) := mul_lt_mul_of_pos_right hsmall hpow
    refine ⟨?_, hdigits⟩
    -- The digits begin with one that is not zero, so the exponent is bounded.
    have hfirst : ((10 ^ ((natChars d).length - 1) : Nat) : ℚ) ≤ d := by
      exact_mod_cast (Double.pow_length_le hd).1
    push_cast at hfirst
    have hlt : (10 : ℚ) ^ n < overflow := by
      have h₁ : (10 : ℚ) ^ ((natChars d).length - 1) * 10 ^ n ≤ d * 10 ^ n * Draft.slack :=
        (mul_le_mul_of_nonneg_right hfirst (by positivity)).trans
          (le_mul_of_one_le_right (by positivity) hslack)
      have h₂ := lt_of_le_of_lt h₁ hdigits
      rw [mul_comm] at h₂
      exact lt_of_mul_lt_mul_right h₂ hpow.le
    have hlt' : (10 : ℚ) ^ n < (10 ^ 309 : Nat) :=
      hlt.trans (Double.overflow_lt (by decide +kernel))
    have : 10 ^ n < 10 ^ 309 := by exact_mod_cast hlt'
    have := (Nat.pow_lt_pow_iff_right (by decide)).1 this
    omega

/-- A number that is spelled positionally has as many whole digits as its exponent asks for. -/
theorem positionalSpelling_whole (negative : Bool) (d : List Char) (x : Int) :
    (positionalSpelling negative d x).whole.length ≤ x.toNat + 1 := by
  unfold positionalSpelling
  split
  · simp
  split
  · simp only [List.length_append, List.length_replicate]
    omega
  · simp

/-- The positional spelling has no exponent. -/
theorem positionalSpelling_exponent (negative : Bool) (d : List Char) (x : Int) :
    (positionalSpelling negative d x).exponent = none := by
  unfold positionalSpelling
  split
  · rfl
  split <;> rfl

/-- A sound spelling with few whole digits gives a number if it is tame. -/
theorem double_of_sound {s : Spelling} (hs : s.Sound) (hlen : s.whole.length ≤ 16)
    (htame : s.numeral.Tame) : ∃ y, s.numeral.double = .ok y :=
  Draft.Numeral.double_of_tame (by simpa [Spelling.numeral] using hlen) (digitValue_lt hs.whole)
    htame

/-- The three greatest numbers are read back as numbers, with either sign. -/
theorem greatest_double (negative : Bool) :
    ∀ k < 3, (floatSpelling negative (2 ^ 53 - 1 - k) 971).numeral.double.isOk = true := by
  cases negative <;> decide +kernel

/-- Reading a number that was printed gives a number. -/
theorem floatSpelling_double (negative : Bool) {m : Nat} (hm : m < 2 ^ 53) {e : Int}
    (he : e ≤ 971) : ∃ y, (floatSpelling negative m e).numeral.double = .ok y := by
  have hsound := floatSpelling_sound negative hm e
  -- The slack does not cover the three greatest numbers. They are read back one by one.
  by_cases htop : e = 971 ∧ 2 ^ 53 - 3 ≤ m
  · obtain ⟨rfl, hle⟩ := htop
    obtain ⟨k, hk, rfl⟩ : ∃ k < 3, m = 2 ^ 53 - 1 - k := ⟨2 ^ 53 - 1 - m, by omega, by omega⟩
    have hok := greatest_double negative k hk
    rcases hd : (floatSpelling negative (2 ^ 53 - 1 - k) 971).numeral.double with f | y
    · rw [hd] at hok
      cases hok
    · exact ⟨y, rfl⟩
  · have hsmall := slack_lt hm he fun h => by omega
    unfold floatSpelling at hsound ⊢
    split
    · rename_i hzero
      rw [if_pos hzero] at hsound
      exact double_of_sound hsound (by simp) (tame_of_positional hsound (by simp) rfl)
    · rename_i hzero
      rw [if_neg hzero] at hsound
      have hnear := Double.shortest_near (by omega) hm e
      simp only at hsound ⊢
      split
      · rename_i hx
        rw [if_pos hx] at hsound
        have hlen := positionalSpelling_whole negative (natChars (Double.shortest m e).digits)
          (Double.shortest m e).exponent
        have hend : (Double.shortest m e).exponent < 16 := hx.2
        refine double_of_sound hsound (by omega) (tame_of_positional hsound (by omega) ?_)
        exact positionalSpelling_exponent _ _ _
      · rename_i hx
        rw [if_neg hx] at hsound
        refine double_of_sound hsound ?_ (tame_of_exponential negative hnear ?_ hsmall)
        · simp [exponentialSpelling]
        · intro h0
          exact hx (by rw [h0]; decide)

end Json
end TaskQueue
