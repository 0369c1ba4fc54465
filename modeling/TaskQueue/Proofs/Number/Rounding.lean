import Mathlib.Algebra.Order.Field.Power
import Mathlib.Data.Rat.Cast.Order
import Mathlib.Tactic.FieldSimp
import Mathlib.Tactic.Linarith
import Mathlib.Tactic.Positivity
import Mathlib.Tactic.Ring
import TaskQueue.Number.Double

/-!
# `TaskQueue.Proofs.Number.Rounding`: what rounding does to the size of a number

`Double.ofRatio` is followed over the rationals. `Double.roundHalfEven_bounds` says that it
rounds a quotient by one half at most. From this come the two facts that readers of decimals
need. `Double.ofRatio_finite`: a quotient below the middle between the greatest number and the
next power of two gives a finite number. `Double.ofRatio_le`: a number that is one at least
grows by the factor `1 + 2 ^ -53` at most.

`Double.mul_finite` puts the two together for the product of two rounded numbers.
-/

set_option autoImplicit false

namespace TaskQueue
namespace Double

/-! ## Quotients -/

/-- Rounding to an integer moves a quotient by one half at most. -/
theorem roundHalfEven_bounds (num : Nat) {den : Nat} (hden : 0 < den) :
    ((num : ℚ) / den - 1 / 2 ≤ roundHalfEven num den) ∧
      ((roundHalfEven num den : ℚ) ≤ num / den + 1 / 2) := by
  have hden' : (0 : ℚ) < den := by exact_mod_cast hden
  have hdiv : (num : ℚ) / den = (num / den : Nat) + ((num % den : Nat) : ℚ) / den := by
    rw [div_eq_iff hden'.ne', add_mul, div_mul_cancel₀ _ hden'.ne']
    exact_mod_cast (Nat.div_add_mod' num den).symm
  have hlow : (0 : ℚ) ≤ ((num % den : Nat) : ℚ) / den := by positivity
  have hhigh : ((num % den : Nat) : ℚ) / den < 1 := by
    rw [div_lt_one hden']
    exact_mod_cast Nat.mod_lt num hden
  have hhalf : 2 * (num % den) < den → ((num % den : Nat) : ℚ) / den < 1 / 2 := by
    intro h
    have h' : (2 * (num % den : Nat) : ℚ) < den := by exact_mod_cast h
    rw [div_lt_iff₀ hden']
    linarith
  have hhalf' : den ≤ 2 * (num % den) → 1 / 2 ≤ ((num % den : Nat) : ℚ) / den := by
    intro h
    have h' : (den : ℚ) ≤ (2 * (num % den : Nat) : ℚ) := by exact_mod_cast h
    rw [le_div_iff₀ hden']
    linarith
  -- The quotient is a whole part and a rest; the rest decides which neighbour is taken.
  rw [hdiv, roundHalfEven]
  by_cases h₁ : 2 * (num % den) < den
  · have := hhalf h₁
    simp only [h₁, if_true]
    constructor <;> linarith
  by_cases h₂ : den < 2 * (num % den)
  · have := hhalf' h₂.le
    simp only [h₁, h₂, if_true, if_false]
    push_cast
    constructor <;> linarith
  · -- The middle: both neighbours are one half away.
    have heq : ((num % den : Nat) : ℚ) / den = 1 / 2 := by
      have : 2 * (num % den) = den := by omega
      rw [div_eq_iff hden'.ne']
      have h' : (2 * (num % den : Nat) : ℚ) = den := by exact_mod_cast this
      linarith
    simp only [h₁, h₂, if_false]
    split <;> push_cast <;> constructor <;> linarith

/-- Scaling divides a quotient by a power of two. -/
theorem scaled_div (num : Nat) {den : Nat} (hden : 0 < den) (e : Int) :
    0 < (scaled num den e).2 ∧
      ((scaled num den e).1 : ℚ) / (scaled num den e).2 = num / den / 2 ^ e := by
  have hden' : (den : ℚ) ≠ 0 := by exact_mod_cast hden.ne'
  unfold scaled
  -- A scale by a positive power of two multiplies the denominator, by a negative one the numerator.
  by_cases he : 0 ≤ e
  · obtain ⟨n, rfl⟩ := Int.eq_ofNat_of_zero_le he
    simp only [he, if_true, Nat.pow_eq]
    refine ⟨by positivity, ?_⟩
    push_cast
    rw [Int.toNat_natCast, zpow_natCast, div_div]
  · obtain ⟨n, hn⟩ := Int.eq_ofNat_of_zero_le (show 0 ≤ -e by omega)
    obtain rfl : e = -n := by omega
    simp only [he, if_false, Nat.pow_eq]
    refine ⟨hden, ?_⟩
    push_cast
    rw [neg_neg, Int.toNat_natCast, zpow_neg, zpow_natCast, div_inv_eq_mul]
    field_simp

/-- The quotient of a significand and an exponent is the number. -/
theorem ratio_div (m : Nat) (e : Int) :
    0 < (ratio m e).2 ∧ ((ratio m e).1 : ℚ) / (ratio m e).2 = m * 2 ^ e := by
  unfold ratio
  by_cases he : 0 ≤ e
  · obtain ⟨n, rfl⟩ := Int.eq_ofNat_of_zero_le he
    simp only [he, if_true, Nat.pow_eq]
    refine ⟨by positivity, ?_⟩
    push_cast
    rw [Int.toNat_natCast, zpow_natCast, div_one]
  · obtain ⟨n, hn⟩ := Int.eq_ofNat_of_zero_le (show 0 ≤ -e by omega)
    obtain rfl : e = -n := by omega
    simp only [he, if_false, Nat.pow_eq]
    refine ⟨by positivity, ?_⟩
    push_cast
    rw [neg_neg, Int.toNat_natCast, zpow_neg, zpow_natCast, div_eq_mul_inv]

/-- The logarithms of its parts say between which powers of two a quotient lies. -/
theorem between_powers {num den : Nat} (hnum : 0 < num) (hden : 0 < den) :
    (2 : ℚ) ^ ((num.log2 : Int) - den.log2 - 1) < num / den ∧
      (num : ℚ) / den < 2 ^ ((num.log2 : Int) - den.log2 + 1) := by
  have hn₁ : ((2 ^ num.log2 : Nat) : ℚ) ≤ num := by exact_mod_cast Nat.log2_self_le hnum.ne'
  have hn₂ : (num : ℚ) < (2 ^ (num.log2 + 1) : Nat) := by exact_mod_cast Nat.lt_log2_self
  have hd₁ : ((2 ^ den.log2 : Nat) : ℚ) ≤ den := by exact_mod_cast Nat.log2_self_le hden.ne'
  have hd₂ : (den : ℚ) < (2 ^ (den.log2 + 1) : Nat) := by exact_mod_cast Nat.lt_log2_self
  have hden' : (0 : ℚ) < den := by exact_mod_cast hden
  push_cast at hn₁ hn₂ hd₁ hd₂
  -- Each bound loses a factor of two at most, from the parts of the quotient below their leading
  -- bits.
  constructor
  · rw [lt_div_iff₀ hden']
    calc (2 : ℚ) ^ ((num.log2 : Int) - den.log2 - 1) * den
        < 2 ^ ((num.log2 : Int) - den.log2 - 1) * 2 ^ (den.log2 + 1) := by
          exact mul_lt_mul_of_pos_left hd₂ (by positivity)
      _ = 2 ^ num.log2 := by
          rw [← zpow_natCast (2 : ℚ) (den.log2 + 1), ← zpow_add₀ (by norm_num),
            ← zpow_natCast (2 : ℚ) num.log2]
          congr 1
          push_cast
          ring
      _ ≤ num := hn₁
  · rw [div_lt_iff₀ hden']
    calc (num : ℚ) < 2 ^ (num.log2 + 1) := hn₂
      _ = 2 ^ ((num.log2 : Int) - den.log2 + 1) * 2 ^ den.log2 := by
          rw [← zpow_natCast (2 : ℚ) den.log2, ← zpow_add₀ (by norm_num),
            ← zpow_natCast (2 : ℚ) (num.log2 + 1)]
          congr 1
          push_cast
          ring
      _ ≤ 2 ^ ((num.log2 : Int) - den.log2 + 1) * den := by
          exact mul_le_mul_of_nonneg_left hd₁ (by positivity)

/-! ## Rounding to the format -/

/-- The exponent with which a quotient is rounded. -/
def exponentFor (num den : Nat) : Int :=
  let e := max ((num.log2 : Int) - den.log2 - 53) minExponent
  if (scaled num den e).1 / (scaled num den e).2 < 2 ^ 53 then e else e + 1

/-- The significand before it is brought below `2 ^ 53`. -/
def significandFor (num den : Nat) : Nat :=
  roundHalfEven (scaled num den (exponentFor num den)).1 (scaled num den (exponentFor num den)).2

/-- A quotient is rounded to its significand and exponent; a significand that is too great is
halved. -/
theorem ofRatio_eq (negative : Bool) {num : Nat} (hnum : num ≠ 0) (den : Nat) :
    ofRatio negative num den =
      if significandFor num den = 2 ^ 53 then
        if maxExponent < exponentFor num den + 1 then .infinite negative
        else .finite negative (2 ^ 52) (exponentFor num den + 1)
      else if maxExponent < exponentFor num den then .infinite negative
      else .finite negative (significandFor num den) (exponentFor num den) := by
  simp only [ofRatio, Nat.pow_eq, hnum, if_false]
  -- Rounding up may fill one bit more than there are, and then the exponent moves.
  by_cases h : significandFor num den = 2 ^ 53
  · have h' := h
    rw [significandFor, exponentFor] at h'
    rw [if_pos h]
    simp only [h', if_true, exponentFor]
    rfl
  · have h' := h
    rw [significandFor, exponentFor] at h'
    rw [if_neg h]
    simp only [h', if_false, exponentFor, significandFor]
    rfl

/-- In units of the exponent, the quotient is below `2 ^ 53`, and not below `2 ^ 52` unless the
exponent is among the least. -/
theorem exponentFor_spec {num den : Nat} (hnum : 0 < num) (hden : 0 < den) :
    (num : ℚ) / den / 2 ^ exponentFor num den < 2 ^ 53 ∧
      (exponentFor num den ≤ minExponent + 1 ∨
        2 ^ 52 ≤ (num : ℚ) / den / 2 ^ exponentFor num den) := by
  obtain ⟨hlow, hhigh⟩ := between_powers hnum hden
  set k : Int := (num.log2 : Int) - den.log2 with hk
  set e₀ : Int := max (k - 53) minExponent with he₀
  obtain ⟨hwide, hratio⟩ := scaled_div num hden e₀
  have hpow : (0 : ℚ) < 2 ^ e₀ := by positivity
  have hwide' : (0 : ℚ) < (scaled num den e₀).2 := by exact_mod_cast hwide
  have hstep : ∀ x : ℚ, x / 2 ^ (e₀ + 1) = x / 2 ^ e₀ / 2 := by
    intro x
    rw [zpow_add_one₀ (by norm_num), div_div]
  rw [exponentFor]
  simp only [← hk, ← he₀]
  -- The estimate by logarithms is right or one too small.
  by_cases hsmall : (scaled num den e₀).1 / (scaled num den e₀).2 < 2 ^ 53
  · simp only [hsmall, if_true]
    constructor
    · rw [← hratio, div_lt_iff₀ hwide']
      exact_mod_cast (Nat.div_lt_iff_lt_mul hwide).1 hsmall
    · rcases le_total (k - 53) minExponent with hle | hle
      · left
        rw [he₀, max_eq_right hle]
        omega
      · right
        rw [max_eq_left hle] at he₀
        rw [le_div_iff₀ hpow, he₀]
        refine le_trans (le_of_eq ?_) hlow.le
        rw [show (2 : ℚ) ^ 52 = 2 ^ (52 : Int) from (zpow_natCast _ _).symm,
          ← zpow_add₀ (by norm_num)]
        congr 1
        ring
  · simp only [hsmall, if_false]
    have hgreat : (2 : ℚ) ^ 53 ≤ (num : ℚ) / den / 2 ^ e₀ := by
      rw [← hratio, le_div_iff₀ hwide']
      exact_mod_cast (Nat.le_div_iff_mul_le hwide).1 (not_lt.1 hsmall)
    have hbelow : (num : ℚ) / den / 2 ^ e₀ < 2 ^ 54 := by
      rw [div_lt_iff₀ hpow]
      refine lt_of_lt_of_le hhigh ?_
      rw [show (2 : ℚ) ^ 54 = 2 ^ (54 : Int) from (zpow_natCast _ _).symm,
        ← zpow_add₀ (by norm_num)]
      refine zpow_le_zpow_right₀ (by norm_num) ?_
      have := le_max_left (k - 53) minExponent
      omega
    rw [hstep]
    constructor
    · linarith
    · right
      linarith

/-- The first quotient that is too great to be rounded to a finite number: the middle between
the greatest number and the next power of two. -/
def overflow : ℚ := (2 ^ 54 - 1) * 2 ^ (970 : Int)

/-- In units of the greatest exponent, numbers that are too great begin at `2 ^ 53 - 1 / 2`. -/
theorem overflow_eq : overflow = (2 ^ 53 - 1 / 2) * 2 ^ (971 : Int) := by
  rw [overflow, show (971 : Int) = 970 + 1 from rfl, zpow_add_one₀ (by norm_num)]
  ring

/-- The bound is a natural number. -/
theorem natCast_overflow : (((2 ^ 54 - 1) * 2 ^ 970 : Nat) : ℚ) = overflow := by
  have hfactor : ((2 ^ 54 - 1 : Nat) : ℚ) = 2 ^ 54 - 1 := by norm_num
  rw [overflow, show (970 : Int) = (970 : Nat) from rfl, zpow_natCast, Nat.cast_mul,
    Nat.cast_pow, hfactor, Nat.cast_ofNat]

/-- What is below the bound among the natural numbers is below it. -/
theorem lt_overflow {n : Nat} (h : n < (2 ^ 54 - 1) * 2 ^ 970) : (n : ℚ) < overflow := by
  rw [← natCast_overflow]
  exact_mod_cast h

/-- What is above it among them is above it. -/
theorem overflow_lt {n : Nat} (h : (2 ^ 54 - 1) * 2 ^ 970 < n) : overflow < n := by
  rw [← natCast_overflow]
  exact_mod_cast h

/-- Numbers with a greater exponent than the greatest one are too great. -/
theorem overflow_le {x : ℚ} {e : Int} (he : maxExponent < e) (hx : 2 ^ 52 ≤ x) :
    overflow ≤ x * 2 ^ e := by
  have hpow : (2 : ℚ) ^ (972 : Int) ≤ 2 ^ e :=
    zpow_le_zpow_right₀ (by norm_num) (by have : maxExponent = 971 := rfl; omega)
  have hnext : (2 : ℚ) ^ (972 : Int) = 2 * 2 ^ (971 : Int) := by
    rw [show (972 : Int) = 971 + 1 from rfl, zpow_add_one₀ (by norm_num), mul_comm]
  have hunit : (0 : ℚ) < 2 ^ (971 : Int) := by positivity
  calc overflow = (2 ^ 53 - 1 / 2) * 2 ^ (971 : Int) := overflow_eq
    _ ≤ 2 ^ 52 * 2 * 2 ^ (971 : Int) := mul_le_mul_of_nonneg_right (by norm_num) hunit.le
    _ = 2 ^ 52 * 2 ^ (972 : Int) := by rw [hnext, mul_assoc]
    _ ≤ x * 2 ^ e := mul_le_mul hx hpow (by positivity) (by linarith)

/-- A number with one of the least exponents is less than one. -/
theorem lt_one_of_least {x : ℚ} {e : Int} (he : e ≤ minExponent + 1) (hx : x < 2 ^ 53) :
    x * 2 ^ e < 1 := by
  have hpow : (2 : ℚ) ^ e ≤ 2 ^ (-53 : Int) :=
    zpow_le_zpow_right₀ (by norm_num) (by have : minExponent = -1074 := rfl; omega)
  have hone : (2 : ℚ) ^ 53 * 2 ^ (-53 : Int) = 1 := by
    rw [zpow_neg, show (53 : Int) = (53 : Nat) from rfl, zpow_natCast]
    exact mul_inv_cancel₀ (by positivity)
  calc x * 2 ^ e < 2 ^ 53 * 2 ^ e := mul_lt_mul_of_pos_right hx (by positivity)
    _ ≤ 2 ^ 53 * 2 ^ (-53 : Int) := mul_le_mul_of_nonneg_left hpow (by positivity)
    _ = 1 := hone

/-- A quotient that is not too great is rounded to a finite number. If it is at least one, the
number is greater by the factor `1 + 2 ^ -53` at most. -/
theorem ofRatio_finite (negative : Bool) (num : Nat) {den : Nat} (hden : 0 < den)
    (hlt : (num : ℚ) / den < overflow) :
    ∃ m e, ofRatio negative num den = .finite negative m e ∧
      (1 ≤ (num : ℚ) / den → (m : ℚ) * 2 ^ e ≤ num / den * (1 + 1 / 2 ^ 53)) := by
  rcases Nat.eq_zero_or_pos num with rfl | hnum
  · exact ⟨0, minExponent, by simp [ofRatio], by simp⟩
  obtain ⟨hbelow, hnormal⟩ := exponentFor_spec hnum hden
  obtain ⟨hpos, hratio⟩ := scaled_div num hden (exponentFor num den)
  obtain ⟨hround₁, hround₂⟩ :=
    roundHalfEven_bounds (scaled num den (exponentFor num den)).1 hpos
  rw [hratio, ← significandFor] at hround₁ hround₂
  rw [ofRatio_eq negative hnum.ne' den]
  set e := exponentFor num den with he
  set m := significandFor num den with hm
  have hpow : (0 : ℚ) < 2 ^ e := by positivity
  have hunits : (num : ℚ) / den / 2 ^ e * 2 ^ e = num / den := div_mul_cancel₀ _ hpow.ne'
  -- A greater exponent would make the quotient too great.
  have hexp : e ≤ maxExponent := by
    rcases hnormal with hle | hge
    · exact hle.trans (by decide)
    · by_contra hgt
      have := overflow_le (not_le.1 hgt) hge
      rw [hunits] at this
      linarith
  -- Half a unit of the last place is relative to a significand of 53 bits, which a number of at
  -- least one has.
  have hgrow : 1 ≤ (num : ℚ) / den → (m : ℚ) * 2 ^ e ≤ num / den * (1 + 1 / 2 ^ 53) := by
    intro hone
    have hge : 2 ^ 52 ≤ (num : ℚ) / den / 2 ^ e := by
      rcases hnormal with hle | hge
      · have := lt_one_of_least hle hbelow
        rw [hunits] at this
        linarith
      · exact hge
    have hunit : (2 : ℚ) ^ e ≤ num / den / 2 ^ 52 := by
      rw [le_div_iff₀ (by positivity), mul_comm]
      exact (le_div_iff₀ hpow).1 hge
    calc (m : ℚ) * 2 ^ e ≤ (num / den / 2 ^ e + 1 / 2) * 2 ^ e :=
          mul_le_mul_of_nonneg_right hround₂ hpow.le
      _ = num / den + 2 ^ e / 2 := by rw [add_mul, hunits]; ring
      _ ≤ num / den + num / den / 2 ^ 52 / 2 := by linarith
      _ = num / den * (1 + 1 / 2 ^ 53) := by ring
  by_cases hcarry : m = 2 ^ 53
  · -- Rounding up to the next power of two is overflow only beyond its bound.
    have hlast : e + 1 ≤ maxExponent := by
      by_contra hgt
      have h971 : e = 971 := by
        have : maxExponent = 971 := rfl
        omega
      have hfull : (2 : ℚ) ^ 53 - 1 / 2 ≤ num / den / 2 ^ e := by
        rw [hcarry] at hround₂
        push_cast at hround₂
        linarith
      have := mul_le_mul_of_nonneg_right hfull hpow.le
      rw [hunits, h971, ← overflow_eq] at this
      linarith
    rw [if_pos hcarry, if_neg (not_lt.2 hlast)]
    refine ⟨2 ^ 52, e + 1, rfl, fun hone => ?_⟩
    have := hgrow hone
    rw [hcarry] at this
    rw [zpow_add_one₀ (by norm_num)]
    push_cast at this ⊢
    linarith
  · rw [if_neg hcarry, if_neg (not_lt.2 hexp)]
    exact ⟨m, e, rfl, hgrow⟩

/-- A product that is not too great is finite. -/
theorem mul_finite (s t : Bool) {m n : Nat} {e f : Int}
    (hlt : (m : ℚ) * 2 ^ e * (n * 2 ^ f) < overflow) :
    ((finite s m e).mul (finite t n f)).isFinite = true := by
  obtain ⟨hden, hratio⟩ := ratio_div (m * n) (e + f)
  have hproduct : ((m * n : Nat) : ℚ) * 2 ^ (e + f) = m * 2 ^ e * (n * 2 ^ f) := by
    rw [zpow_add₀ (by norm_num)]
    push_cast
    ring
  rw [hproduct] at hratio
  rw [← hratio] at hlt
  obtain ⟨k, g, hk, -⟩ := ofRatio_finite (s != t) (ratio (m * n) (e + f)).1 hden hlt
  rw [mul]
  simp only [hk, isFinite]

end Double
end TaskQueue
