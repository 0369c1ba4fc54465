import TaskQueue.Number.Shortest
import TaskQueue.Proofs.Number.Rounding

/-!
# `TaskQueue.Proofs.Number.Shortest`: how far the shortest digits can be off

The digits that `Double.shortest` finds for `m * 2 ^ e` are no zero, and they do not reach beyond
the middle between the number and the next one: `Double.shortest_spec`. Digits that read back
lie in the interval of the number, so for them this is `Double.readsBack_spec`. The search gives
up after 17 digits and takes the nearest decimal of 18. That is close enough too, because the
number begins with at least 17 of them: `Double.leadingExponent_le`.
-/

set_option autoImplicit false

namespace TaskQueue
namespace Double

/-! ## Powers of ten -/

/-- A power as a quotient of two powers of which one is trivial. -/
theorem zpow_eq_div (b : ℚ) (i : Int) : b ^ i = b ^ i.toNat / b ^ (-i).toNat := by
  rcases le_total 0 i with hi | hi
  · obtain ⟨n, rfl⟩ := Int.eq_ofNat_of_zero_le hi
    have hneg : (-(n : Int)).toNat = 0 := by omega
    rw [hneg, Int.toNat_natCast, pow_zero, div_one, zpow_natCast]
  · obtain ⟨n, hn⟩ := Int.eq_ofNat_of_zero_le (show 0 ≤ -i by omega)
    obtain rfl : i = -n := by omega
    have hpos : (-(n : Int)).toNat = 0 := by omega
    rw [hpos, neg_neg, Int.toNat_natCast, pow_zero, zpow_neg, zpow_natCast, one_div]

/-- The decimal digits of a positive number bound it from both sides. -/
theorem pow_length_le {n : Nat} (hn : 0 < n) :
    10 ^ ((Nat.toDigits 10 n).length - 1) ≤ n ∧ n < 10 ^ (Nat.toDigits 10 n).length := by
  have hlen : 0 < (Nat.toDigits 10 n).length := Nat.length_toDigits_pos
  constructor
  · rcases Nat.eq_zero_or_pos ((Nat.toDigits 10 n).length - 1) with h | h
    · rw [h]
      omega
    · by_contra hlt
      have := (Nat.length_toDigits_le_iff (by decide) h).2 (not_le.1 hlt)
      omega
  · exact (Nat.length_toDigits_le_iff (by decide) hlen).1 (Nat.le_refl _)

/-- The leading exponent is not too great by more than one. -/
theorem leadingExponent_le {num den : Nat} (hnum : 0 < num) (hden : 0 < den) :
    (10 : ℚ) ^ (leadingExponent num den - 1) ≤ num / den := by
  set k : Int := ((Nat.toDigits 10 num).length : Int) - (Nat.toDigits 10 den).length with hk
  have hlead : leadingExponent num den ≤ k := by
    unfold leadingExponent
    simp only [← hk]
    split <;> omega
  have hn : ((10 ^ ((Nat.toDigits 10 num).length - 1) : Nat) : ℚ) ≤ num := by
    exact_mod_cast (pow_length_le hnum).1
  have hd : (den : ℚ) ≤ (10 ^ (Nat.toDigits 10 den).length : Nat) := by
    exact_mod_cast (pow_length_le hden).2.le
  have hlen : 0 < (Nat.toDigits 10 num).length := Nat.length_toDigits_pos
  have hden' : (0 : ℚ) < den := by exact_mod_cast hden
  push_cast at hn hd
  rw [le_div_iff₀ hden']
  -- A number has as many digits as its length says, so the lengths estimate the quotient.
  calc (10 : ℚ) ^ (leadingExponent num den - 1) * den
      ≤ 10 ^ (k - 1) * 10 ^ (Nat.toDigits 10 den).length := by
        refine mul_le_mul (zpow_le_zpow_right₀ (by norm_num) (by omega)) hd hden'.le
          (by positivity)
    _ = 10 ^ ((Nat.toDigits 10 num).length - 1) := by
        rw [← zpow_natCast (10 : ℚ) (Nat.toDigits 10 den).length, ← zpow_add₀ (by norm_num),
          ← zpow_natCast (10 : ℚ) ((Nat.toDigits 10 num).length - 1)]
        congr 1
        rw [hk]
        push_cast [Nat.cast_sub hlen]
        ring
    _ ≤ num := hn

/-! ## Digits that read back -/

/-- Comparing a decimal with quarters of the last place compares the numbers. -/
theorem compareDecimal_spec (a : Nat) (i : Int) (b : Nat) (e : Int) :
    (compareDecimal a i b e ≠ .gt → (a : ℚ) * 10 ^ i ≤ b / 4 * 2 ^ e) ∧
      (compareDecimal a i b e ≠ .lt → (b : ℚ) / 4 * 2 ^ e ≤ a * 10 ^ i) := by
  have hten : (0 : ℚ) < 10 ^ (-i).toNat := by positivity
  have htwo : (0 : ℚ) < 2 ^ (-e).toNat := by positivity
  -- Powers with negative exponents go to the other side, since it is naturals that are compared.
  have hcmp : ∀ x y : ℚ, x / 10 ^ (-i).toNat ≤ y / 2 ^ (-e).toNat ↔
      x * 2 ^ (-e).toNat ≤ y * 10 ^ (-i).toNat := fun x y => div_le_div_iff₀ hten htwo
  have hcmp' : ∀ x y : ℚ, y / 2 ^ (-e).toNat ≤ x / 10 ^ (-i).toNat ↔
      y * 10 ^ (-i).toNat ≤ x * 2 ^ (-e).toNat := fun x y => div_le_div_iff₀ htwo hten
  rw [zpow_eq_div 10 i, zpow_eq_div 2 e, ← mul_div_assoc, ← mul_div_assoc, hcmp, hcmp',
    compareDecimal]
  constructor
  · intro h
    have hle : ((4 * a * 10 ^ i.toNat * 2 ^ (-e).toNat : Nat) : ℚ) ≤
        (b * 10 ^ (-i).toNat * 2 ^ e.toNat : Nat) := by exact_mod_cast Nat.compare_ne_gt.1 h
    push_cast at hle
    linarith
  · intro h
    have hle : ((b * 10 ^ (-i).toNat * 2 ^ e.toNat : Nat) : ℚ) ≤
        (4 * a * 10 ^ i.toNat * 2 ^ (-e).toNat : Nat) := by exact_mod_cast Nat.compare_ne_lt.1 h
    push_cast at hle
    linarith

/-- The decimal is positive, and it does not reach beyond the middle between the number and the
next one. -/
def Near (m : Nat) (e : Int) (a : Nat) (i : Int) : Prop :=
  0 < a ∧ (a : ℚ) * 10 ^ i ≤ (m + 1 / 2) * 2 ^ e

/-- Digits that read back are near. -/
theorem readsBack_near {m : Nat} (hm : 0 < m) {e : Int} {a : Nat} {i : Int}
    (h : readsBack m e a i = true) : Near m e a i := by
  obtain ⟨lo, hi, hlo, hhi, hinterval⟩ :
      ∃ lo hi, 0 < lo ∧ hi = 4 * m + 2 ∧ interval m e = (lo, hi) := by
    unfold interval
    split
    · exact ⟨_, _, by omega, rfl, rfl⟩
    · exact ⟨_, _, by omega, rfl, rfl⟩
  -- Digits on an end of the interval read back only if the significand is even. They are near in
  -- any case.
  have hends : compareDecimal a i lo e ≠ .lt ∧ compareDecimal a i hi e ≠ .gt := by
    simp only [readsBack, hinterval] at h
    split at h
    · simpa using h
    · simp only [Bool.and_eq_true, beq_iff_eq] at h
      rw [h.1, h.2]
      exact ⟨by decide, by decide⟩
  constructor
  · have hle := (compareDecimal_spec a i lo e).2 hends.1
    have hlo' : (0 : ℚ) < lo := by exact_mod_cast hlo
    have hpos : (0 : ℚ) < lo / 4 * 2 ^ e := by positivity
    rcases Nat.eq_zero_or_pos a with rfl | ha
    · rw [Nat.cast_zero, zero_mul] at hle
      linarith
    · exact ha
  · have hle := (compareDecimal_spec a i hi e).1 hends.2
    rw [hhi] at hle
    push_cast at hle
    linarith

/-! ## The search -/

/-- The nearer neighbour on a grid is the quotient by a unit of the last digit, rounded. -/
theorem neighbours_fst (m : Nat) (e i : Int) :
    (neighbours m e i).1 = roundHalfEven (m * 10 ^ (-i).toNat * 2 ^ e.toNat)
      (10 ^ i.toNat * 2 ^ (-e).toNat) := by
  unfold neighbours roundHalfEven
  simp only [Nat.pow_eq]
  split
  · rfl
  split
  · rfl
  split <;> rfl

/-- The nearer neighbour on a grid is off by half a unit of the last digit at most. -/
theorem neighbours_bounds (m : Nat) (e i : Int) :
    (m : ℚ) * 2 ^ e - 10 ^ i / 2 ≤ (neighbours m e i).1 * 10 ^ i ∧
      ((neighbours m e i).1 : ℚ) * 10 ^ i ≤ m * 2 ^ e + 10 ^ i / 2 := by
  have hden : 0 < 10 ^ i.toNat * 2 ^ (-e).toNat := by positivity
  obtain ⟨hlow, hhigh⟩ := roundHalfEven_bounds (m * 10 ^ (-i).toNat * 2 ^ e.toNat) hden
  have hpow : (0 : ℚ) < 10 ^ i := by positivity
  -- In units of `10 ^ i` the number is the quotient that is rounded.
  have hquotient : ((m * 10 ^ (-i).toNat * 2 ^ e.toNat : Nat) : ℚ) /
      (10 ^ i.toNat * 2 ^ (-e).toNat : Nat) * 10 ^ i = m * 2 ^ e := by
    rw [zpow_eq_div 10 i, zpow_eq_div 2 e]
    push_cast
    field_simp
  rw [← neighbours_fst] at hlow hhigh
  have h₁ := mul_le_mul_of_nonneg_right hlow hpow.le
  have h₂ := mul_le_mul_of_nonneg_right hhigh hpow.le
  rw [sub_mul, hquotient] at h₁
  rw [add_mul, hquotient] at h₂
  constructor <;> linarith

/-- The nearer neighbour of 18 digits is near. -/
theorem neighbours_near {m : Nat} (hm : m < 2 ^ 53) {e lead : Int}
    (hlead : (10 : ℚ) ^ (lead - 1) ≤ m * 2 ^ e) :
    Near m e (neighbours m e (lead - 17)).1 (lead - 17) := by
  obtain ⟨hlow, hhigh⟩ := neighbours_bounds m e (lead - 17)
  have hpow : (0 : ℚ) < 10 ^ (lead - 17) := by positivity
  have hsplit : (10 : ℚ) ^ (lead - 1) = 10 ^ 16 * 10 ^ (lead - 17) := by
    rw [show lead - 1 = 16 + (lead - 17) by ring, zpow_add₀ (by norm_num)]
    rfl
  -- A significand has 53 bits, and 10 ^ 16 is more than 2 ^ 53: half a unit of the eighteenth
  -- digit is less than half a unit of the last place.
  have hunit : (m : ℚ) * 2 ^ e < 2 ^ 53 * 2 ^ e :=
    mul_lt_mul_of_pos_right (by exact_mod_cast hm) (by positivity)
  rw [hsplit] at hlead
  constructor
  · have hpos : (0 : ℚ) < (neighbours m e (lead - 17)).1 * 10 ^ (lead - 17) := by linarith
    rcases Nat.eq_zero_or_pos (neighbours m e (lead - 17)).1 with h | h
    · rw [h, Nat.cast_zero, zero_mul] at hpos
      exact absurd hpos (lt_irrefl 0)
    · exact h
  · linarith

/-- What the search finds is near. -/
theorem searchDigits_near {m : Nat} (hpos : 0 < m) (hm : m < 2 ^ 53) {e lead : Int}
    (hlead : (10 : ℚ) ^ (lead - 1) ≤ m * 2 ^ e) (tries n : Nat) (hn : tries + n = 18) :
    Near m e (searchDigits m e lead tries n).1 (searchDigits m e lead tries n).2 := by
  -- The digits are counted upwards while the tries go down, and together they are always 18. The
  -- last try takes the nearer neighbour unseen.
  induction tries generalizing n with
  | zero =>
    obtain rfl : n = 18 := by omega
    have h17 : lead + 1 - ((18 : Nat) : Int) = lead - 17 := by
      push_cast
      ring
    rw [searchDigits, h17]
    exact neighbours_near hm hlead
  | succ tries ih =>
    rw [searchDigits]
    simp only
    split
    · rename_i h
      exact readsBack_near hpos h
    split
    · rename_i h
      exact readsBack_near hpos h
    · exact ih (n + 1) (by omega)

/-- Dropping zeros at the end does not change the decimal. -/
theorem dropZeros_near {m : Nat} {e : Int} (tries : Nat) {d : Nat} {i : Int}
    (h : Near m e d i) : Near m e (dropZeros tries d i).1 (dropZeros tries d i).2 := by
  induction tries generalizing d i with
  | zero => exact h
  | succ tries ih =>
    rw [dropZeros]
    split
    · rename_i hd
      refine ih ⟨by omega, ?_⟩
      -- The last digit is zero, so nothing is lost.
      have hten : ((d / 10 : Nat) : ℚ) * 10 = d := by exact_mod_cast (show d / 10 * 10 = d by omega)
      calc ((d / 10 : Nat) : ℚ) * 10 ^ (i + 1) = (d / 10 : Nat) * 10 * 10 ^ i := by
            rw [zpow_add_one₀ (by norm_num)]
            ring
        _ = d * 10 ^ i := by rw [hten]
        _ ≤ (m + 1 / 2) * 2 ^ e := h.2
    · exact h

/-- The shortest decimal of a number is near. Its exponent is that of the first digit. -/
theorem shortest_near {m : Nat} (hpos : 0 < m) (hm : m < 2 ^ 53) (e : Int) :
    Near m e (shortest m e).digits
      ((shortest m e).exponent + 1 - (Nat.toDigits 10 (shortest m e).digits).length) := by
  obtain ⟨hden, hratio⟩ := ratio_div m e
  have hvalue : (0 : ℚ) < m * 2 ^ e := by positivity
  have hnum : 0 < (ratio m e).1 := by
    rcases Nat.eq_zero_or_pos (ratio m e).1 with h | h
    · rw [h, Nat.cast_zero, zero_div] at hratio
      linarith
    · exact h
  have hlead := leadingExponent_le hnum hden
  rw [hratio] at hlead
  -- The search stays near the number, and so does dropping the zeros at the end.
  have hnear := dropZeros_near 20 (searchDigits_near hpos hm hlead 17 1 rfl)
  simp only [shortest, hpos.ne', if_false]
  convert hnear using 1
  ring

end Double
end TaskQueue
