import TaskQueue.Text.Base64

/-!
# `TaskQueue.Proofs.Text.Base64`: bytes come back from Base64

`Base64.decode?_encode` says so of all bytes. A letter carries six bits, and `value?_letter` reads
them. Three bytes are 24 bits, which four letters hold exactly. Of one or two bytes at the end the
last letter holds fewer bits than it could, and the rest of it is zero, so the decoder takes it.
-/

set_option autoImplicit false

namespace TaskQueue.Base64

/-- There are 64 letters. -/
theorem letter_mod (n : Nat) : letter n = letter (n % 64) := by
  unfold letter
  rw [Nat.mod_mod]

/-- Each letter has the value that it was made of, and none is the padding. -/
theorem letter_forall : ∀ d < 64, value? (letter d) = some d ∧ letter d ≠ '=' := by decide

/-- A letter carries the last six bits of a number. -/
theorem value?_letter (n : Nat) : value? (letter n) = some (n % 64) := by
  rw [letter_mod]
  exact (letter_forall _ (Nat.mod_lt _ (by decide))).1

/-- No letter of the alphabet is the padding. -/
theorem letter_ne_padding (n : Nat) : letter n ≠ '=' := by
  rw [letter_mod]
  exact (letter_forall _ (Nat.mod_lt _ (by decide))).2

/-- A byte is what is left of a number that ends in it. -/
theorem ofNat_eq {n : Nat} {a : UInt8} (h : n % 256 = a.toNat) : UInt8.ofNat n = a := by
  refine UInt8.toNat_inj.1 ?_
  rw [UInt8.toNat_ofNat']
  exact h

/-- Four letters without padding are three bytes. -/
theorem decodeChars_group (n₁ n₂ n₃ n₄ : Nat) (rest : List Char) :
    decodeChars (letter n₁ :: letter n₂ :: letter n₃ :: letter n₄ :: rest) =
      (decodeChars rest).map fun bs =>
        let n := n₁ % 64 * 262144 + n₂ % 64 * 4096 + n₃ % 64 * 64 + n₄ % 64
        UInt8.ofNat (n / 65536) :: UInt8.ofNat (n / 256) :: UInt8.ofNat n :: bs := by
  rw [decodeChars]
  · simp only [value?_letter]
    cases decodeChars rest <;> rfl
  · intro h
    exact absurd h (letter_ne_padding n₃)
  · intro h
    exact absurd h (letter_ne_padding n₄)

/-- Three letters and one padding are two bytes, if the last two bits are zero. -/
theorem decodeChars_pair (n₁ n₂ n₃ : Nat)
    (h : (n₁ % 64 * 4096 + n₂ % 64 * 64 + n₃ % 64) % 4 = 0) :
    decodeChars [letter n₁, letter n₂, letter n₃, '='] =
      some [UInt8.ofNat ((n₁ % 64 * 4096 + n₂ % 64 * 64 + n₃ % 64) / 1024),
        UInt8.ofNat ((n₁ % 64 * 4096 + n₂ % 64 * 64 + n₃ % 64) / 4)] := by
  rw [decodeChars]
  · simp only [value?_letter]
    exact if_pos h
  · intro hpadding
    exact absurd hpadding (letter_ne_padding n₃)

/-- Two letters and two paddings are one byte, if the last four bits are zero. -/
theorem decodeChars_single (n₁ n₂ : Nat) (h : (n₁ % 64 * 64 + n₂ % 64) % 16 = 0) :
    decodeChars [letter n₁, letter n₂, '=', '='] =
      some [UInt8.ofNat ((n₁ % 64 * 64 + n₂ % 64) / 16)] := by
  rw [decodeChars]
  simp only [value?_letter]
  exact if_pos h

/-- Decoding undoes the encoding. -/
theorem decodeChars_encodeBytes (bs : Bytes) : decodeChars (encodeBytes bs) = some bs := by
  -- Induction in groups of three bytes, as they are written. Two or one may be left at the end.
  induction bs using encodeBytes.induct with
  | case1 a b c rest ih =>
    have ha := a.toNat_lt
    have hb := b.toNat_lt
    have hc := c.toNat_lt
    rw [encodeBytes, decodeChars_group, ih, Option.map_some]
    refine congrArg some ?_
    dsimp only
    rw [ofNat_eq (a := a) (by omega), ofNat_eq (a := b) (by omega), ofNat_eq (a := c) (by omega)]
  | case2 a b =>
    have ha := a.toNat_lt
    have hb := b.toNat_lt
    rw [encodeBytes, decodeChars_pair _ _ _ (by omega), ofNat_eq (a := a) (by omega),
      ofNat_eq (a := b) (by omega)]
  | case3 a =>
    have ha := a.toNat_lt
    rw [encodeBytes, decodeChars_single _ _ (by omega), ofNat_eq (a := a) (by omega)]
  | case4 => rfl

/-- All bytes come back. -/
theorem decode?_encode (bs : Bytes) : decode? (encode bs) = some bs := by
  rw [decode?, encode, String.toList_ofList, decodeChars_encodeBytes]

end TaskQueue.Base64
