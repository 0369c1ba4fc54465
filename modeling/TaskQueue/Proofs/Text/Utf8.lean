import TaskQueue.Text.Utf8

/-!
# `TaskQueue.Proofs.Text.Utf8`: a text survives as bytes

`Utf8.pieces_encode` says that the UTF-8 form of a text is read back as its characters, with no
stray among them. The proof goes character by character: `Utf8.piecesFrom_encodeChar` reads one
character off the front and is ready for the next. It looks at the four lengths of a character;
that no byte inside is taken for the end is `Utf8.continues_of`.
-/

set_option autoImplicit false

namespace TaskQueue
namespace Utf8

/-- The value of a byte made from a small number. -/
theorem toNat_ofNat {n : Nat} (h : n < 256) : (UInt8.ofNat n).toNat = n := by
  rw [UInt8.toNat_ofNat', Nat.mod_eq_of_lt h]

/-- The value of a continuation byte. -/
theorem toNat_tail (n : Nat) : (tail n).toNat = 128 + n % 64 := toNat_ofNat (by omega)

/-- Lying between two bytes is a matter of the values. -/
theorem within_iff {lo hi b : UInt8} :
    within lo hi b = true ↔ lo.toNat ≤ b.toNat ∧ b.toNat ≤ hi.toNat := by
  simp [within, UInt8.le_iff_toNat_le]

/-- A byte can follow others if it carries six bits and, as the second one, obeys the bounds for
the first. -/
theorem continues_of {a b : UInt8} {held : Bytes} (hb : 128 ≤ b.toNat ∧ b.toNat ≤ 191)
    (hE0 : a.toNat = 0xE0 → held = [] → 0xA0 ≤ b.toNat)
    (hED : a.toNat = 0xED → held = [] → b.toNat ≤ 0x9F)
    (hF0 : a.toNat = 0xF0 → held = [] → 0x90 ≤ b.toNat)
    (hF4 : a.toNat = 0xF4 → held = [] → b.toNat ≤ 0x8F) : continues (a :: held) b = true := by
  unfold continues
  -- Only the second byte after four of the lead bytes has bounds of its own.
  split
  · rename_i h
    cases h
    exact within_iff.2 ⟨hE0 rfl rfl, hb.2⟩
  · rename_i h
    cases h
    exact within_iff.2 ⟨hb.1, hED rfl rfl⟩
  · rename_i h
    cases h
    exact within_iff.2 ⟨hF0 rfl rfl, hb.2⟩
  · rename_i h
    cases h
    exact within_iff.2 ⟨hb.1, hF4 rfl rfl⟩
  · exact within_iff.2 hb
  · rename_i h
    cases h

/-- A character is no surrogate, and it is not too great. -/
theorem toNat_valid (c : Char) :
    c.toNat < 0xD800 ∨ 0xDFFF < c.toNat ∧ c.toNat < 0x110000 := c.valid

/-! ## Reading byte by byte -/

/-- The first byte of a longer character is held. -/
theorem piecesFrom_lead {a : UInt8} (rest : Bytes) (ha : 0xC2 ≤ a.toNat ∧ a.toNat ≤ 0xF4) :
    piecesFrom [] (a :: rest) = piecesFrom [a] rest := by
  have hlow : ¬ a < 0x80 := by
    rw [UInt8.lt_iff_toNat_lt]
    exact Nat.not_lt.2 (Nat.le_trans (by decide) ha.1)
  have hlead : isLead a = true := within_iff.2 ha
  simp [piecesFrom, continues, abandoned, hlow, hlead]

/-- A byte that continues an unfinished character is held with the others. -/
theorem piecesFrom_hold {held : Bytes} {b : UInt8} (rest : Bytes)
    (hc : continues held b = true) (hf : finished? (held ++ [b]) = none) :
    piecesFrom held (b :: rest) = piecesFrom (held ++ [b]) rest := by
  simp [piecesFrom, hc, hf]

/-- A byte that finishes a character gives it out. -/
theorem piecesFrom_finish {held : Bytes} {b : UInt8} {c : Char} (rest : Bytes)
    (hc : continues held b = true) (hf : finished? (held ++ [b]) = some c) :
    piecesFrom held (b :: rest) = .char c :: piecesFrom [] rest := by
  simp [piecesFrom, hc, hf]

/-- Two bytes make a character. -/
theorem piecesFrom_two {a b : UInt8} (rest : Bytes) (ha : 0xC2 ≤ a.toNat ∧ a.toNat ≤ 0xDF)
    (hb : 128 ≤ b.toNat ∧ b.toNat ≤ 191) :
    piecesFrom [] (a :: b :: rest) =
      .char (Char.ofNat (a.toNat % 32 * 64 + payload b)) :: piecesFrom [] rest := by
  have hlead : within 0xC2 0xDF a = true := within_iff.2 ha
  have hcont : continues [a] b = true :=
    continues_of hb (by omega) (by omega) (by omega) (by omega)
  have hfin : finished? ([a] ++ [b]) = some (Char.ofNat (a.toNat % 32 * 64 + payload b)) := by
    simp only [List.cons_append, List.nil_append, finished?, hlead, if_true]
  rw [piecesFrom_lead _ (by omega), piecesFrom_finish rest hcont hfin]

/-- Three bytes make a character. -/
theorem piecesFrom_three {a b c : UInt8} (rest : Bytes) (ha : 0xE0 ≤ a.toNat ∧ a.toNat ≤ 0xEF)
    (hb : 128 ≤ b.toNat ∧ b.toNat ≤ 191) (hc : 128 ≤ c.toNat ∧ c.toNat ≤ 191)
    (hE0 : a.toNat = 0xE0 → 0xA0 ≤ b.toNat) (hED : a.toNat = 0xED → b.toNat ≤ 0x9F) :
    piecesFrom [] (a :: b :: c :: rest) =
      .char (Char.ofNat (a.toNat % 16 * 4096 + payload b * 64 + payload c)) ::
        piecesFrom [] rest := by
  -- The lead byte tells that two bytes are not enough.
  have htwo : ¬ within 0xC2 0xDF a = true := by
    rw [within_iff]
    exact fun h => absurd h.2 (by show ¬ a.toNat ≤ 223; omega)
  have hlead : within 0xE0 0xEF a = true := within_iff.2 ha
  have hcont₁ : continues [a] b = true :=
    continues_of hb (fun h _ => hE0 h) (fun h _ => hED h) (by omega) (by omega)
  have hcont₂ : continues ([a] ++ [b]) c = true :=
    continues_of hc nofun nofun nofun nofun
  have hfin₁ : finished? ([a] ++ [b]) = none := by
    simp only [List.cons_append, List.nil_append, finished?, htwo, if_false, Bool.false_eq_true]
  have hfin₂ : finished? ([a] ++ [b] ++ [c]) =
      some (Char.ofNat (a.toNat % 16 * 4096 + payload b * 64 + payload c)) := by
    simp only [List.cons_append, List.nil_append, finished?, hlead, if_true]
  rw [piecesFrom_lead _ (by omega), piecesFrom_hold _ hcont₁ hfin₁,
    piecesFrom_finish rest hcont₂ hfin₂]

/-- Four bytes make a character. -/
theorem piecesFrom_four {a b c d : UInt8} (rest : Bytes)
    (ha : 0xF0 ≤ a.toNat ∧ a.toNat ≤ 0xF4) (hb : 128 ≤ b.toNat ∧ b.toNat ≤ 191)
    (hc : 128 ≤ c.toNat ∧ c.toNat ≤ 191) (hd : 128 ≤ d.toNat ∧ d.toNat ≤ 191)
    (hF0 : a.toNat = 0xF0 → 0x90 ≤ b.toNat) (hF4 : a.toNat = 0xF4 → b.toNat ≤ 0x8F) :
    piecesFrom [] (a :: b :: c :: d :: rest) =
      .char (Char.ofNat
        (a.toNat % 8 * 262144 + payload b * 4096 + payload c * 64 + payload d)) ::
        piecesFrom [] rest := by
  -- Neither two nor three bytes are enough for this lead byte.
  have htwo : ¬ within 0xC2 0xDF a = true := by
    rw [within_iff]
    exact fun h => absurd h.2 (by show ¬ a.toNat ≤ 223; omega)
  have hthree : ¬ within 0xE0 0xEF a = true := by
    rw [within_iff]
    exact fun h => absurd h.2 (by show ¬ a.toNat ≤ 239; omega)
  have hcont₁ : continues [a] b = true :=
    continues_of hb (by omega) (by omega) (fun h _ => hF0 h) (fun h _ => hF4 h)
  have hcont₂ : continues ([a] ++ [b]) c = true :=
    continues_of hc nofun nofun nofun nofun
  have hcont₃ : continues ([a] ++ [b] ++ [c]) d = true :=
    continues_of hd nofun nofun nofun nofun
  have hfin₁ : finished? ([a] ++ [b]) = none := by
    simp only [List.cons_append, List.nil_append, finished?, htwo, if_false, Bool.false_eq_true]
  have hfin₂ : finished? ([a] ++ [b] ++ [c]) = none := by
    simp only [List.cons_append, List.nil_append, finished?, hthree, if_false,
      Bool.false_eq_true]
  rw [piecesFrom_lead _ (by omega), piecesFrom_hold _ hcont₁ hfin₁,
    piecesFrom_hold _ hcont₂ hfin₂, piecesFrom_finish rest hcont₃ rfl]

/-- The bytes of a character are read as that character. -/
theorem piecesFrom_encodeChar (c : Char) (rest : Bytes) :
    piecesFrom [] (encodeChar c ++ rest) = .char c :: piecesFrom [] rest := by
  have hvalid := toNat_valid c
  have hback : Char.ofNat c.toNat = c := Char.ofNat_toNat c
  unfold encodeChar
  simp only
  -- The four lengths. In each, the bounds on the second byte hold since the character is no
  -- surrogate and not too great, and the payloads add up to its code.
  split
  · rename_i h₁
    have hn : (UInt8.ofNat c.toNat).toNat = c.toNat := toNat_ofNat (by omega)
    have hlow : UInt8.ofNat c.toNat < 0x80 := by
      rw [UInt8.lt_iff_toNat_lt, hn]
      exact h₁
    simp [piecesFrom, continues, abandoned, hlow, hn, hback]
  have hd := toNat_tail c.toNat
  have hc := toNat_tail (c.toNat / 64)
  have hb := toNat_tail (c.toNat / 4096)
  split
  · rename_i h₁ h₂
    have ha : (UInt8.ofNat (0xC0 + c.toNat / 64)).toNat = 0xC0 + c.toNat / 64 :=
      toNat_ofNat (by omega)
    have hsum : (0xC0 + c.toNat / 64) % 32 * 64 + (128 + c.toNat % 64) % 64 = c.toNat := by
      omega
    rw [List.cons_append, List.cons_append, List.nil_append,
      piecesFrom_two rest (by omega) (by omega), payload, ha, hd, hsum, hback]
  split
  · rename_i h₁ h₂ h₃
    have ha : (UInt8.ofNat (0xE0 + c.toNat / 4096)).toNat = 0xE0 + c.toNat / 4096 :=
      toNat_ofNat (by omega)
    have hsum : (0xE0 + c.toNat / 4096) % 16 * 4096 + (128 + c.toNat / 64 % 64) % 64 * 64 +
        (128 + c.toNat % 64) % 64 = c.toNat := by
      omega
    rw [List.cons_append, List.cons_append, List.cons_append, List.nil_append,
      piecesFrom_three rest (by omega) (by omega) (by omega) (by omega) (by omega), payload,
      payload, ha, hc, hd, hsum, hback]
  · rename_i h₁ h₂ h₃
    have ha : (UInt8.ofNat (0xF0 + c.toNat / 262144)).toNat = 0xF0 + c.toNat / 262144 :=
      toNat_ofNat (by omega)
    have hsum : (0xF0 + c.toNat / 262144) % 8 * 262144 +
        (128 + c.toNat / 4096 % 64) % 64 * 4096 + (128 + c.toNat / 64 % 64) % 64 * 64 +
        (128 + c.toNat % 64) % 64 = c.toNat := by
      omega
    rw [List.cons_append, List.cons_append, List.cons_append, List.cons_append, List.nil_append,
      piecesFrom_four rest (by omega) (by omega) (by omega) (by omega) (by omega) (by omega),
      payload, payload, payload, ha, hb, hc, hd, hsum, hback]

/-- The bytes of characters are read as these characters. -/
theorem piecesFrom_encodeChars (cs : List Char) (rest : Bytes) :
    piecesFrom [] (encodeChars cs ++ rest) = cs.map .char ++ piecesFrom [] rest := by
  induction cs with
  | nil => rfl
  | cons c cs ih =>
    rw [encodeChars, List.flatMap_cons, List.append_assoc, piecesFrom_encodeChar, ← encodeChars,
      ih, List.map_cons, List.cons_append]

/-- The bytes of a text are read as its characters. -/
theorem pieces_encode (s : String) : pieces (encode s) = s.toList.map .char := by
  have h := piecesFrom_encodeChars s.toList []
  rw [List.append_nil, piecesFrom, abandoned] at h
  simpa [pieces, encode] using h

end Utf8
end TaskQueue
