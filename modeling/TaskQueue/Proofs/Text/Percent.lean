import TaskQueue.Proofs.Text.Utf8
import TaskQueue.Text.Percent

/-!
# `TaskQueue.Proofs.Text.Percent`: what is escaped comes back

`Percent.decodeChars_encodeBytes` says that bytes come back from their escapes, whatever bytes they
are and whichever of ASCII are let through. It goes byte by byte, with a rest left over, since a
`%` of the escapes is always followed by its own two digits. So a text comes back from its escapes
too (`Percent.decode_encode`).

The escapes of a text are made of ASCII letters, ASCII digits and `%` alone (`Percent.IsEscaped`).
This is all that a reader of URLs has to know of them.
-/

set_option autoImplicit false

namespace TaskQueue

/-- Small numbers are the codes of characters. -/
theorem toNat_ofNat_ascii {n : Nat} (h : n < 128) : (Char.ofNat n).toNat = n :=
  (by decide : ∀ n < 128, (Char.ofNat n).toNat = n) n h

namespace Utf8

/-- A text is read from its own bytes, with nothing to be shown for strays. -/
theorem decodeLossy_encode (s : String) : decodeLossy (encode s) = s := by
  simp only [decodeLossy, pieces_encode, List.map_map]
  exact (congrArg String.ofList (List.map_id _)).trans (String.ofList_toList)

/-- Different strings are encoded differently. -/
theorem encode_injective {s t : String} (h : encode s = encode t) : s = t := by
  rw [← decodeLossy_encode s, h, decodeLossy_encode]

/-- An ASCII character is the byte of its code. -/
theorem encodeChar_ascii {c : Char} (h : c.toNat < 128) : encodeChar c = [UInt8.ofNat c.toNat] :=
  if_pos h

/-- No byte of a longer character is one of ASCII. -/
theorem le_of_mem_encodeChar {c : Char} (h : ¬ c.toNat < 128) :
    ∀ b ∈ encodeChar c, 128 ≤ b.toNat := by
  have hvalid := toNat_valid c
  have htail : ∀ n, 128 ≤ (tail n).toNat := by
    intro n
    rw [toNat_tail]
    exact Nat.le_add_right _ _
  have hlead : ∀ n, 128 ≤ n → n < 256 → 128 ≤ (UInt8.ofNat n).toNat := by
    intro n hn hsmall
    rwa [toNat_ofNat hsmall]
  unfold encodeChar
  simp only
  rw [if_neg h]
  -- The lead bytes for two, three and four bytes begin at 192, 224 and 240.
  split
  · simp only [List.forall_mem_cons, htail, List.not_mem_nil, false_imp_iff, implies_true,
      and_true]
    exact hlead _ (by omega) (by omega)
  split
  · simp only [List.forall_mem_cons, htail, List.not_mem_nil, false_imp_iff, implies_true,
      and_true]
    exact hlead _ (by omega) (by omega)
  · simp only [List.forall_mem_cons, htail, List.not_mem_nil, false_imp_iff, implies_true,
      and_true]
    exact hlead _ (by omega) (by omega)

/-- Bytes of ASCII stand for themselves only. -/
theorem ofNat_of_mem_encodeChar {c : Char} {b : UInt8} (hb : b ∈ encodeChar c)
    (hascii : b.toNat < 128) : Char.ofNat b.toNat = c := by
  by_cases hc : c.toNat < 128
  · rw [encodeChar_ascii hc, List.mem_singleton] at hb
    rw [hb, toNat_ofNat (by omega), Char.ofNat_toNat]
  · exact absurd (le_of_mem_encodeChar hc b hb) (Nat.not_le.2 hascii)

end Utf8

namespace Percent

/-! ## Hexadecimal digits -/

/-- A hexadecimal digit depends on the number modulo sixteen. -/
theorem hexDigit_mod (n : Nat) : hexDigit (n % 16) = hexDigit n := by
  simp only [hexDigit, Nat.mod_mod]

/-- A fact about hexadecimal digits is one about sixteen of them. -/
theorem hexDigit_forall {P : Nat → Char → Prop} (h : ∀ d < 16, P d (hexDigit d)) (n : Nat) :
    P (n % 16) (hexDigit n) := by
  rw [← hexDigit_mod]
  exact h _ (Nat.mod_lt _ (by decide))

/-- A hexadecimal digit is read back as its value. -/
theorem hexValue?_hexDigit (n : Nat) : hexValue? (hexDigit n) = some (n % 16) :=
  hexDigit_forall (P := fun d c => hexValue? c = some d) (by decide) n

/-- A hexadecimal digit is a letter or a digit. -/
theorem isAlphanum_hexDigit (n : Nat) : (hexDigit n).isAlphanum = true :=
  hexDigit_forall (P := fun _ c => c.isAlphanum = true) (by decide) n

/-! ## Escapes -/

/-- A character as it stands in an escaped text. -/
def IsEscaped (c : Char) : Prop := c.isAlphanum = true ∨ c = '%'

/-- An escape is a percent sign and hexadecimal digits. -/
theorem isEscaped_escape (b : UInt8) : ∀ c ∈ escape b, IsEscaped c := by
  intro c hc
  simp only [escape, List.mem_cons, List.not_mem_nil, or_false] at hc
  rcases hc with rfl | rfl | rfl
  · exact .inr rfl
  · exact .inl (isAlphanum_hexDigit _)
  · exact .inl (isAlphanum_hexDigit _)

/-- The bytes that are let through are those of ASCII letters and digits. -/
theorem isAlphanumeric_ascii {b : UInt8} (h : isAlphanumeric b = true) : b.toNat < 128 := by
  simp only [isAlphanumeric, Bool.or_eq_true, Utf8.within_iff] at h
  rcases h with (h | h) | h
  all_goals exact Nat.lt_of_le_of_lt h.2 (by decide)

/-- A byte that is left as it is stands for a letter or a digit. -/
theorem isAlphanum_of_plain {b : UInt8} (h : isAlphanumeric b = true) :
    (Char.ofNat b.toNat).isAlphanum = true := by
  have hall : ∀ n < 128, isAlphanumeric (UInt8.ofNat n) = true →
      (Char.ofNat n).isAlphanum = true := by decide
  exact hall _ (isAlphanumeric_ascii h) (by rwa [UInt8.ofNat_toNat])

/-- Encoded bytes are letters, digits and escapes. -/
theorem isEscaped_encodeBytes (bs : Bytes) :
    ∀ c ∈ encodeBytes isAlphanumeric bs, IsEscaped c := by
  intro c hc
  obtain ⟨b, -, hc⟩ := List.mem_flatMap.1 hc
  split at hc
  · rename_i hplain
    rw [List.mem_singleton.1 hc]
    exact .inl (isAlphanum_of_plain hplain)
  · exact isEscaped_escape b c hc

/-! ## Back again -/

/-- An escape is decoded as its byte. -/
theorem decodeChars_escape (b : UInt8) (rest : List Char) :
    decodeChars (escape b ++ rest) = b :: decodeChars rest := by
  have hb : b.toNat < 256 := b.toNat_lt
  have hvalue : b.toNat / 16 % 16 * 16 + b.toNat % 16 = b.toNat := by omega
  simp only [escape, List.cons_append, List.nil_append, decodeChars, hexValue?_hexDigit, hvalue,
    UInt8.ofNat_toNat]

/-- Any other character is decoded as its bytes. -/
theorem decodeChars_cons {c : Char} (h : c ≠ '%') (rest : List Char) :
    decodeChars (c :: rest) = Utf8.encodeChar c ++ decodeChars rest := by
  rw [decodeChars]
  rintro a b rest' rfl
  exact absurd rfl h

/-- A byte of ASCII but `%` stands for itself. -/
theorem decodeChars_plain {b : UInt8} (hascii : b.toNat < 128) (hpercent : b ≠ 0x25)
    (rest : List Char) : decodeChars (Char.ofNat b.toNat :: rest) = b :: decodeChars rest := by
  have hnat := toNat_ofNat_ascii hascii
  rw [decodeChars_cons, Utf8.encodeChar_ascii (by omega), hnat, UInt8.ofNat_toNat,
    List.singleton_append]
  intro hc
  -- The character would be `%` only if the byte were.
  refine hpercent (UInt8.toNat_inj.1 ?_)
  rw [← hnat, hc]
  rfl

/-- Bytes come back from their escapes if only ASCII without `%` is let through. -/
theorem decodeChars_encodeBytes {plain : UInt8 → Bool}
    (hplain : ∀ b, plain b = true → b.toNat < 128 ∧ b ≠ 0x25) (bs : Bytes) (rest : List Char) :
    decodeChars (encodeBytes plain bs ++ rest) = bs ++ decodeChars rest := by
  induction bs with
  | nil => rfl
  | cons b bs ih =>
    rw [encodeBytes, List.flatMap_cons, List.append_assoc, ← encodeBytes]
    split
    · rename_i hb
      rw [List.singleton_append, decodeChars_plain (hplain b hb).1 (hplain b hb).2, ih,
        List.cons_append]
    · rw [decodeChars_escape, ih, List.cons_append]

/-- A text comes back from its escapes. -/
theorem decode_encode (s : String) : decode (encode s) = s := by
  have hplain : ∀ b, isAlphanumeric b = true → b.toNat < 128 ∧ b ≠ 0x25 := by
    intro b hb
    refine ⟨isAlphanumeric_ascii hb, ?_⟩
    rintro rfl
    exact absurd hb (by decide)
  have hback := decodeChars_encodeBytes hplain (Utf8.encode s) []
  rw [List.append_nil, decodeChars, List.append_nil] at hback
  rw [decode, encode, String.toList_ofList, hback, Utf8.decodeLossy_encode]

end Percent
end TaskQueue
