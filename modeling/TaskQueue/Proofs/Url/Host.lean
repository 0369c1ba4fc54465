import TaskQueue.Proofs.Text.Percent
import TaskQueue.Url.Host

/-!
# `TaskQueue.Proofs.Url.Host`: hosts as they stand in a URL

Whatever a host is read from, it is read as a text of one of two shapes (`Host.Legible`): a name of
printable ASCII without any character that means something in a URL, or an IPv6 address of digits
and colons between brackets. `Host.legible_of_opaqueHost` is all that is needed of the readers of
hosts and addresses to find a host again between other parts of a URL.
-/

set_option autoImplicit false

namespace TaskQueue

/-- A fact about the characters of ASCII is one about 128 of them. -/
theorem ascii_forall {P : Char → Prop} (h : ∀ n < 128, P (Char.ofNat n)) {c : Char}
    (hc : c.toNat < 128) : P c := by
  have hchar := h _ hc
  rwa [Char.ofNat_toNat] at hchar

/-- Letters and digits are those of ASCII. -/
theorem isAlphanum_ascii {c : Char} (h : c.isAlphanum = true) : c.toNat < 128 := by
  unfold Char.isAlphanum Char.isAlpha Char.isUpper Char.isLower Char.isDigit at h
  simp only [Bool.or_eq_true, Bool.and_eq_true, decide_eq_true_eq, UInt32.le_iff_toNat_le,
    ge_iff_le] at h
  have hval : c.val.toNat = c.toNat := rfl
  have hZ : 'Z'.val.toNat = 90 := rfl
  have hz : 'z'.val.toNat = 122 := rfl
  have h9 : '9'.val.toNat = 57 := rfl
  omega

namespace Ipv6

/-- A character of a written address. -/
def IsAddressChar (c : Char) : Prop := c.isAlphanum = true ∨ c = ':'

/-- The digits of a group are letters or digits. -/
theorem isAlphanum_digit {n : Nat} {c : Char} (hc : c ∈ Nat.toDigits 16 n) :
    c.isAlphanum = true := by
  have hdigit : ∀ d < 16, (Nat.digitChar d).isAlphanum = true := by decide
  -- The last digit is that of the remainder, the others are those of the quotient.
  induction n using Nat.strongRecOn with
  | _ n ih =>
    by_cases hlt : n < 16
    · rw [Nat.toDigits_of_lt_base hlt, List.mem_singleton] at hc
      rw [hc]
      exact hdigit n hlt
    · rw [Nat.toDigits_of_base_le (by decide) (by omega), List.mem_append,
        List.mem_singleton] at hc
      rcases hc with hc | rfl
      · exact ih (n / 16) (by omega) hc
      · exact hdigit _ (Nat.mod_lt _ (by decide))

/-- Groups are joined by a colon. -/
theorem joined_cons_cons (g h : Nat) (gs : List Nat) :
    joined (g :: h :: gs) = Nat.toDigits 16 g ++ ':' :: joined (h :: gs) := rfl

/-- Joined groups are made of the characters of an address. -/
theorem isAddressChar_joined : ∀ (gs : List Nat), ∀ c ∈ joined gs, IsAddressChar c
  | [], c, hc => by cases hc
  | [g], c, hc => by
    have hdigits : c ∈ Nat.toDigits 16 g := by simpa [joined] using hc
    exact .inl (isAlphanum_digit hdigits)
  | g :: h :: gs, c, hc => by
    rw [joined_cons_cons, List.mem_append, List.mem_cons] at hc
    rcases hc with hc | hc | hc
    · exact .inl (isAlphanum_digit hc)
    · exact .inr hc
    · exact isAddressChar_joined (h :: gs) c hc

/-- So is an address in its shortened form. -/
theorem isAddressChar_text (gs : List Nat) : ∀ c ∈ text gs, IsAddressChar c := by
  intro c hc
  unfold text at hc
  dsimp only at hc
  split at hc
  · exact isAddressChar_joined _ c hc
  · simp only [List.mem_append, List.mem_cons] at hc
    rcases hc with hc | hc | hc | hc
    · exact isAddressChar_joined _ c hc
    · exact .inr hc
    · exact .inr hc
    · exact isAddressChar_joined _ c hc

end Ipv6

namespace Host

/-- A character of a host that is a name. -/
def IsNameChar (c : Char) : Prop := 0x20 ≤ c.toNat ∧ c.toNat ≤ 0x7E ∧ c ∉ forbidden

/-- A host as it stands in a URL: a name, or an address between brackets. -/
inductive Legible : List Char → Prop
  | name {cs : List Char} : cs ≠ [] → (∀ c ∈ cs, IsNameChar c) → Legible cs
  | address {cs : List Char} : (∀ c ∈ cs, Ipv6.IsAddressChar c) → Legible ('[' :: (cs ++ [']']))

/-- Letters, digits and `%` can stand in a name. -/
theorem isNameChar_of_escaped {c : Char} (h : Percent.IsEscaped c) : IsNameChar c := by
  have hascii : c.toNat < 128 := h.elim isAlphanum_ascii (by rintro rfl; decide)
  unfold Percent.IsEscaped at h
  exact ascii_forall (P := fun c => c.isAlphanum = true ∨ c = '%' → IsNameChar c)
    (by unfold IsNameChar; decide) hascii h

/-- A byte of an allowed character is printed as the character, or escaped. -/
theorem isNameChar_encodeBytes {cs : List Char} (hcs : ∀ c ∈ cs, c ∉ forbidden) :
    ∀ c ∈ Percent.encodeBytes isPrintable (Utf8.encodeChars cs), IsNameChar c := by
  intro c hc
  obtain ⟨b, hb, hc⟩ := List.mem_flatMap.1 hc
  split at hc
  · -- A byte of ASCII is a character of the host itself, which was allowed.
    rename_i hprintable
    have hrange := Utf8.within_iff.1 hprintable
    have hlow : 0x20 ≤ b.toNat := hrange.1
    have hhigh : b.toNat ≤ 0x7E := hrange.2
    obtain ⟨d, hd, hbd⟩ := List.mem_flatMap.1 hb
    have hchar := Utf8.ofNat_of_mem_encodeChar hbd (by omega)
    have hval := toNat_ofNat_ascii (n := b.toNat) (by omega)
    rw [List.mem_singleton.1 hc]
    exact ⟨by omega, by omega, hchar ▸ hcs d hd⟩
  · exact isNameChar_of_escaped (Percent.isEscaped_escape b c hc)

/-- A host in brackets that was read can be read again. -/
theorem bracketed?_legible {cs h : List Char} (hread : bracketed? cs = some (.ok h)) :
    Legible h := by
  unfold bracketed? at hread
  split at hread
  · have hread := Option.some.inj hread
    split at hread
    · split at hread
      · cases hread
        exact .address (Ipv6.isAddressChar_text _)
      · cases hread
    · cases hread
  · cases hread

/-- Whatever a host is read from, it stands in a URL in one of the two shapes. -/
theorem legible_of_opaqueHost {cs h : List Char} (hread : opaqueHost cs = .ok h)
    (hne : h ≠ []) : Legible h := by
  unfold opaqueHost at hread
  split at hread
  · rename_i r hbracketed
    rw [hread] at hbracketed
    exact bracketed?_legible hbracketed
  · split at hread
    · cases hread
    · rename_i hallowed
      cases hread
      refine .name hne (isNameChar_encodeBytes fun c hc hforbidden => hallowed ?_)
      exact List.any_eq_true.2 ⟨c, hc, List.contains_iff_mem.2 hforbidden⟩

end Host
end TaskQueue
