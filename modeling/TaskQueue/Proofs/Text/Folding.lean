import Mathlib.Data.List.TakeWhile
import TaskQueue.Text.Lowercase

/-!
# `TaskQueue.Proofs.Text.Folding`: texts that are compared after trimming and folding

`Text.Trimmed` says what is left of a text between the white space at its ends, and
`Text.trimmed_iff` that `Text.trim` finds just that.

Names are folded in two ways: by the full lower-casing of Unicode, and by that of ASCII alone. The
two agree on whether a text has a given name (`Text.lower_eq_iff`), as long as the name is in small
ASCII letters without a `k`. That letter is the small form of the Kelvin sign too; every other
character past ASCII leaves one past ASCII behind when it is lower-cased
(`Text.lowerChar_leaves`).
-/

set_option autoImplicit false

namespace TaskQueue.Text

/-! ## Trimming -/

/-- Nothing is left of a text by trimming it if and only if it is blank all over. -/
theorem trimChars_eq_nil {cs : List Char} : trimChars cs = [] ↔ ∀ c ∈ cs, isBlank c = true := by
  rw [trimChars, List.reverse_eq_nil_iff, List.dropWhile_eq_nil_iff]
  constructor
  · intro hrest c hc
    -- The character is dropped at the front, where only blank ones are, or it is left.
    rw [← List.takeWhile_append_dropWhile (p := isBlank) (l := cs), List.mem_append] at hc
    rcases hc with hc | hc
    · exact List.mem_takeWhile_imp hc
    · exact hrest c (List.mem_reverse.2 hc)
  · intro hblank c hc
    exact hblank c ((List.dropWhile_sublist _).mem (List.mem_reverse.1 hc))

/-- The one text stands in the other with white space around it, and has none at its own ends. -/
structure Trimmed (s t : String) : Prop where
  framed : ∃ before after : List Char, (∀ c ∈ before, isBlank c = true) ∧
    (∀ c ∈ after, isBlank c = true) ∧ s.toList = before ++ t.toList ++ after
  starts : ∀ c ∈ t.toList.head?, isBlank c = false
  ends : ∀ c ∈ t.toList.getLast?, isBlank c = false

/-- What is blank is dropped in front of what does not begin so. -/
theorem dropWhile_blank {before cs : List Char} (hbefore : ∀ c ∈ before, isBlank c = true)
    (hstarts : ∀ c ∈ cs.head?, isBlank c = false) :
    (before ++ cs).dropWhile isBlank = cs := by
  rw [List.dropWhile_append_of_pos hbefore]
  cases cs with
  | nil => rfl
  | cons c cs => exact List.dropWhile_cons_of_neg (Bool.eq_false_iff.1 (hstarts c rfl))

/-- What is left after dropping blanks does not begin with one. -/
theorem head?_dropWhile_blank (cs : List Char) :
    ∀ c ∈ (cs.dropWhile isBlank).head?, isBlank c = false := by
  intro c hc
  have hnot := List.head?_dropWhile_not isBlank cs
  rw [Option.mem_def.1 hc] at hnot
  exact hnot

/-- A text is trimmed at one end in the same way as at the other. -/
theorem reverse_trimChars (cs : List Char) :
    (trimChars cs).reverse = (cs.dropWhile isBlank).reverse.dropWhile isBlank := by
  rw [trimChars, List.reverse_reverse]

/-- What trimming leaves is what stands between the blanks at both ends. -/
theorem trimmed_trim (s : String) : Trimmed s (trim s) := by
  have hfront := List.takeWhile_append_dropWhile (p := isBlank) (l := s.toList)
  have hback := List.takeWhile_append_dropWhile (p := isBlank)
    (l := (s.toList.dropWhile isBlank).reverse)
  rw [← reverse_trimChars] at hback
  -- Behind the leading blanks stands the trimmed text and then the blanks at the end.
  have hrest : s.toList.dropWhile isBlank = trimChars s.toList ++
      ((s.toList.dropWhile isBlank).reverse.takeWhile isBlank).reverse := by
    rw [← List.reverse_inj, List.reverse_append, List.reverse_reverse, hback]
  refine ⟨⟨s.toList.takeWhile isBlank,
    ((s.toList.dropWhile isBlank).reverse.takeWhile isBlank).reverse,
    fun c hc => List.mem_takeWhile_imp hc,
    fun c hc => List.mem_takeWhile_imp (List.mem_reverse.1 hc), ?_⟩, ?_, ?_⟩
  · rw [trim, String.toList_ofList, List.append_assoc, ← hrest, hfront]
  · -- The first character that is left was the first after the blanks in front.
    intro c hc
    rw [trim, String.toList_ofList] at hc
    refine head?_dropWhile_blank s.toList c ?_
    rw [hrest, List.head?_append, Option.mem_def.1 hc]
    rfl
  · intro c hc
    rw [trim, String.toList_ofList, ← List.head?_reverse, reverse_trimChars] at hc
    exact head?_dropWhile_blank _ c hc

/-- Trimming finds what stands between the blanks, and there is nothing else that does. -/
theorem trimmed_iff {s t : String} : Trimmed s t ↔ t = trim s := by
  constructor
  · rintro ⟨⟨before, after, hbefore, hafter, hs⟩, hstarts, hends⟩
    rw [trim, hs, ← String.toList_inj, String.toList_ofList]
    -- If nothing is left, then all of the text is blank. Else the ends of what is left stop the
    -- trimming.
    cases ht : t.toList with
    | nil =>
      refine (trimChars_eq_nil.2 fun c hc => ?_).symm
      rw [List.append_nil, List.mem_append] at hc
      exact hc.elim (hbefore c) (hafter c)
    | cons c cs =>
      rw [← ht, trimChars, List.append_assoc, dropWhile_blank hbefore, List.reverse_append,
        dropWhile_blank, List.reverse_reverse]
      · exact fun c hc => hafter c (List.mem_reverse.1 hc)
      · rwa [List.head?_reverse]
      · rw [ht] at hstarts
        rwa [ht]
  · rintro rfl
    exact trimmed_trim s

/-! ## The two foldings -/

/-- Only ASCII capitals are changed by the folding of ASCII. -/
theorem toLower_past {c : Char} (hc : 0x80 ≤ c.toNat) : c.toLower = c := by
  unfold Char.toLower
  split
  · rename_i hupper
    have hZ := UInt32.le_iff_toNat_le.1 hupper.2
    have hval : c.val.toNat = c.toNat := rfl
    have hnat : 'Z'.val.toNat = 90 := rfl
    omega
  · rfl

/-- The folding of ASCII leads to ASCII from nowhere else. -/
theorem toNat_of_toLower {c : Char} (h : c.toLower.toNat < 0x80) : c.toNat < 0x80 := by
  by_contra hc
  rw [toLower_past (by omega)] at h
  exact hc h

/-- Every run leads to characters past ASCII, but for that of the Kelvin sign. -/
theorem lowerRuns_past : ∀ r ∈ lowerRuns,
    (0x80 ≤ (r.1 : Int) + r.2.2.2 ∧ (r.2.1 : Int) + r.2.2.2 < 0xD800 ∨
      0xDFFF < (r.1 : Int) + r.2.2.2 ∧ (r.2.1 : Int) + r.2.2.2 < 0x110000) ∨
      r.1 = 0x212A ∧ r.2.1 = 0x212A ∧ r.2.2.2 = -8383 := by
  decide +kernel

/-- The lower-case form of a code point past ASCII is another one, or the small letter k. -/
theorem lowerOf?_past {n m : Nat} (h : lowerOf? n = some m) :
    0x80 ≤ (Char.ofNat m).toNat ∨ Char.ofNat m = 'k' := by
  obtain ⟨r, hfind, hm⟩ := Option.map_eq_some_iff.1 h
  have hin := List.find?_some hfind
  simp only [Bool.and_eq_true, decide_eq_true_eq] at hin
  rcases lowerRuns_past r (List.mem_of_find?_eq_some hfind) with hpast | ⟨hfirst, hlast, hoff⟩
  · have hvalid : m.isValidChar := by unfold Nat.isValidChar; omega
    have hnat : (Char.ofNat m).toNat = m := by
      rw [Char.ofNat, dif_pos hvalid]
      rfl
    exact .inl (by omega)
  · have hk : m = 107 := by omega
    exact .inr (hk ▸ rfl)

/-- Characters of ASCII other than the letter k, to which the Kelvin sign is lower-cased. -/
def Unmistakable (c : Char) : Prop := c.toNat < 0x80 ∧ c ≠ 'k'

/-- Beyond ASCII no character is unmistakable. -/
theorem not_unmistakable_past {c : Char} (hc : 0x80 ≤ c.toNat) : ¬ Unmistakable c :=
  fun h => absurd h.1 (Nat.not_lt.2 hc)

/-- A character past ASCII leaves one behind when it is lower-cased, or it is the Kelvin sign. -/
theorem lowerChar_leaves {c : Char} (hc : 0x80 ≤ c.toNat) :
    ∃ l ∈ lowerChar c, ¬ Unmistakable l := by
  rw [lowerChar, if_neg (by omega)]
  split
  · exact ⟨Char.ofNat 0x307, by simp, not_unmistakable_past (by decide)⟩
  · split
    · rename_i m hm
      refine ⟨_, List.mem_singleton_self _, ?_⟩
      rcases lowerOf?_past hm with hpast | hk
      · exact not_unmistakable_past hpast
      · exact fun h => h.2 hk
    · exact ⟨c, List.mem_singleton_self c, not_unmistakable_past hc⟩

/-- An ASCII character is lowered alone, whatever stands around it. -/
theorem lowerFrom_ascii {c : Char} (hc : c.toNat < 0x80) (before rest : List Char) :
    lowerFrom before (c :: rest) = c.toLower :: lowerFrom (c :: before) rest := by
  rw [lowerFrom, if_neg (by omega), lowerChar, if_pos hc, List.singleton_append]

/-- Any other character leaves one behind that is not unmistakable. -/
theorem lowerFrom_leaves {c : Char} (hc : 0x80 ≤ c.toNat) (before rest : List Char) :
    ∃ l ∈ lowerFrom before (c :: rest), ¬ Unmistakable l := by
  rw [lowerFrom]
  split
  · split
    · exact ⟨Char.ofNat 0x3C2, by simp, not_unmistakable_past (by decide)⟩
    · exact ⟨Char.ofNat 0x3C3, by simp, not_unmistakable_past (by decide)⟩
  · obtain ⟨l, hl, hnot⟩ := lowerChar_leaves hc
    exact ⟨l, List.mem_append_left _ hl, hnot⟩

/-- Characters that cannot be mistaken come of the same texts in both foldings. -/
theorem lowerFrom_eq_iff {ls : List Char} (hls : ∀ l ∈ ls, Unmistakable l) (before cs : List Char) :
    lowerFrom before cs = ls ↔ cs.map Char.toLower = ls := by
  induction cs generalizing before ls with
  | nil => rfl
  | cons c rest ih =>
    by_cases hc : c.toNat < 0x80
    · rw [lowerFrom_ascii hc, List.map_cons]
      cases ls with
      | nil => simp
      | cons l ls =>
        rw [List.cons.injEq, List.cons.injEq, ih fun k hk => hls k (List.mem_cons_of_mem _ hk)]
    · -- Neither folding makes such a text of a character past ASCII.
      have hpast : 0x80 ≤ c.toNat := Nat.not_lt.1 hc
      obtain ⟨l, hl, hnot⟩ := lowerFrom_leaves hpast before rest
      constructor
      · rintro rfl
        exact (hnot (hls l hl)).elim
      · rintro rfl
        have hself := hls c.toLower List.mem_cons_self
        exact (hc (toNat_of_toLower hself.1)).elim

/-- Whether a text is lower-cased to a small ASCII text without the letter k is the same question
as whether it is that text but for the case of ASCII letters. -/
theorem lower_eq_iff {s t : String} (hplain : ∀ l ∈ t.toList, Unmistakable l)
    (hsmall : t.toList.map Char.toLower = t.toList) :
    lower s = t ↔ sameIgnoringAsciiCase s t = true := by
  rw [lower, ← String.toList_inj, String.toList_ofList, lowerFrom_eq_iff hplain,
    sameIgnoringAsciiCase, beq_iff_eq, hsmall]

end TaskQueue.Text
