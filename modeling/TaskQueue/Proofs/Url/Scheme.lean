import TaskQueue.Proofs.Json.Order
import TaskQueue.Url.Basic

/-!
# `TaskQueue.Proofs.Url.Scheme`: the scheme of a URL

What is dropped from a text before it is read as a URL never touches a front of printable
characters (`Url.cleaned_front`). So the scheme in front of a URL is the scheme with which it is
read, whatever follows: `Url.scheme_of_written`.
-/

set_option autoImplicit false

namespace TaskQueue
namespace Url

/-! ## What is dropped -/

/-- What is dropped everywhere is dropped at the ends too. -/
theorem isEdge_of_isBreak {c : Char} (h : isBreak c = true) : isEdge c = true := by
  simp only [isBreak, Bool.or_eq_true, beq_iff_eq] at h
  rcases h with (rfl | rfl) | rfl <;> rfl

section
variable {cs : List Char} (h : ∀ c ∈ cs, isEdge c = false)
include h

/-- There are no breaks to be dropped. -/
theorem filter_breaks : cs.filter (fun c => !isBreak c) = cs := by
  refine List.filter_eq_self.2 fun c hc => ?_
  cases hb : isBreak c with
  | false => rfl
  | true => exact absurd (isEdge_of_isBreak hb) (Bool.eq_false_iff.1 (h c hc))

/-- Nothing is trimmed in front. -/
theorem dropWhile_edges : cs.dropWhile isEdge = cs := by
  cases cs with
  | nil => rfl
  | cons c cs => exact List.dropWhile_cons_of_neg (Bool.eq_false_iff.1 (h c List.mem_cons_self))

/-- Nothing is trimmed at the end either. -/
theorem dropWhile_edges_reverse : cs.reverse.dropWhile isEdge = cs.reverse :=
  dropWhile_edges fun c hc => h c (List.mem_reverse.1 hc)

/-- A text in which nothing is to be dropped stays as it is. -/
theorem cleaned_of_clean : cleaned (String.ofList cs) = cs := by
  simp only [cleaned, String.toList_ofList, dropWhile_edges h, dropWhile_edges_reverse h,
    List.reverse_reverse, filter_breaks h]

/-- What begins with characters that are not dropped keeps them in front. -/
theorem cleaned_front (hne : cs ≠ []) (rest : List Char) :
    ∃ rest', cleaned (String.ofList (cs ++ rest)) = cs ++ rest' := by
  have hfirst : (cs ++ rest).dropWhile isEdge = cs ++ rest := by
    cases cs with
    | nil => exact (hne rfl).elim
    | cons c cs =>
      exact List.dropWhile_cons_of_neg (Bool.eq_false_iff.1 (h c List.mem_cons_self))
  -- Trimming at the end may take all of the rest, but nothing of the front.
  have hlast : ∃ rest', ((cs ++ rest).reverse.dropWhile isEdge).reverse = cs ++ rest' := by
    rw [List.reverse_append, List.dropWhile_append]
    split
    · exact ⟨[], by rw [dropWhile_edges_reverse h, List.reverse_reverse, List.append_nil]⟩
    · exact ⟨_, by rw [List.reverse_append, List.reverse_reverse]⟩
  obtain ⟨rest', hrest⟩ := hlast
  refine ⟨rest'.filter fun c => !isBreak c, ?_⟩
  simp only [cleaned, String.toList_ofList, hfirst, hrest, List.filter_append, filter_breaks h]

end

/-! ## The scheme in front -/

/-- A scheme as it is written: small letters, and at least one. -/
structure IsScheme (scheme : List Char) : Prop where
  nonempty : scheme ≠ []
  small : ∀ c ∈ scheme, 'a' ≤ c ∧ c ≤ 'z'

/-- Whether a text is a scheme can be computed. -/
theorem IsScheme.of_check {scheme : List Char}
    (h : (!scheme.isEmpty && scheme.all fun c => decide ('a' ≤ c ∧ c ≤ 'z')) = true) :
    IsScheme scheme := by
  simp only [Bool.and_eq_true, Bool.not_eq_true', List.isEmpty_eq_false_iff, List.all_eq_true,
    decide_eq_true_eq] at h
  exact ⟨h.1, h.2⟩

/-- The code points of the small letters. -/
theorem toNat_small {c : Char} (h : 'a' ≤ c ∧ c ≤ 'z') : 97 ≤ c.toNat ∧ c.toNat ≤ 122 :=
  ⟨UInt32.le_iff_toNat_le.1 h.1, UInt32.le_iff_toNat_le.1 h.2⟩

/-- A small letter is a letter. -/
theorem isAlpha_small {c : Char} (h : 'a' ≤ c ∧ c ≤ 'z') : c.isAlpha = true := by
  unfold Char.isAlpha Char.isLower
  simp only [Bool.or_eq_true, Bool.and_eq_true, decide_eq_true_eq]
  exact .inr h

/-- A small letter is in lower case already. -/
theorem toLower_small {c : Char} (h : 'a' ≤ c ∧ c ≤ 'z') : c.toLower = c := by
  have hnat := toNat_small h
  unfold Char.toLower
  split
  · rename_i hupper
    have := UInt32.le_iff_toNat_le.1 hupper.2
    have hval : c.val.toNat = c.toNat := rfl
    have hZ : 'Z'.val.toNat = 90 := rfl
    omega
  · rfl

/-- A scheme in small letters is taken up to its colon. -/
theorem takeScheme_small {scheme : List Char} (h : ∀ c ∈ scheme, 'a' ≤ c ∧ c ≤ 'z')
    (rest : List Char) : takeScheme (scheme ++ ':' :: rest) = some (scheme, rest) := by
  induction scheme with
  | nil => rfl
  | cons c scheme ih =>
    have hc := h c List.mem_cons_self
    -- A small letter does not end the scheme.
    have hcolon : c ≠ ':' := by
      rintro rfl
      exact absurd hc (by decide)
    rw [List.cons_append, takeScheme, if_neg hcolon,
      if_pos (by simp [Char.isAlphanum, isAlpha_small hc]),
      ih fun d hd => h d (List.mem_cons_of_mem _ hd), Option.map_some, toLower_small hc]

/-- A scheme is read back as it was written. -/
theorem scheme?_written {scheme : List Char} (h : IsScheme scheme) (rest : List Char) :
    scheme? (scheme ++ ':' :: rest) = some (scheme, rest) := by
  have htake := takeScheme_small h.small rest
  cases scheme with
  | nil => exact (h.nonempty rfl).elim
  | cons c scheme =>
    rw [List.cons_append] at htake ⊢
    rw [scheme?, if_pos (isAlpha_small (h.small c List.mem_cons_self)), htake]

/-! ## The scheme that is read -/

/-- An address with an authority has the scheme that it was read under. -/
theorem scheme_ofAuthority {web : Bool} {scheme : String} {cs : List Char} {u : Url}
    (h : ofAuthority web scheme cs = .ok u) : u.scheme = scheme := by
  unfold ofAuthority at h
  dsimp only at h
  split at h
  · cases h
  split at h
  · cases h
  -- The host is a domain name or opaque; what comes after it is the same.
  split at h
  all_goals
    obtain ⟨host, -, h⟩ := Except.bind_ok h
    split at h
    · cases h
    obtain ⟨port, -, h⟩ := Except.bind_ok h
    split at h
    · cases h
    · cases h
      rfl

/-- So has one of a file. -/
theorem scheme_ofFile {scheme : String} {cs : List Char} {u : Url}
    (h : ofFile scheme cs = .ok u) : u.scheme = scheme := by
  unfold ofFile at h
  split at h
  · rename_i a b rest
    split at h
    · dsimp only at h
      split at h
      · cases h
        rfl
      · cases hhost : Host.domainHost (rest.takeWhile fun c => !endsAuthority true c) with
        | error e =>
          rw [hhost] at h
          cases h
        | ok host =>
          rw [hhost] at h
          cases h
          rfl
    · cases h
      rfl
  · cases h
    rfl

/-- A URL has the scheme that was found at its front. -/
theorem scheme_of_parse {s : String} {u : Url} (h : parse s = .ok u) :
    ∃ rest, scheme? (cleaned s) = some (u.scheme.toList, rest) := by
  unfold parse at h
  split at h
  · cases h
  · rename_i scheme rest hscheme
    refine ⟨rest, ?_⟩
    suffices hu : u.scheme = String.ofList scheme by rw [hscheme, hu, String.toList_ofList]
    dsimp only at h
    split at h
    · exact scheme_ofAuthority h
    split at h
    · exact scheme_ofFile h
    split at h
    · exact scheme_ofAuthority h
    · cases h
      rfl

/-- The scheme that is written in front of a URL is its scheme. -/
theorem scheme_of_written {scheme rest : String} (hscheme : IsScheme scheme.toList) {u : Url}
    (h : parse (scheme ++ "://" ++ rest) = .ok u) : u.scheme = scheme := by
  -- The colon keeps the trimming away from the scheme, even if nothing else follows.
  have hprintable : ∀ c ∈ scheme.toList ++ [':'], isEdge c = false := by
    intro c hc
    rcases List.mem_append.1 hc with hc | hc
    · have := toNat_small (hscheme.small c hc)
      exact decide_eq_false (by omega)
    · rw [List.mem_singleton.1 hc]
      rfl
  obtain ⟨rest', hclean⟩ := cleaned_front hprintable (by simp) ("//".toList ++ rest.toList)
  have htext : scheme ++ "://" ++ rest =
      String.ofList (scheme.toList ++ [':'] ++ ("//".toList ++ rest.toList)) := by
    apply String.ext
    simp
  obtain ⟨_, hread⟩ := scheme_of_parse h
  rw [htext, hclean, List.append_assoc, List.singleton_append, scheme?_written hscheme] at hread
  have hchars := (Prod.mk.inj (Option.some.inj hread)).1
  exact String.toList_injective hchars.symm

end Url
end TaskQueue
