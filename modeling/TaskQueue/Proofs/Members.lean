import Mathlib.Data.List.Perm.Basic
import Mathlib.Tactic.Tauto
import TaskQueue.Members

/-!
# `TaskQueue.Proofs.Members`: members in the order of their keys

The theory of `Members.insert` and `Members.sort`, for values of any type. `insert` puts a key in
its place and changes nothing else (`lookup_insert`), and `sort` only puts members with different
keys in order (`sort_perm`) and leaves alone what is in order (`sort_of_ascending`).
-/

set_option autoImplicit false

namespace TaskQueue
namespace Members

variable {α : Type}

/-! ## Keys in ascending order -/

/-- Keys in ascending order are different. -/
theorem Ascending.nodup {members : List (String × α)} (h : Ascending members) :
    (keys members).Nodup := by
  refine List.Pairwise.imp (fun {k l} hlt => ?_) h
  rintro rfl
  exact String.lt_irrefl k hlt

/-- A key that is greater than all others goes to the end. -/
theorem insert_of_lt {members : List (String × α)} {key : String} (v : α)
    (h : ∀ k ∈ keys members, k < key) : insert key v members = members ++ [(key, v)] := by
  induction members with
  | nil => rfl
  | cons m ms ih =>
    have hm : m.1 < key := h m.1 List.mem_cons_self
    have hne : ¬key = m.1 := fun heq => String.lt_irrefl _ (heq ▸ hm)
    rw [insert, if_neg (String.lt_asymm hm), if_neg hne,
      ih fun k hk => h k (List.mem_cons_of_mem _ hk), List.cons_append]

/-- If nothing is read off a member that is set, nor off one that had its key, the others read as
before. -/
theorem Ascending.filterMap_insert {β : Type} {f g : String × α → Option β} {key : String}
    {v : α} (hset : f (key, v) = none) (hold : ∀ w, g (key, w) = none)
    (hothers : ∀ m, m.1 ≠ key → f m = g m) {members : List (String × α)}
    (h : Ascending members) : (Members.insert key v members).filterMap f = members.filterMap g := by
  induction members with
  | nil => simp [Members.insert, hset]
  | cons m ms ih =>
    obtain ⟨hfirst, hrest⟩ := List.pairwise_cons.1 h
    have hpast : ∀ n ∈ ms, m.1 < n.1 := fun n hn => hfirst n.1 (List.mem_map_of_mem hn)
    rw [Members.insert]
    split
    · -- The new key is the least, so that no member had it.
      rename_i hlt
      rw [List.filterMap_cons, hset]
      refine List.filterMap_congr fun n hn => hothers n ?_
      rcases List.mem_cons.1 hn with rfl | hn
      · exact (String.ne_of_lt hlt).symm
      · exact (String.ne_of_lt (String.lt_trans hlt (hpast n hn))).symm
    · split
      · rename_i heq
        subst heq
        rw [List.filterMap_cons, hset, List.filterMap_cons, hold]
        exact List.filterMap_congr fun n hn => hothers n (String.ne_of_lt (hpast n hn)).symm
      · rename_i hne
        rw [List.filterMap_cons, List.filterMap_cons, hothers m (Ne.symm hne), ih hrest]

/-- Sorting leaves members alone that are in order. -/
theorem sort_of_ascending {members : List (String × α)} (h : Ascending members) :
    sort members = members := by
  suffices hfold : ∀ sorted : List (String × α), Ascending (sorted ++ members) →
      members.foldl (fun sorted m => insert m.1 m.2 sorted) sorted = sorted ++ members from
    hfold [] h
  -- Each member in turn has a greater key than those that are sorted already.
  clear h
  induction members with
  | nil => simp
  | cons m ms ih =>
    intro sorted hsorted
    have hlast : ∀ k ∈ keys sorted, k < m.1 := by
      rw [Ascending, keys, List.map_append, List.pairwise_append] at hsorted
      exact fun k hk => hsorted.2.2 k hk m.1 List.mem_cons_self
    have happend : sorted ++ m :: ms = (sorted ++ [m]) ++ ms := by simp
    rw [List.foldl_cons, insert_of_lt m.2 hlast, happend]
    exact ih (sorted ++ [m]) (happend ▸ hsorted)

/-- A new key is set by adding a member. -/
theorem insert_perm {key : String} {members : List (String × α)} (h : key ∉ keys members)
    (v : α) : (insert key v members).Perm ((key, v) :: members) := by
  induction members with
  | nil => exact .refl _
  | cons m ms ih =>
    rw [keys, List.map_cons, List.mem_cons, not_or] at h
    rw [insert]
    split
    · exact .refl _
    · rw [if_neg h.1]
      exact ((ih h.2).cons m).trans (.swap _ _ _)

/-- Members with different keys are only put in order by sorting. -/
theorem sort_perm {members : List (String × α)} (h : (keys members).Nodup) :
    (sort members).Perm members := by
  suffices hfold : ∀ sorted : List (String × α), (keys (sorted ++ members)).Nodup →
      (members.foldl (fun sorted m => insert m.1 m.2 sorted) sorted).Perm (sorted ++ members) from
    hfold [] h
  clear h
  induction members with
  | nil =>
    intro sorted _
    simp
  | cons m ms ih =>
    intro sorted h
    -- What is sorted and what is not have no key in common, so the next member is a new one.
    have hnew : m.1 ∉ keys sorted := by
      rw [keys, List.map_append, List.nodup_append] at h
      intro hmem
      exact h.2.2 _ hmem _ List.mem_cons_self rfl
    have hinsert : (insert m.1 m.2 sorted ++ ms).Perm (sorted ++ m :: ms) :=
      ((insert_perm hnew m.2).append_right ms).trans List.perm_middle.symm
    have hkeys : (keys (insert m.1 m.2 sorted ++ ms)).Perm (keys (sorted ++ m :: ms)) :=
      hinsert.map _
    exact (ih _ (hkeys.nodup_iff.2 h)).trans hinsert

/-- Sorting brings in no other keys. -/
theorem mem_keys_sort {members : List (String × α)} {k : String}
    (h : k ∈ keys (sort members)) : k ∈ keys members := by
  suffices hfold : ∀ sorted : List (String × α),
      k ∈ keys (members.foldl (fun sorted m => insert m.1 m.2 sorted) sorted) →
      k ∈ keys sorted ∨ k ∈ keys members from (hfold [] h).resolve_left (by simp [keys])
  clear h
  induction members with
  | nil => exact fun _ h => .inl h
  | cons m ms ih =>
    intro sorted h
    have hrest := ih (insert m.1 m.2 sorted) h
    rw [mem_keys_insert] at hrest
    simp only [keys, List.map_cons, List.mem_cons] at hrest ⊢
    tauto

/-! ## Values under a key -/

/-- A key is found exactly if it is among the keys. -/
theorem lookup_isSome_iff {key : String} {members : List (String × α)} :
    (lookup key members).isSome ↔ key ∈ keys members := by
  induction members with
  | nil => simp [lookup, keys]
  | cons m ms ih =>
    rw [lookup, keys, List.map_cons, List.mem_cons]
    split
    · rename_i heq
      simp [heq]
    · rename_i hne
      rw [ih]
      simp [keys, Ne.symm hne]

/-- If no key comes twice, every value that stands under a key is found there. -/
theorem lookup_of_mem {members : List (String × α)} (h : (keys members).Nodup) {key : String}
    {v : α} (hmem : (key, v) ∈ members) : lookup key members = some v := by
  induction members with
  | nil => cases hmem
  | cons m ms ih =>
    obtain ⟨hnew, hnodup⟩ := List.nodup_cons.1 h
    rw [lookup]
    rcases List.mem_cons.1 hmem with rfl | hmem
    · rw [if_pos rfl]
    · have hne : ¬ m.1 = key := by
        rintro rfl
        exact hnew (List.mem_map.2 ⟨_, hmem, rfl⟩)
      rw [if_neg hne, ih hnodup hmem]

/-- An inserted value is found under its own key and hides nothing under another. -/
theorem lookup_insert (key k : String) (v : α) (members : List (String × α)) :
    lookup key (insert k v members) = if k = key then some v else lookup key members := by
  induction members with
  | nil => rfl
  | cons m ms ih =>
    rw [insert]
    split
    · rfl
    -- The key is there already, or it belongs further on.
    · split
      · rename_i heq
        simp only [lookup, heq]
        split <;> rfl
      · rename_i hne
        rw [lookup, ih, lookup]
        by_cases hk : k = key
        · rw [if_neg fun h => hne (hk.trans h.symm), if_pos hk, if_pos hk]
        · rw [if_neg hk, if_neg hk]

/-- Of the members with one key the last counts. -/
theorem lookup_sort {key : String} (v : α) (before : List (String × α))
    {after : List (String × α)} (h : key ∉ keys after) :
    lookup key (sort (before ++ (key, v) :: after)) = some v := by
  have hpassed : ∀ sorted : List (String × α),
      lookup key (after.foldl (fun sorted m => insert m.1 m.2 sorted) sorted) =
        lookup key sorted := by
    induction after with
    | nil => exact fun _ => rfl
    | cons m ms ih =>
      intro sorted
      rw [keys, List.map_cons, List.mem_cons, not_or] at h
      rw [List.foldl_cons, ih h.2, lookup_insert, if_neg (Ne.symm h.1)]
  rw [sort, List.foldl_append, List.foldl_cons, hpassed, lookup_insert, if_pos rfl]

/-- The first list is searched before the second. -/
theorem lookup_append (key : String) (xs ys : List (String × α)) :
    lookup key (xs ++ ys) = (lookup key xs).or (lookup key ys) := by
  induction xs with
  | nil => rfl
  | cons m ms ih =>
    rw [List.cons_append, lookup, lookup]
    split
    · rfl
    · exact ih

/-- A value that is found under a key is among the members. -/
theorem mem_of_lookup {key : String} {members : List (String × α)} {v : α}
    (h : lookup key members = some v) : (key, v) ∈ members := by
  induction members with
  | nil => cases h
  | cons m ms ih =>
    rw [lookup] at h
    split at h
    · rename_i hkey
      cases h
      exact List.mem_cons.2 (.inl (by rw [← hkey]))
    · exact List.mem_cons_of_mem _ (ih h)

/-- A key that does not occur has no value. -/
theorem lookup_eq_none {key : String} {members : List (String × α)} (h : key ∉ keys members) :
    lookup key members = none := by
  induction members with
  | nil => rfl
  | cons m ms ih =>
    rw [keys, List.map_cons, List.mem_cons, not_or] at h
    rw [lookup, if_neg (Ne.symm h.1), ih h.2]

end Members
end TaskQueue
