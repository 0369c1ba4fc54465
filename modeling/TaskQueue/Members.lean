/-!
# `TaskQueue.Members`: values under text keys

Members are pairs of a key and a value. As a list they stand in any order: a document lists them in
the order of its layout. `Members` are members that are held as a map: they are sorted by key, and
no key is there twice. `Members.set` is the only way to add one, and it keeps to that order.
-/

set_option autoImplicit false

namespace TaskQueue
namespace Members

variable {α : Type}

/-- The keys, in order. -/
def keys (members : List (String × α)) : List String := members.map (·.1)

/-- The value under a key. -/
def lookup (key : String) : List (String × α) → Option α
  | [] => none
  | (k, v) :: rest => if k = key then some v else lookup key rest

/-- Puts a value under a key among members sorted by key; the last value given for a key counts. -/
def insert (key : String) (value : α) : List (String × α) → List (String × α)
  | [] => [(key, value)]
  | (k, v) :: rest =>
    if key < k then (key, value) :: (k, v) :: rest
    else if key = k then (key, value) :: rest
    else (k, v) :: insert key value rest

/-- Sorts members by key; of members with one key the last counts. -/
def sort (members : List (String × α)) : List (String × α) :=
  members.foldl (fun sorted m => insert m.1 m.2 sorted) []

/-- The keys ascend, so none comes twice. -/
def Ascending (members : List (String × α)) : Prop := (keys members).Pairwise (· < ·)

instance (members : List (String × α)) : Decidable (Ascending members) :=
  inferInstanceAs (Decidable ((keys members).Pairwise (· < ·)))

/-- An insertion adds its own key to the keys and no other. -/
theorem mem_keys_insert {key k : String} {v : α} {members : List (String × α)} :
    k ∈ keys (insert key v members) ↔ k = key ∨ k ∈ keys members := by
  induction members with
  | nil => simp [insert, keys]
  | cons m ms ih =>
    simp only [keys] at ih ⊢
    rw [insert]
    split
    · simp
    · split
      · rename_i heq
        simp [heq]
      · simp only [List.map_cons, List.mem_cons, ih, or_left_comm]

/-- A key that `insert` passes by is smaller. -/
theorem lt_of_passed {k key : String} (hlt : ¬key < k) (hne : ¬key = k) : k < key :=
  Std.lt_of_le_of_ne (String.not_lt.1 hlt) (Ne.symm hne)

/-- The order of the keys is kept. -/
theorem Ascending.insert {members : List (String × α)} (h : Ascending members) (key : String)
    (v : α) : Ascending (insert key v members) := by
  induction members with
  | nil => simp [Members.insert, Ascending, keys]
  | cons m ms ih =>
    obtain ⟨hfirst, hrest⟩ := List.pairwise_cons.1 h
    rw [Members.insert]
    split
    · -- The new key is the least: it is less than the first, and that is less than the others.
      rename_i hlt
      refine List.pairwise_cons.2 ⟨fun k hk => ?_, h⟩
      rcases List.mem_cons.1 hk with rfl | hk
      · exact hlt
      · exact String.lt_trans hlt (hfirst k hk)
    · rename_i hlt
      split
      · rename_i heq
        exact List.pairwise_cons.2 ⟨heq ▸ hfirst, hrest⟩
      · rename_i hne
        refine List.pairwise_cons.2 ⟨fun k hk => ?_, ih hrest⟩
        rcases mem_keys_insert.1 hk with rfl | hk
        · exact lt_of_passed hlt hne
        · exact hfirst k hk

end Members

/-- Members that are sorted by key, with no key twice. -/
structure Members (α : Type) where
  entries : List (String × α)
  ascending : Members.Ascending entries
deriving DecidableEq, Repr

namespace Members

variable {α : Type}

/-- No members. -/
def empty : Members α := ⟨[], List.Pairwise.nil⟩

instance : Inhabited (Members α) := ⟨empty⟩

/-- Puts a value under a key. -/
def set (ms : Members α) (key : String) (value : α) : Members α :=
  ⟨insert key value ms.entries, ms.ascending.insert key value⟩

/-- The empty map has no entries. -/
@[simp] theorem entries_empty : (empty : Members α).entries = [] := rfl

/-- Setting a member inserts it where its key belongs. -/
@[simp] theorem entries_set (ms : Members α) (key : String) (value : α) :
    (ms.set key value).entries = insert key value ms.entries := rfl

end Members
end TaskQueue
