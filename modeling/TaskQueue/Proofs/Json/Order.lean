import TaskQueue.Proofs.Json.Reading
import TaskQueue.Proofs.Members

/-!
# `TaskQueue.Proofs.Json.Order`: values that come back from their text unchanged

A value comes back from its text with the members of its objects sorted (`Json.reread`).
`Json.Whole` says that every number in a value is an integer. Such a value, if it is ordered, is
read from its own text as it was (`Json.reread_of_whole`).
-/

set_option autoImplicit false

namespace TaskQueue
namespace Json

open Members

/-! ## What comes back from a text -/

/-- A string is read back as it is. -/
@[simp] theorem reread_string (s : String) : (string s).reread = string s := by
  simp only [reread]

/-- An integer is read back as it is. -/
@[simp] theorem reread_int (n : Int) : (int n).reread = int n := by
  simp only [reread]

/-- Reading an object back keeps its keys. -/
theorem keys_rereadMembers (members : List (String × Json)) :
    keys (rereadMembers members) = keys members := by
  induction members with
  | nil => rfl
  | cons m ms ih =>
    rw [rereadMembers, keys, List.map_cons]
    exact congrArg (m.1 :: ·) ih

/-- Two lists of members are read back one after the other. -/
theorem rereadMembers_append (xs ys : List (String × Json)) :
    rereadMembers (xs ++ ys) = rereadMembers xs ++ rereadMembers ys := by
  induction xs with
  | nil => rfl
  | cons m ms ih => rw [List.cons_append, rereadMembers, rereadMembers, ih, List.cons_append]

/-- The last member with a key comes back from a text. -/
theorem get?_reread {key : String} (v : Json) (before : List (String × Json))
    {after : List (String × Json)} (h : key ∉ keys after) :
    (object (before ++ (key, v) :: after)).reread.get? key = some v.reread := by
  rw [reread, rereadMembers_append, rereadMembers, get?]
  exact lookup_sort v.reread (rereadMembers before) (by rwa [keys_rereadMembers])

/-! ## Ordered values -/

/-- Items are in order if each of them is. -/
theorem orderedItems_iff {items : List Json} : OrderedItems items ↔ ∀ x ∈ items, x.Ordered := by
  induction items with
  | nil => simp [OrderedItems]
  | cons x xs ih => simp [OrderedItems, ih]

/-- The values of members are in order if each of them is. -/
theorem orderedMembers_iff {members : List (String × Json)} :
    OrderedMembers members ↔ ∀ m ∈ members, m.2.Ordered := by
  induction members with
  | nil => simp [OrderedMembers]
  | cons m ms ih => simp [OrderedMembers, ih]

/-- A float that is read back has no members to be out of order. -/
theorem rereadFloat_ordered (x : Double) : (rereadFloat x).Ordered := by
  unfold rereadFloat
  split
  · split
    · exact ordered_ofDouble _
    · trivial
  · trivial

mutual

/-- Whatever comes back from a text is ordered. -/
theorem reread_ordered (v : Json) : v.reread.Ordered := by
  match v with
  | .null | .bool _ | .int _ | .string _ =>
    simp only [reread]
    trivial
  | .float x =>
    rw [reread]
    exact rereadFloat_ordered x
  | .array items =>
    rw [reread]
    exact rereadItems_ordered items
  | .object members =>
    rw [reread]
    exact ordered_sort (rereadMembers_ordered members)

/-- Items that come back are ordered. -/
theorem rereadItems_ordered (items : List Json) : OrderedItems (rereadItems items) := by
  match items with
  | [] => trivial
  | x :: xs =>
    rw [rereadItems]
    exact ⟨reread_ordered x, rereadItems_ordered xs⟩

/-- Members that come back have ordered values. -/
theorem rereadMembers_ordered (members : List (String × Json)) :
    OrderedMembers (rereadMembers members) := by
  match members with
  | [] => trivial
  | (_, x) :: ms =>
    rw [rereadMembers]
    exact ⟨reread_ordered x, rereadMembers_ordered ms⟩

end

/-! ## Values without fractions -/

mutual

/-- All numbers in the value are integers, of 64 bits with or without a sign. -/
def Whole : Json → Prop
  | .int n => -(2 ^ 63 : Int) ≤ n ∧ n < 2 ^ 64
  | .float _ => False
  | .array items => WholeItems items
  | .object members => WholeMembers members
  | _ => True

/-- All numbers in the items are integers. -/
def WholeItems : List Json → Prop
  | [] => True
  | x :: xs => Whole x ∧ WholeItems xs

/-- All numbers in the members are integers. -/
def WholeMembers : List (String × Json) → Prop
  | [] => True
  | (_, x) :: xs => Whole x ∧ WholeMembers xs

end

/-- Two lists of members are whole if both are. -/
theorem wholeMembers_append {xs ys : List (String × Json)} :
    WholeMembers (xs ++ ys) ↔ WholeMembers xs ∧ WholeMembers ys := by
  induction xs with
  | nil => simp [WholeMembers]
  | cons m ms ih => simp only [List.cons_append, WholeMembers, ih, and_assoc]

/-- Items are whole if each of them is. -/
theorem wholeItems_of_forall {items : List Json} (h : ∀ x ∈ items, x.Whole) :
    WholeItems items := by
  induction items with
  | nil => trivial
  | cons x xs ih =>
    exact ⟨h x List.mem_cons_self, ih fun y hy => h y (List.mem_cons_of_mem _ hy)⟩

/-- Each of the members of a whole list is whole. -/
theorem whole_of_mem {members : List (String × Json)} (h : WholeMembers members)
    {m : String × Json} (hm : m ∈ members) : m.2.Whole := by
  induction members with
  | nil => cases hm
  | cons x xs ih =>
    rcases List.mem_cons.1 hm with rfl | hm
    · exact h.1
    · exact ih h.2 hm

mutual

/-- What is whole fits the ranges of numbers. -/
theorem Whole.fits {v : Json} (hv : v.Whole) : v.Fits := by
  match v, hv with
  | .null, _ => trivial
  | .bool _, _ => trivial
  | .int _, hv => exact hv
  | .string _, _ => trivial
  | .array _, hv => exact WholeItems.fits hv
  | .object _, hv => exact WholeMembers.fits hv

/-- So do whole items. -/
theorem WholeItems.fits {items : List Json} (hitems : WholeItems items) : FitsItems items := by
  match items, hitems with
  | [], _ => trivial
  | _ :: _, hitems => exact ⟨hitems.1.fits, WholeItems.fits hitems.2⟩

/-- So do whole members. -/
theorem WholeMembers.fits {members : List (String × Json)} (hmembers : WholeMembers members) :
    FitsMembers members := by
  match members, hmembers with
  | [], _ => trivial
  | _ :: _, hmembers => exact ⟨hmembers.1.fits, WholeMembers.fits hmembers.2⟩

end

mutual

/-- An ordered value without fractions comes back from its text as it was. -/
theorem reread_of_whole {v : Json} (hv : v.Whole) (ho : v.Ordered) : v.reread = v := by
  match v, hv, ho with
  | .null, _, _ => simp only [reread]
  | .bool _, _, _ => simp only [reread]
  | .int _, _, _ => simp only [reread]
  | .string _, _, _ => simp only [reread]
  | .array items, hv, ho => rw [reread, rereadItems_of_whole hv ho]
  | .object members, hv, ho =>
    rw [reread, rereadMembers_of_whole hv ho.2, sort_of_ascending ho.1]

/-- Ordered items without fractions come back as they were. -/
theorem rereadItems_of_whole {items : List Json} (hv : WholeItems items)
    (ho : OrderedItems items) : rereadItems items = items := by
  match items, hv, ho with
  | [], _, _ => rfl
  | x :: xs, hv, ho => rw [rereadItems, reread_of_whole hv.1 ho.1, rereadItems_of_whole hv.2 ho.2]

/-- Ordered members without fractions come back as they were. -/
theorem rereadMembers_of_whole {members : List (String × Json)} (hv : WholeMembers members)
    (ho : OrderedMembers members) : rereadMembers members = members := by
  match members, hv, ho with
  | [], _, _ => rfl
  | (k, x) :: ms, hv, ho =>
    rw [rereadMembers, reread_of_whole hv.1 ho.1, rereadMembers_of_whole hv.2 ho.2]

end

end Json
end TaskQueue
