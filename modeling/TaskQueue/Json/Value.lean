import TaskQueue.Json.Basic

/-!
# `TaskQueue.Json.Value`: values as a program holds them

Whatever was read, or is handed over by a caller, holds its objects as maps: at each level the
members are sorted by key, and no key is there twice. `Json.Ordered` says so of a value.
`Json.Value` is a value that carries this, and `Json.Map` are the members of such an object. Both
are made by constructors that keep to it.
-/

set_option autoImplicit false

namespace TaskQueue
namespace Json

open Members

mutual

/-- The members of all objects in the value stand in the order of their keys. -/
def Ordered : Json → Prop
  | .array items => OrderedItems items
  | .object members => Ascending members ∧ OrderedMembers members
  | _ => True

/-- All items are ordered. -/
def OrderedItems : List Json → Prop
  | [] => True
  | x :: xs => Ordered x ∧ OrderedItems xs

/-- The values of all members are ordered. -/
def OrderedMembers : List (String × Json) → Prop
  | [] => True
  | (_, x) :: xs => Ordered x ∧ OrderedMembers xs

end

mutual

/-- Whether a value is ordered can be found out. -/
def decideOrdered : (v : Json) → Decidable v.Ordered
  | .null | .bool _ | .int _ | .float _ | .string _ => .isTrue trivial
  | .array items => decideOrderedItems items
  | .object members => @instDecidableAnd _ _ inferInstance (decideOrderedMembers members)

/-- Whether items are ordered can be found out. -/
def decideOrderedItems : (items : List Json) → Decidable (OrderedItems items)
  | [] => .isTrue trivial
  | x :: xs => @instDecidableAnd _ _ (decideOrdered x) (decideOrderedItems xs)

/-- Whether the values of members are ordered can be found out. -/
def decideOrderedMembers : (members : List (String × Json)) → Decidable (OrderedMembers members)
  | [] => .isTrue trivial
  | (_, x) :: xs => @instDecidableAnd _ _ (decideOrdered x) (decideOrderedMembers xs)

end

instance (v : Json) : Decidable v.Ordered := decideOrdered v

instance (members : List (String × Json)) : Decidable (OrderedMembers members) :=
  decideOrderedMembers members

/-- A number has no members to be out of order. -/
theorem ordered_ofDouble (x : Double) : (ofDouble x).Ordered := by
  unfold ofDouble
  split <;> trivial

/-- Members stay in order when an ordered value is inserted. -/
theorem OrderedMembers.insert {members : List (String × Json)} (h : OrderedMembers members)
    (key : String) {v : Json} (hv : v.Ordered) : OrderedMembers (insert key v members) := by
  induction members with
  | nil => exact ⟨hv, trivial⟩
  | cons m ms ih =>
    rw [Members.insert]
    split
    · exact ⟨hv, h⟩
    · split
      · exact ⟨hv, h.2⟩
      · exact ⟨h.1, ih h.2⟩

/-- An object stays ordered when a member is set to an ordered value. -/
theorem ordered_insert {members : List (String × Json)} (h : (Json.object members).Ordered)
    (key : String) {v : Json} (hv : v.Ordered) : (Json.object (insert key v members)).Ordered :=
  ⟨h.1.insert key v, h.2.insert key hv⟩

/-- Sorting makes an object of ordered values ordered. -/
theorem ordered_sort {members : List (String × Json)} (h : OrderedMembers members) :
    (Json.object (sort members)).Ordered := by
  suffices hfold : ∀ sorted : List (String × Json), (Json.object sorted).Ordered →
      (Json.object (members.foldl (fun sorted m => insert m.1 m.2 sorted) sorted)).Ordered from
    hfold [] ⟨List.Pairwise.nil, trivial⟩
  induction members with
  | nil => exact fun _ hs => hs
  | cons m ms ih => exact fun sorted hs => ih h.2 _ (ordered_insert hs m.1 h.1)

/-- The members of an object whose values are ordered as well. -/
structure Map extends Members Json where
  values : OrderedMembers entries
deriving Repr

/-- An ordered value. -/
structure Value where
  json : Json
  ordered : json.Ordered
deriving Repr

namespace Value

/-- No value. -/
def null : Value := ⟨.null, trivial⟩

/-- A flag. -/
def bool (b : Bool) : Value := ⟨.bool b, trivial⟩

/-- An integer. -/
def int (n : Int) : Value := ⟨.int n, trivial⟩

/-- A floating-point number. -/
def float (x : Double) : Value := ⟨.float x, trivial⟩

/-- A text. -/
def string (s : String) : Value := ⟨.string s, trivial⟩

/-- The items of an array of values are in order, each as a value carries it. -/
theorem orderedItems (items : List Value) : OrderedItems (items.map Value.json) := by
  induction items with
  | nil => trivial
  | cons x xs ih => exact ⟨x.ordered, ih⟩

/-- A list. -/
def array (items : List Value) : Value := ⟨.array (items.map Value.json), orderedItems items⟩

/-- An object. -/
def object (members : Map) : Value :=
  ⟨.object members.entries, members.ascending, members.values⟩

instance : Inhabited Value := ⟨null⟩

/-- A null is written as one. -/
@[simp] theorem json_null : null.json = .null := rfl

/-- A Boolean is written as one. -/
@[simp] theorem json_bool (b : Bool) : (bool b).json = .bool b := rfl

/-- An integer is written as one. -/
@[simp] theorem json_int (n : Int) : (int n).json = .int n := rfl

/-- A float is written as one. -/
@[simp] theorem json_float (x : Double) : (float x).json = .float x := rfl

/-- A string is written as one. -/
@[simp] theorem json_string (s : String) : (string s).json = .string s := rfl

/-- An array is written item by item. -/
@[simp] theorem json_array (items : List Value) :
    (array items).json = .array (items.map Value.json) := rfl

/-- An object is written with the entries of its map. -/
@[simp] theorem json_object (members : Map) : (object members).json = .object members.entries :=
  rfl

end Value

namespace Map

/-- No members. -/
def empty : Map := ⟨.empty, trivial⟩

instance : Inhabited Map := ⟨empty⟩

/-- Sets a member. -/
def set (m : Map) (key : String) (value : Value) : Map :=
  ⟨m.toMembers.set key value.json, m.values.insert key value.ordered⟩

/-- The map of members in any order; of members with one key the last counts. -/
def ofList (members : List (String × Value)) : Map :=
  members.foldl (fun m entry => m.set entry.1 entry.2) empty

/-- The object with these members is ordered. -/
theorem ordered (m : Map) : (Json.object m.entries).Ordered := ⟨m.ascending, m.values⟩

/-- Maps with the same entries are the same. -/
theorem ext {m n : Map} (h : m.entries = n.entries) : m = n := by
  obtain ⟨⟨entries, _⟩, _⟩ := m
  obtain ⟨⟨_, _⟩, _⟩ := n
  cases h
  rfl

/-- The empty map has no entries. -/
@[simp] theorem entries_empty : empty.entries = [] := rfl

/-- Setting a member inserts its value where its key belongs. -/
@[simp] theorem entries_set (m : Map) (key : String) (value : Value) :
    (m.set key value).entries = insert key value.json m.entries := rfl

/-- The entries are the given members, sorted. -/
theorem entries_ofList (members : List (String × Value)) :
    (ofList members).entries = sort (members.map fun m => (m.1, m.2.json)) := by
  suffices hfold : ∀ m : Map,
      (members.foldl (fun m entry => m.set entry.1 entry.2) m).entries =
        (members.map fun m => (m.1, m.2.json)).foldl (fun sorted m => insert m.1 m.2 sorted)
          m.entries from hfold empty
  induction members with
  | nil => exact fun _ => rfl
  | cons entry rest ih => exact fun m => ih (m.set entry.1 entry.2)

end Map
end Json
end TaskQueue
