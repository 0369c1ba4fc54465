import TaskQueue.Json.Draft
import TaskQueue.Json.Printer
import TaskQueue.Json.Value

/-!
# `TaskQueue.Json.Decode`: values and records from drafts

`Draft.value` takes a draft as an arbitrary JSON value, `Draft.skip` as a part that nobody
wants. A record is decoded in two passes. `collect` goes through the members in document
order: each member with a known key is decoded on the spot, so that its fault is raised where
it stands, and kept in a slot. Then the slots are put together: a field without a slot takes
its default, or is missing. So a fault inside the text comes before a missing field.

A record that passes unknown members on takes an object only. The others also take a list of
their fields in order.

Every value that is made of a draft is ordered (`Draft.value_ordered`), and `Decode.value` hands it
on as one that is.
-/

set_option autoImplicit false

namespace TaskQueue

/-- What a decoder goes by besides the draft: how many lists and objects it may still enter,
whether a list may not be longer than the record it stands for, and how a floating-point
number is shown in a fault. -/
structure Reading where
  room : Nat
  exactLength : Bool
  floatText : Double → String

/-- JSON texts nest at most 127 lists and objects. -/
def Reading.json : Reading := ⟨127, true, fun x => String.ofList (Json.floatChars x)⟩

/-- Of two steps that succeed one after the other, both succeed. -/
theorem Except.bind_ok {ε α β : Type} {x : Except ε α} {f : α → Except ε β} {b : β}
    (h : x >>= f = .ok b) : ∃ a, x = .ok a ∧ f a = .ok b := by
  cases x with
  | error e => cases h
  | ok a => exact ⟨a, rfl, h⟩

/-- A decoder of drafts. -/
abbrev Decoder (α : Type) := Reading → Draft → Except Fault α

namespace Draft

/-- Enters a list or an object. -/
def enter (r : Reading) : Except Fault Reading :=
  match r.room with
  | 0 => .error .tooDeep
  | n + 1 => .ok { r with room := n }

/-- Raises the break at the end of a list or an object. -/
def raise : Option Break → Except Fault Unit
  | some b => .error b.read
  | none => .ok ()

mutual

/-- A draft as an arbitrary value. -/
def value (room : Nat) : Draft → Except Fault Json
  | .null => .ok .null
  | .bool b => .ok (.bool b)
  | .int n => .ok (.int n)
  | .float x => x.map Json.ofDouble
  | .string s => s.map Json.string
  | .broken b => .error b.read
  | .array items ending =>
    match room with
    | 0 => .error .tooDeep
    | n + 1 => do
      let xs ← valueItems n items
      raise ending
      .ok (.array xs)
  | .object members ending =>
    match room with
    | 0 => .error .tooDeep
    | n + 1 => do
      let ms ← valueMembers n members
      raise ending
      .ok (.object (Members.sort ms))

/-- The items of a list. -/
def valueItems (room : Nat) : List Draft → Except Fault (List Json)
  | [] => .ok []
  | d :: ds => do
    let x ← value room d
    let xs ← valueItems room ds
    .ok (x :: xs)

/-- The members of an object, in document order. -/
def valueMembers (room : Nat) : List (Except Fault String × Draft) →
    Except Fault (List (String × Json))
  | [] => .ok []
  | (key, d) :: ms => do
    let k ← key
    let x ← value room d
    let xs ← valueMembers room ms
    .ok ((k, x) :: xs)

end

mutual

/-- Every value that is made of a draft is ordered. -/
theorem value_ordered (d : Draft) {room : Nat} {v : Json} (h : value room d = .ok v) :
    v.Ordered := by
  match d, h with
  | .null, h => rw [value] at h; cases h; trivial
  | .bool b, h => rw [value] at h; cases h; trivial
  | .int n, h => rw [value] at h; cases h; trivial
  | .float x, h =>
    rw [value] at h
    cases x with
    | error f => cases h
    | ok x =>
      cases h
      exact Json.ordered_ofDouble x
  | .string s, h =>
    rw [value] at h
    cases s with
    | error f => cases h
    | ok s => cases h; trivial
  | .broken b, h => rw [value] at h; cases h
  | .array items ending, h =>
    cases room with
    | zero => rw [value] at h; cases h
    | succ room =>
      rw [value] at h
      obtain ⟨xs, hitems, h⟩ := Except.bind_ok h
      obtain ⟨_, -, h⟩ := Except.bind_ok h
      cases h
      exact valueItems_ordered items hitems
  | .object members ending, h =>
    cases room with
    | zero => rw [value] at h; cases h
    | succ room =>
      rw [value] at h
      obtain ⟨ms, hmembers, h⟩ := Except.bind_ok h
      obtain ⟨_, -, h⟩ := Except.bind_ok h
      cases h
      -- An object sorts its members, so it is only their values that have to be ordered.
      exact Json.ordered_sort (valueMembers_ordered members hmembers)

/-- All items that are made of drafts are ordered. -/
theorem valueItems_ordered (items : List Draft) {room : Nat} {xs : List Json}
    (h : valueItems room items = .ok xs) : Json.OrderedItems xs := by
  match items, h with
  | [], h => rw [valueItems] at h; cases h; trivial
  | d :: ds, h =>
    rw [valueItems] at h
    obtain ⟨x, hx, h⟩ := Except.bind_ok h
    obtain ⟨xs, hxs, h⟩ := Except.bind_ok h
    cases h
    exact ⟨value_ordered d hx, valueItems_ordered ds hxs⟩

/-- All members that are made of drafts have ordered values. -/
theorem valueMembers_ordered (members : List (Except Fault String × Draft)) {room : Nat}
    {ms : List (String × Json)} (h : valueMembers room members = .ok ms) :
    Json.OrderedMembers ms := by
  match members, h with
  | [], h => rw [valueMembers] at h; cases h; trivial
  | (key, d) :: rest, h =>
    rw [valueMembers] at h
    obtain ⟨k, -, h⟩ := Except.bind_ok h
    obtain ⟨x, hx, h⟩ := Except.bind_ok h
    obtain ⟨xs, hxs, h⟩ := Except.bind_ok h
    cases h
    exact ⟨value_ordered d hx, valueMembers_ordered rest hxs⟩

end

mutual

/-- A draft that is only skipped. -/
def skip : Draft → Except Fault Unit
  | .broken b => .error b.skip
  | .array items ending => do
    skipItems items
    match ending with
    | some b => .error b.skip
    | none => .ok ()
  | .object members ending => do
    skipMembers members
    match ending with
    | some b => .error b.skip
    | none => .ok ()
  | _ => .ok ()

/-- Skips the items of a list. -/
def skipItems : List Draft → Except Fault Unit
  | [] => .ok ()
  | d :: ds => do skip d; skipItems ds

/-- Skips the members of an object. -/
def skipMembers : List (Except Fault String × Draft) → Except Fault Unit
  | [] => .ok ()
  | (_, d) :: ms => do skip d; skipMembers ms

end

/-- How a draft that has the wrong type is described, unless it has a fault of its own. -/
def shown (r : Reading) : Draft → Except Fault String
  | .null => .ok "null"
  | .bool b => .ok ("boolean " ++ Fault.ticked (toString b))
  | .int n => .ok ("integer " ++ Fault.ticked (String.ofList (Json.intChars n)))
  | .float x => x.map fun y => "floating point " ++ Fault.ticked (r.floatText y)
  | .string s => s.map fun t => "string " ++ Text.quoted t
  | .array .. => .ok "sequence"
  | .object .. => .ok "map"
  | .broken b => .error b.read

/-- The fault of a draft where something else is wanted. -/
def unwanted {α : Type} (want : String) (r : Reading) (d : Draft) : Except Fault α := do
  let got ← shown r d
  .error (.wrongType got want)

end Draft

namespace Decode

/-- An arbitrary value. -/
def json : Decoder Json := fun r d => d.value r.room

/-- An arbitrary value, which is ordered. -/
def value : Decoder Json.Value := fun r d =>
  match h : d.value r.room with
  | .ok v => .ok ⟨v, Draft.value_ordered d h⟩
  | .error e => .error e

/-- A text. `want` names what is asked for. -/
def textAs (want : String) : Decoder String := fun r d =>
  match d with
  | .string s => s
  | d => d.unwanted want r

/-- A text. -/
def text : Decoder String := textAs "a string"

/-- A flag. -/
def bool : Decoder Bool := fun r d =>
  match d with
  | .bool b => .ok b
  | d => d.unwanted "a boolean" r

/-- A natural number below `2 ^ bits`. -/
def unsigned (bits : Nat) : Decoder Nat := fun r d =>
  match d with
  | .int n =>
    if 0 ≤ n ∧ n < Nat.pow 2 bits then .ok n.toNat
    else do
      let got ← Draft.shown r (.int n)
      .error (.wrongValue got ("u" ++ toString bits))
  | d => d.unwanted ("u" ++ toString bits) r

/-- A number of 16 bits. -/
def uint16 : Decoder UInt16 := fun r d => (unsigned 16 r d).map .ofNat

/-- A number of 32 bits. -/
def uint32 : Decoder UInt32 := fun r d => (unsigned 32 r d).map .ofNat

/-- A number of 64 bits. -/
def uint64 : Decoder UInt64 := fun r d => (unsigned 64 r d).map .ofNat

/-- A value or `null`. -/
def optional {α : Type} (decode : Decoder α) : Decoder (Option α) := fun r d =>
  match d with
  | .null => .ok none
  | d => (decode r d).map some

/-- A list of arbitrary values. -/
def jsonList : Decoder (List Json) := fun r d =>
  match d with
  | .array .. => do
    match ← d.value r.room with
    | .array xs => .ok xs
    | _ => .ok []
  | d => d.unwanted "a sequence" r

/-- An object with arbitrary members, sorted. -/
def jsonObject : Decoder (List (String × Json)) := fun r d =>
  match d with
  | .object .. => do
    match ← d.value r.room with
    | .object ms => .ok ms
    | _ => .ok []
  | d => d.unwanted "a map" r

/-- One of a few names, given as a text or as the only key of an object around `null`. -/
def choice {α : Type} (names : List (String × α)) : Decoder α := fun r d =>
  let pick := fun (s : String) =>
    match names.find? fun n => n.1 == s with
    | some n => .ok n.2
    | none => .error (.unknownVariant s (names.map (·.1)))
  match d with
  | .string s => s >>= pick
  | .object members ending => do
    let _ ← Draft.enter r
    match members with
    | [] => do Draft.raise ending; .error .expectedValue
    | (key, x) :: more => do
      let v ← key >>= pick
      match x with
      | .null =>
        match more, ending with
        | [], none => .ok v
        | [], some b => .error (if b.read = .endInObject then .endInObject else .expectedValue)
        | _ :: _, _ => .error .expectedValue
      | x => x.unwanted "unit" r
  | .broken b => .error b.read
  | _ => .error .expectedValue

/-! ## Records -/

/-- The members found for known keys, in document order. -/
abbrev Slots := List (String × Draft)

/-- The slot of a field. -/
def slot? (name : String) : Slots → Option Draft
  | [] => none
  | (k, d) :: rest => if k = name then some d else slot? name rest

/-- Looks at a member without keeping its value. -/
abbrev Check := Reading → Draft → Except Fault Unit

/-- The check that goes with a decoder. -/
def check {α : Type} (decode : Decoder α) : Check := fun r d => (decode r d).map fun _ => ()

/-- The check of a known field. -/
def check? (name : String) : List (String × Check) → Option Check
  | [] => none
  | (k, c) :: rest => if k = name then some c else check? name rest

/-- Goes through members in document order: known ones go to slots, unknown ones to `other`. -/
def collect (fields : List (String × Check)) (other : Check) (r : Reading) :
    Slots → List (String × Draft) → List (Except Fault String × Draft) →
    Except Fault (Slots × List (String × Draft))
  | slots, unknown, [] => .ok (slots.reverse, unknown.reverse)
  | slots, unknown, (key, d) :: rest => do
    let k ← key
    match check? k fields with
    | some c =>
      if (slot? k slots).isSome then .error (.duplicateField k)
      else do
        c r d
        collect fields other r ((k, d) :: slots) unknown rest
    | none => do
      other r d
      collect fields other r slots ((k, d) :: unknown) rest

/-- Goes through the items of a list that stands for a record. -/
def collectItems (r : Reading) : List (String × Check) → List Draft → Option Break →
    Except Fault (Slots × Nat)
  | [], items, ending =>
    if !r.exactLength then .ok ([], 0)
    else if !items.isEmpty then .error .trailingCharacters
    else
      match ending with
      | none => .ok ([], 0)
      | some b =>
        .error (if b.read = .endInList ∨ b.read = .trailingComma then b.read
          else .trailingCharacters)
  | _ :: _, [], some b => .error b.read
  | _ :: _, [], none => .ok ([], 0)
  | (name, c) :: fields, d :: items, ending => do
    c r d
    let (slots, n) ← collectItems r fields items ending
    .ok ((name, d) :: slots, n + 1)

/-- How the fields of a record are put together: the reading, the slots, and the fault of a
field that has none. -/
structure Parts where
  reading : Reading
  slots : Slots
  absent : String → Fault

/-- A field that must be there. -/
def Parts.required {α : Type} (p : Parts) (name : String) (decode : Decoder α) : Except Fault α :=
  match slot? name p.slots with
  | some d => decode p.reading d
  | none => .error (p.absent name)

/-- A field with a default. -/
def Parts.field {α : Type} (p : Parts) (name : String) (decode : Decoder α) (default : α) :
    Except Fault α :=
  match slot? name p.slots with
  | some d => decode p.reading d
  | none => .ok default

/-- A record given as an object or as a list of its fields. -/
def record {α : Type} (title : String) (fields : List (String × Check))
    (build : Parts → Except Fault α) : Decoder α := fun r d =>
  match d with
  | .object members ending => do
    let r ← Draft.enter r
    let (slots, _) ← collect fields (fun _ d => d.skip) r [] [] members
    Draft.raise ending
    build ⟨r, slots, .missingField⟩
  | .array items ending => do
    let r ← Draft.enter r
    let (slots, n) ← collectItems r fields items ending
    build ⟨r, slots, fun _ => .wrongLength n
      ("struct " ++ title ++ " with " ++ toString fields.length ++
        (if fields.length = 1 then " element" else " elements"))⟩
  | d => d.unwanted ("struct " ++ title) r

/-- A record that passes the members it does not know on, given as an object. -/
def openRecord {α : Type} (title : String) (fields : List (String × Check))
    (build : Parts → Json.Map → Except Fault α) : Decoder α := fun r d =>
  match d with
  | .object members ending => do
    let r ← Draft.enter r
    let (slots, unknown) ← collect fields (check json) r [] [] members
    Draft.raise ending
    let extra ← unknown.mapM fun m => return (m.1, ← value r m.2)
    build ⟨r, slots, .missingField⟩ (.ofList extra)
  | d => d.unwanted ("struct " ++ title) r

/-- Decodes a whole text. -/
def document {α : Type} (decode : Decoder α) (doc : Draft.Document) : Except Fault α := do
  let x ← decode .json doc.root
  if doc.trailing then .error .trailingCharacters else .ok x

/-- Decodes the bytes of a text. -/
def bytes {α : Type} (decode : Decoder α) (bs : Bytes) : Except Fault α :=
  document decode (Draft.ofPieces (Utf8.pieces bs))

/-- Decodes a text. -/
def string {α : Type} (decode : Decoder α) (s : String) : Except Fault α :=
  document decode (Draft.ofPieces (s.toList.map .char))

end Decode

/-- The value of a text. -/
def Json.parse (s : String) : Except Fault Json := Decode.string Decode.json s

/-- The value of the bytes of a text. -/
def Json.parseBytes (bs : Bytes) : Except Fault Json := Decode.bytes Decode.json bs

end TaskQueue
