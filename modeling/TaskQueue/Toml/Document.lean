import TaskQueue.Json.Decode
import TaskQueue.Toml.Scalar

/-!
# `TaskQueue.Toml.Document`: tables of TOML

A document is a sequence of assignments under table headers. `Toml.read` puts it together as a
draft of nested objects, which the decoders of JSON values take as well. A table may be opened
only once, by its own header or by keys with points, and never in both ways; a table that was
only passed through on the way to another may still be opened.

While a table is open it is held apart from the document, and it goes back to the end of the
table around it. This fixes the order in which faults are found.
-/

set_option autoImplicit false

namespace TaskQueue.Toml

/-- What stands under a key: a value, a table, or a list of tables. A passing table was not
opened by itself; a dotted one came about by keys with points. -/
inductive Item where
  | value (d : Draft)
  | table (passing dotted : Bool) (entries : List (String × Item))
  | tables (list : List (List (String × Item)))

/-- The entries of a table, in order. -/
abbrev Entries := List (String × Item)

namespace Entries

/-- The item under a key. -/
def find? (key : String) : Entries → Option Item
  | [] => none
  | (k, x) :: rest => if k = key then some x else find? key rest

/-- Replaces the item under a key, or adds one at the end. -/
def put (key : String) (x : Item) : Entries → Entries
  | [] => [(key, x)]
  | (k, y) :: rest => if k = key then (key, x) :: rest else (k, y) :: put key x rest

/-- Takes the item under a key away. -/
def remove (key : String) (entries : Entries) : Entries := entries.filter fun e => e.1 != key

/-- Changes the table at the end of a path. Tables that are missing are made on the way. With
`dotted` the way is the one of a key with points, which leads only through passing tables. The
change is told whether the table is a dotted one. -/
def modify (dotted : Bool) (change : Bool → Entries → Option Entries) :
    (path : List String) → (here : Bool) → Entries → Option Entries
  | [], here, entries => change here entries
  | key :: path, _, entries =>
    match find? key entries with
    | none => do
      let inner ← modify dotted change path dotted []
      some (put key (.table true dotted inner) entries)
    | some (.value _) => none
    | some (.table passing isDotted inner) =>
      if dotted && !passing then none
      else do
        let inner ← modify dotted change path isDotted inner
        some (put key (.table passing isDotted inner) entries)
    | some (.tables list) =>
      match list.getLast? with
      | none => none
      | some last => do
        let inner ← modify dotted change path false last
        some (put key (.tables (list.dropLast ++ [inner])) entries)

/-- Assigns a value to a key with points. -/
def assign (path : List String) (key : String) (d : Draft) (entries : Entries) :
    Option Entries :=
  modify true
    (fun isDotted inner =>
      if isDotted == path.isEmpty || (find? key inner).isSome then none
      else some (put key (.value d) inner))
    path false entries

end Entries

/-! ## Values -/

mutual

/-- An item as a draft. -/
def Item.draft : Item → Draft
  | .value d => d
  | .table _ _ entries => .object (draftEntries entries) none
  | .tables list => .array (draftTables list) none

/-- Entries as members. -/
def draftEntries : Entries → List (Except Fault String × Draft)
  | [] => []
  | (k, x) :: rest => (.ok k, x.draft) :: draftEntries rest

/-- Tables as items. -/
def draftTables : List Entries → List Draft
  | [] => []
  | t :: rest => .object (draftEntries t) none :: draftTables rest

end

mutual

/-- A value; `room` is how many lists and tables may still be entered. -/
def readValue : (fuel : Nat) → (room : Nat) → Reader Draft
  | 0, _, _ => none
  | _ + 1, _, [] => none
  | fuel + 1, room, c :: cs =>
    if c = '"' ∨ c = '\'' then (string (c :: cs)).map fun r => (.string (.ok r.1), r.2)
    else if c = '[' then
      match room with
      | 0 => none
      | room + 1 => (readItems fuel room cs).map fun r => (.array r.1 none, r.2)
    else if c = '{' then
      match room with
      | 0 => none
      | room + 1 =>
        (readInline fuel room [] cs).map fun r => (.object (draftEntries r.1) none, r.2)
    else if c = 't' then (word? "true".toList (c :: cs)).map fun r => (.bool true, r)
    else if c = 'f' then (word? "false".toList (c :: cs)).map fun r => (.bool false, r)
    else if c = '+' ∨ c = '-' ∨ DateText.isDigit c then numberOrDate (c :: cs)
    else special? false (c :: cs)

/-- The items of a list after its bracket, or after a comma. -/
def readItems : (fuel : Nat) → (room : Nat) → Reader (List Draft)
  | 0, _, _ => none
  | fuel + 1, room, cs =>
    match skipLines (cs.length + 1) cs with
    | ']' :: rest => some ([], rest)
    | cs => do
      let (d, cs) ← readValue fuel room cs
      match skipLines (cs.length + 1) cs with
      | ',' :: rest => do
        let (ds, rest) ← readItems fuel room rest
        some (d :: ds, rest)
      | ']' :: rest => some ([d], rest)
      | _ => none

/-- The assignments of a table between braces, after its brace. -/
def readInline : (fuel : Nat) → (room : Nat) → Entries → Reader Entries
  | 0, _, _, _ => none
  | fuel + 1, room, entries, cs =>
    match skipBlanks cs with
    | '}' :: rest => if entries.isEmpty then some ([], rest) else none
    | cs => do
      let ((path, key), cs) ← dottedKey cs
      let ((), cs) ← DateText.literal '=' (skipBlanks cs)
      let (d, cs) ← readValue fuel room (skipBlanks cs)
      let entries ← entries.assign path key d
      match skipBlanks cs with
      | ',' :: rest =>
        match skipBlanks rest with
        | '}' :: _ => none
        | rest => readInline fuel room entries rest
      | '}' :: rest => some (entries, rest)
      | _ => none

end

/-! ## Tables -/

/-- Where the open table belongs: it is the document itself, a table, or the next of a list of
tables. -/
inductive Place where
  | root
  | table (path : List String) (key : String)
  | listed (path : List String) (key : String)

/-- A document as far as it has been read. -/
structure Progress where
  document : Entries
  current : Entries
  place : Place

namespace Progress

/-- Puts the open table back into the document. -/
def close? (p : Progress) : Option Entries :=
  match p.place with
  | .root => some p.current
  | .table path key =>
    p.document.modify false
      (fun _ inner =>
        match Entries.find? key inner with
        | none => some (inner.put key (.table false false p.current))
        | some _ => none)
      path false
  | .listed path key =>
    p.document.modify false
      (fun _ inner =>
        match Entries.find? key inner with
        | none => some (inner.put key (.tables [p.current]))
        | some (.tables list) => some (inner.put key (.tables (list ++ [p.current])))
        | some _ => none)
      path false

/-- The table at the end of a path, as far as it exists. -/
def lookUp : List String → Entries → Option Entries
  | [], entries => some entries
  | key :: path, entries =>
    match Entries.find? key entries with
    | some (.table _ _ inner) => lookUp path inner
    | some (.tables list) =>
      match list.getLast? with
      | some last => lookUp path last
      | none => none
    | _ => none

/-- Opens a table by its header. -/
def openTable? (p : Progress) (path : List String) (key : String) : Option Progress := do
  let document ← p.close?
  let document ← document.modify false (fun _ inner => some inner) path false
  match (lookUp path document).bind (Entries.find? key) with
  | none => some ⟨document, [], .table path key⟩
  | some (.table true false entries) =>
    let document ← document.modify false (fun _ inner => some (inner.remove key)) path false
    some ⟨document, entries, .table path key⟩
  | some _ => none

/-- Opens the next table of a list by its header. -/
def openListed? (p : Progress) (path : List String) (key : String) : Option Progress := do
  let document ← p.close?
  let document ← document.modify false
    (fun _ inner =>
      match Entries.find? key inner with
      | none => some (inner.put key (.tables []))
      | some (.tables _) => some inner
      | some _ => none)
    path false
  some ⟨document, [], .listed path key⟩

end Progress

/-- A header up to the end of its line. -/
def readHeader (p : Progress) (cs : List Char) : Option (Progress × List Char) :=
  match cs with
  | '[' :: '[' :: rest => do
    let ((path, key), rest) ← dottedKey rest
    let rest ← word? [']', ']'] rest
    let rest ← endLine? rest
    let p ← p.openListed? path key
    some (p, rest)
  | '[' :: rest => do
    let ((path, key), rest) ← dottedKey rest
    let rest ← word? [']'] rest
    let rest ← endLine? rest
    let p ← p.openTable? path key
    some (p, rest)
  | _ => none

/-- An assignment up to the end of its line. -/
def readAssignment (p : Progress) (cs : List Char) : Option (Progress × List Char) := do
  let ((path, key), rest) ← dottedKey cs
  let ((), rest) ← DateText.literal '=' (skipBlanks rest)
  let (d, rest) ← readValue (2 * rest.length + 2) (maxDepth - 1) (skipBlanks rest)
  let rest ← endLine? rest
  let current ← p.current.assign path key d
  some ({ p with current := current }, rest)

/-- Reads the lines of a document. -/
def readLines : (fuel : Nat) → Progress → List Char → Option Progress
  | 0, _, _ => none
  | fuel + 1, p, cs =>
    match skipBlanks cs with
    | [] => some p
    | '[' :: rest => do
      let (p, rest) ← readHeader p ('[' :: rest)
      readLines fuel p rest
    | c :: rest =>
      match endLine? (c :: rest) with
      | some rest => readLines fuel p rest
      | none => do
        let (p, rest) ← readAssignment p (c :: rest)
        readLines fuel p rest

/-- Skips the mark that tells the byte order. -/
def skipMark : List Char → List Char
  | c :: cs => if c.toNat = 0xFEFF then cs else c :: cs
  | [] => []

/-- Reads a document as a draft. -/
def read (s : String) : Option Draft := do
  let cs := skipMark s.toList
  let p ← readLines (cs.length + 1) ⟨[], [], .root⟩ cs
  let entries ← p.close?
  some (.object (draftEntries entries) none)

/-! ## Decoding -/

/-- A float in positional digits with a point. -/
def floatText : Double → String
  | .finite negative m e =>
    let ⟨d, x⟩ := Double.shortest m e
    let digits := if m = 0 then ['0', '.', '0'] else Json.positional (Json.natChars d) x
    String.ofList (if negative then '-' :: digits else digits)
  | .infinite negative => if negative then "-inf" else "inf"
  | .nan => "NaN"

/-- Lists and tables may nest as deep as they could be read, and the items of a list that a
record does not need are left alone. -/
def reading : Reading := ⟨1000, false, floatText⟩

/-- What is wrong with a document: its form, or what it says. -/
inductive DocumentFault where
  | malformed
  | content (fault : Fault)

/-- The fault in words. -/
def DocumentFault.message : DocumentFault → String
  | malformed => "syntax"
  | content f => f.message

/-- Decodes a document. -/
def decode {α : Type} (decoder : Decoder α) (s : String) : Except DocumentFault α :=
  match read s with
  | none => .error .malformed
  | some d => (decoder reading d).mapError .content

end TaskQueue.Toml
