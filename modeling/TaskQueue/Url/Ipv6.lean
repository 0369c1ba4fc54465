import TaskQueue.Text.Percent

/-!
# `TaskQueue.Url.Ipv6`: IPv6 addresses

An address is eight groups of sixteen bits, written in hexadecimal with colons between them.
One run of zero groups may be left out as `::`, and the last two groups may be written as four
decimal numbers. `Ipv6.text` leaves out the longest run of at least two zero groups, the first
of several, and uses small letters without leading zeros.
-/

set_option autoImplicit false

namespace TaskQueue.Ipv6

/-- The groups read so far: those before `::` and, once it was read, those after it. -/
structure Groups where
  before : List Nat
  after : Option (List Nat)

namespace Groups

/-- The number of groups, where `::` counts as one. -/
def size (g : Groups) : Nat :=
  g.before.length + match g.after with
    | none => 0
    | some rest => rest.length + 1

/-- Adds a group. -/
def push (g : Groups) (n : Nat) : Groups :=
  match g.after with
  | none => { g with before := g.before ++ [n] }
  | some rest => { g with after := some (rest ++ [n]) }

/-- The eight groups, if there are as many as needed. -/
def address? (g : Groups) : Option (List Nat) :=
  match g.after with
  | none => if g.before.length = 8 then some g.before else none
  | some rest =>
    if g.size ≤ 8 then
      some (g.before ++ List.replicate (8 - g.before.length - rest.length) 0 ++ rest)
    else none

end Groups

/-- The hexadecimal digits at the front, at most so many, as a number with their count. -/
def hexGroup : (most : Nat) → (value count : Nat) → List Char → Nat × Nat × List Char
  | 0, value, count, cs => (value, count, cs)
  | _ + 1, value, count, [] => (value, count, [])
  | most + 1, value, count, c :: cs =>
    match Percent.hexValue? c with
    | some d => hexGroup most (value * 16 + d) (count + 1) cs
    | none => (value, count, c :: cs)

/-- A decimal number below 256 without leading zeros at the front. -/
def decimalByte? (cs : List Char) : Option (Nat × List Char) :=
  let ds := cs.takeWhile Char.isDigit
  let n := ds.foldl (fun n c => n * 10 + (c.toNat - 0x30)) 0
  if ds.isEmpty ∨ 256 ≤ n ∨ (ds.head? = some '0' ∧ 1 < ds.length) then none
  else some (n, cs.dropWhile Char.isDigit)

/-- A byte with a point before it. -/
def pointedByte? : List Char → Option (Nat × List Char)
  | '.' :: cs => decimalByte? cs
  | _ => none

/-- Four decimal numbers with points between them, up to the end, as two groups. -/
def dotted? (cs : List Char) : Option (Nat × Nat) := do
  let (a, cs) ← decimalByte? cs
  let (b, cs) ← pointedByte? cs
  let (c, cs) ← pointedByte? cs
  let (d, cs) ← pointedByte? cs
  if cs.isEmpty then some (a * 256 + b, c * 256 + d) else none

/-- Reads groups up to the end. The count of rounds is bounded by the number of characters. -/
def readGroups : (rounds : Nat) → Groups → List Char → Option (List Nat)
  | 0, _, _ => none
  | _ + 1, g, [] => g.address?
  | rounds + 1, g, c :: cs =>
    if 8 ≤ g.size then none
    else if c = ':' then
      match g.after with
      | some _ => none
      | none => readGroups rounds { g with after := some [] } cs
    else
      match hexGroup 4 0 0 (c :: cs) with
      | (n, _, []) => (g.push n).address?
      | (n, count, d :: rest) =>
        if d = ':' then
          if rest.isEmpty then none else readGroups rounds (g.push n) rest
        else if d = '.' ∧ count ≠ 0 ∧ g.size ≤ 6 then
          match dotted? (c :: cs) with
          | some (m, k) => ((g.push m).push k).address?
          | none => none
        else none

/-- The eight groups that a text writes. -/
def parse? (cs : List Char) : Option (List Nat) :=
  match cs with
  | ':' :: ':' :: rest => readGroups (rest.length + 1) ⟨[], some []⟩ rest
  | ':' :: _ => none
  | [_] => none
  | cs => readGroups (cs.length + 1) ⟨[], none⟩ cs

/-- The number of zero groups at the front. -/
def zeroRun (gs : List Nat) : Nat := (gs.takeWhile (· == 0)).length

/-- Where the longest run of zero groups starts, and how long it is. -/
def longestRun : (start : Nat) → List Nat → Nat × Nat
  | start, [] => (start, 0)
  | start, g :: gs =>
    let here := zeroRun (g :: gs)
    let later := longestRun (start + 1) gs
    if later.2 ≤ here then (start, here) else later

/-- Groups with colons between them. -/
def joined (gs : List Nat) : List Char :=
  (gs.map (Nat.toDigits 16)).intersperse [':'] |>.flatten

/-- The address in its shortest form. -/
def text (gs : List Nat) : List Char :=
  let (start, length) := longestRun 0 gs
  if length < 2 then joined gs
  else joined (gs.take start) ++ ':' :: ':' :: joined (gs.drop (start + length))

end TaskQueue.Ipv6
