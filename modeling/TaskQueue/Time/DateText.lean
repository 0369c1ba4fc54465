import TaskQueue.Text.Blank
import TaskQueue.Time.Calendar

/-!
# `TaskQueue.Time.DateText`: texts that name a date

A caller may give a time as text. It is sent as it was given, so it is only checked. Four
forms are taken:

* a full timestamp with an offset, in fixed columns (`isTimestamp`);
* date and time with `T` between them, or with white space, or with nothing;
* a date alone.

In the last three (`isLocal`) white space may stand in front of each number and numbers may
be shorter than their column. In every form the day has to exist.

Readers take what they read off the front of the text and give back what follows.
-/

set_option autoImplicit false

namespace TaskQueue.DateText

/-- A reader: the value and the rest of the text. -/
abbrev Reader (α : Type) := List Char → Option (α × List Char)

/-- Whether the character is a decimal digit. -/
def isDigit (c : Char) : Bool := '0' ≤ c && c ≤ '9'

/-- The number that the digits write. -/
def number (ds : List Char) : Nat := ds.foldl (fun n c => n * 10 + (c.toNat - 0x30)) 0

/-- The digits at the front, at most so many. -/
def takeDigits : (most : Nat) → List Char → List Char × List Char
  | 0, cs => ([], cs)
  | _ + 1, [] => ([], [])
  | most + 1, c :: cs =>
    if isDigit c then let (ds, rest) := takeDigits most cs; (c :: ds, rest) else ([], c :: cs)

/-- All digits at the front. -/
def spanDigits (cs : List Char) : List Char × List Char := takeDigits cs.length cs

/-- A number of exactly so many digits. -/
def exactly (width : Nat) : Reader Nat := fun cs =>
  let (ds, rest) := takeDigits width cs
  if ds.length = width then some (number ds, rest) else none

/-- A number of one to so many digits, with white space allowed before it. -/
def upTo (width : Nat) : Reader Nat := fun cs =>
  let (ds, rest) := takeDigits width (cs.dropWhile Text.isBlank)
  if ds.isEmpty then none else some (number ds, rest)

/-- One given character. -/
def literal (c : Char) : Reader Unit
  | d :: rest => if d = c then some ((), rest) else none
  | [] => none

/-- One of a few characters. -/
def oneOf (choices : List Char) : Reader Unit
  | d :: rest => if choices.contains d then some ((), rest) else none
  | [] => none

/-- Nothing, or a point and at least one digit. -/
def fraction : Reader Unit
  | '.' :: rest =>
    match spanDigits rest with
    | ([], _) => none
    | (_, rest) => some ((), rest)
  | rest => some ((), rest)

/-- Whether this is a time of day; second 60 is a leap second. -/
def isTime (hour minute second : Nat) : Bool := hour < 24 && minute < 60 && second ≤ 60

/-! ## Fixed columns -/

/-- An offset: `Z`, or a sign with hours and minutes. -/
def offset : Reader Unit
  | [] => none
  | c :: rest =>
    if c = 'Z' ∨ c = 'z' then some ((), rest)
    else if c = '+' ∨ c = '-' ∨ c = Char.ofNat 0x2212 then do
      let (hours, rest) ← exactly 2 rest
      let ((), rest) ← literal ':' rest
      let (minutes, rest) ← exactly 2 rest
      if hours < 24 ∧ minutes < 60 then some ((), rest) else none
    else none

/-- A date and a time of day with an offset, and nothing after it. -/
def timestamp? (cs : List Char) : Option Unit := do
  let (year, cs) ← exactly 4 cs
  let ((), cs) ← literal '-' cs
  let (month, cs) ← exactly 2 cs
  let ((), cs) ← literal '-' cs
  let (day, cs) ← exactly 2 cs
  let ((), cs) ← oneOf ['T', 't', ' '] cs
  let (hour, cs) ← exactly 2 cs
  let ((), cs) ← literal ':' cs
  let (minute, cs) ← exactly 2 cs
  let ((), cs) ← literal ':' cs
  let (second, cs) ← exactly 2 cs
  let ((), cs) ← fraction cs
  let ((), cs) ← offset cs
  if cs.isEmpty ∧ (Date.mk year month day).exists? ∧ isTime hour minute second then some ()
  else none

/-- Whether the text is a full timestamp. -/
def isTimestamp (cs : List Char) : Bool := (timestamp? cs).isSome

/-! ## Loose columns -/

/-- A year: up to four digits, or a sign and any number of them. -/
def year : Reader Int := fun cs =>
  let signed := fun (sign : Int) (cs : List Char) =>
    match spanDigits cs with
    | ([], _) => none
    | (ds, rest) => some (sign * number ds, rest)
  match cs.dropWhile Text.isBlank with
  | '+' :: rest => signed 1 rest
  | '-' :: rest => signed (-1) rest
  | cs =>
    match takeDigits 4 cs with
    | ([], _) => none
    | (ds, rest) => some ((number ds : Int), rest)

/-- A date. -/
def date : Reader Date := fun cs => do
  let (year, cs) ← year cs
  let ((), cs) ← literal '-' cs
  let (month, cs) ← upTo 2 cs
  let ((), cs) ← literal '-' cs
  let (day, cs) ← upTo 2 cs
  some (⟨year, month, day⟩, cs)

/-- A time of day that is one. -/
def time : Reader Unit := fun cs => do
  let (hour, cs) ← upTo 2 cs
  let ((), cs) ← literal ':' cs
  let (minute, cs) ← upTo 2 cs
  let ((), cs) ← literal ':' cs
  let (second, cs) ← upTo 2 cs
  let ((), cs) ← fraction cs
  if isTime hour minute second then some ((), cs) else none

/-- What may stand between date and time. -/
inductive Separator where
  | letter
  | blank

/-- Reads a separator. White space may be absent. -/
def Separator.read : Separator → Reader Unit
  | .letter, cs => literal 'T' cs
  | .blank, cs => some ((), cs.dropWhile Text.isBlank)

/-- Whether the text is a date and a time of day. -/
def isDateTime (between : Separator) (cs : List Char) : Bool :=
  Option.isSome do
    let (d, cs) ← date cs
    let ((), cs) ← between.read cs
    let ((), cs) ← time cs
    if cs.isEmpty ∧ d.exists? then some () else none

/-- Whether the text is a date. -/
def isDate (cs : List Char) : Bool :=
  match date cs with
  | some (d, []) => d.exists?
  | _ => false

/-- Whether the text is a date, with or without a time of day, in loose columns. -/
def isLocal (cs : List Char) : Bool :=
  isDateTime .letter cs || isDateTime .blank cs || isDate cs

/-- Whether the text has one of the four forms. -/
def isValid (s : String) : Bool := isTimestamp s.toList || isLocal s.toList

end TaskQueue.DateText
