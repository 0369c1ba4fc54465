import TaskQueue.Time.DateText
import TaskQueue.Toml.Text

/-!
# `TaskQueue.Toml.Scalar`: numbers and dates of TOML

Underscores may stand between the digits of a number. Integers fit 64 bits. A date is written
back in one form: `T` between date and time, `Z` for no offset, and no zeros at the end of the
fraction of a second.
-/

set_option autoImplicit false

namespace TaskQueue.Toml

/-! ## Numbers -/

/-- Digits with single underscores between them; `none` after an underscore without a digit. -/
def digitRun (isDigit : Char → Bool) : List Char → Option (List Char × List Char)
  | [] => some ([], [])
  | [c] => if isDigit c then some ([c], []) else some ([], [c])
  | c :: d :: cs =>
    if isDigit c then
      if d = '_' then
        match cs with
        | [] => none
        | e :: _ =>
          if isDigit e then (digitRun isDigit cs).map fun r => (c :: r.1, r.2) else none
      else (digitRun isDigit (d :: cs)).map fun r => (c :: r.1, r.2)
    else some ([], c :: d :: cs)

/-- At least one digit. -/
def digits (isDigit : Char → Bool) : Reader (List Char) := fun cs => do
  let (ds, rest) ← digitRun isDigit cs
  if ds.isEmpty then none else some (ds, rest)

/-- A sign, if one is here. -/
def sign : List Char → Bool × List Char
  | '+' :: cs => (false, cs)
  | '-' :: cs => (true, cs)
  | cs => (false, cs)

/-- The digits of a decimal integer; a zero at the start stands alone. -/
def wholeDigits : Reader (List Char)
  | '0' :: cs => some (['0'], cs)
  | cs => digits DateText.isDigit cs

/-- The exponent of a float, if one is here. -/
def exponent? : List Char → Option (Option Int × List Char)
  | c :: cs =>
    if c = 'e' ∨ c = 'E' then do
      let (negative, cs) := sign cs
      let (ds, cs) ← digits DateText.isDigit cs
      let n : Int := DateText.number ds
      some (some (if negative then -n else n), cs)
    else some (none, c :: cs)
  | [] => some (none, [])

/-- The digits after the point, if one is here. -/
def fraction? : List Char → Option (Option (List Char) × List Char)
  | '.' :: cs => (digits DateText.isDigit cs).map fun r => (some r.1, r.2)
  | cs => some (none, cs)

/-- The integer with these digits in some base, if it fits 64 bits. -/
def integer? (negative : Bool) (base : Nat) (ds : List Char) : Option Int :=
  let n := ds.foldl (fun n c => n * base + (Percent.hexValue? c).getD 0) 0
  if negative then (if n ≤ Nat.pow 2 63 then some (-(n : Int)) else none)
  else if n < Nat.pow 2 63 then some (n : Int) else none

/-- An integer in another base than ten. -/
def basedInteger? (cs : List Char) : Option (Option (Int × List Char)) :=
  let based := fun (base : Nat) (isDigit : Char → Bool) (cs : List Char) => do
    let (ds, rest) ← digits isDigit cs
    let n ← integer? false base ds
    some (n, rest)
  match cs with
  | '0' :: 'x' :: rest => some (based 16 (fun c => (Percent.hexValue? c).isSome) rest)
  | '0' :: 'o' :: rest => some (based 8 (fun c => '0' ≤ c && c ≤ '7') rest)
  | '0' :: 'b' :: rest => some (based 2 (fun c => c == '0' || c == '1') rest)
  | _ => none

/-- Takes a word off the front. -/
def word? : List Char → List Char → Option (List Char)
  | [], cs => some cs
  | _ :: _, [] => none
  | w :: ws, c :: cs => if w = c then word? ws cs else none

/-- A number that is not finite, after its sign. -/
def special? (negative : Bool) (cs : List Char) : Option (Draft × List Char) :=
  match word? "inf".toList cs, word? "nan".toList cs with
  | some rest, _ => some (.float (.ok (.infinite negative)), rest)
  | none, some rest => some (.float (.ok .nan), rest)
  | none, none => none

/-- A float from its parts; one that is too great is malformed. -/
def float? (negative : Bool) (whole fraction : List Char) (exponent : Int) : Option Draft :=
  let x := Double.ofDecimal negative (DateText.number (whole ++ fraction))
    (exponent - fraction.length)
  if x = .infinite false then none else some (.float (.ok x))

/-- A number. -/
def number : Reader Draft := fun cs =>
  match basedInteger? cs with
  | some r => r.map fun r => (.int r.1, r.2)
  | none =>
    let (negative, rest) := sign cs
    match special? negative rest with
    | some r => some r
    | none => do
      let (whole, rest) ← wholeDigits rest
      let (fraction, rest) ← fraction? rest
      let (exponent, rest) ← exponent? rest
      match fraction, exponent with
      | none, none => do
        let n ← integer? negative 10 whole
        some (.int n, rest)
      | _, _ => do
        let d ← float? negative whole (fraction.getD []) (exponent.getD 0)
        some (d, rest)

/-! ## Dates -/

/-- A fraction of a second, to the nanosecond, without zeros at its end. -/
def secondFraction : Reader (List Char)
  | '.' :: cs =>
    match DateText.spanDigits cs with
    | ([], _) => none
    | (ds, rest) =>
      let ds := Duration.trimZeros (ds.take 9)
      some (if ds.isEmpty then [] else '.' :: ds, rest)
  | cs => some ([], cs)

/-- A time of day. -/
def timeOfDay : Reader (List Char) := fun cs => do
  let (hour, cs) ← DateText.exactly 2 cs
  let ((), cs) ← DateText.literal ':' cs
  let (minute, cs) ← DateText.exactly 2 cs
  let ((), cs) ← DateText.literal ':' cs
  let (second, cs) ← DateText.exactly 2 cs
  let (fraction, cs) ← secondFraction cs
  if DateText.isTime hour minute second then
    some (Duration.padded 2 hour ++ ':' :: (Duration.padded 2 minute ++
      ':' :: (Duration.padded 2 second ++ fraction)), cs)
  else none

/-- An offset, if one is here. -/
def offset? : List Char → Option (List Char × List Char)
  | c :: cs =>
    if c = 'Z' ∨ c = 'z' then some (['Z'], cs)
    else if c = '+' ∨ c = '-' then do
      let (hours, cs) ← DateText.exactly 2 cs
      let ((), cs) ← DateText.literal ':' cs
      let (minutes, cs) ← DateText.exactly 2 cs
      let shown := if hours = 0 ∧ minutes = 0 then '+' else c
      if hours < 24 ∧ minutes < 60 then
        some (shown :: (Duration.padded 2 hours ++ ':' :: Duration.padded 2 minutes), cs)
      else none
    else some ([], c :: cs)
  | [] => some ([], [])

/-- A day that exists. -/
def day : Reader (List Char) := fun cs => do
  let (year, cs) ← DateText.exactly 4 cs
  let ((), cs) ← DateText.literal '-' cs
  let (month, cs) ← DateText.exactly 2 cs
  let ((), cs) ← DateText.literal '-' cs
  let (day, cs) ← DateText.exactly 2 cs
  let d : Date := ⟨year, month, day⟩
  if d.exists? then some (d.chars, cs) else none

/-- Whether a date begins here: four digits and a dash. -/
def beginsDay (cs : List Char) : Bool :=
  (cs.take 4).all DateText.isDigit && cs[4]? == some '-'

/-- Whether a time of day begins here: two digits and a colon. -/
def beginsTime (cs : List Char) : Bool :=
  (cs.take 2).all DateText.isDigit && cs[2]? == some ':'

/-- A date, a time of day, or both with an offset. -/
def datetime : Reader (List Char) := fun cs =>
  if beginsTime cs then timeOfDay cs
  else do
    let (d, cs) ← day cs
    match cs with
    | c :: rest =>
      if (c = 'T' ∨ c = 't' ∨ c = ' ') ∧ beginsTime rest then do
        let (t, rest) ← timeOfDay rest
        let (o, rest) ← offset? rest
        some (d ++ 'T' :: (t ++ o), rest)
      else some (d, c :: rest)
    | [] => some (d, [])

/-- The key under which a date is passed on. -/
def datetimeKey : String := "$__toml_private_datetime"

/-- A number or a date. -/
def numberOrDate : Reader Draft := fun cs =>
  if beginsDay cs || beginsTime cs then do
    let (text, cs) ← datetime cs
    some (.object [(.ok datetimeKey, .string (.ok (String.ofList text)))] none, cs)
  else number cs

end TaskQueue.Toml
