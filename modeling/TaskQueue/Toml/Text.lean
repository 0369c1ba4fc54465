import TaskQueue.Json.Draft
import TaskQueue.Text.Percent

/-!
# `TaskQueue.Toml.Text`: blanks, strings and keys of TOML

Readers take what they read off the front of the text, or fail. A string stands between double
quotes, where a backslash begins an escape, or between single quotes, where nothing does. Three
quotes begin a string that may go over several lines.
-/

set_option autoImplicit false

namespace TaskQueue.Toml

/-- A reader: the value and the rest of the text, or nothing if the text is malformed. -/
abbrev Reader (α : Type) := List Char → Option (α × List Char)

/-- Whether the character is a blank within a line. -/
def isBlank (c : Char) : Bool := c == ' ' || c == '\t'

/-- Skips blanks within a line. -/
def skipBlanks (cs : List Char) : List Char := cs.dropWhile isBlank

/-- Whether the character may stand in a comment: a tab, or no control character. -/
def isVisible (c : Char) : Bool := c == '\t' || (0x20 ≤ c.toNat && c.toNat != 0x7F)

/-- Skips a comment, if one is here. -/
def skipComment : List Char → List Char
  | '#' :: cs => cs.dropWhile isVisible
  | cs => cs

/-- Takes a line break. -/
def newline? : List Char → Option (List Char)
  | '\n' :: cs => some cs
  | '\r' :: '\n' :: cs => some cs
  | _ => none

/-- Ends a line: blanks, a comment, and a line break or the end of the text. -/
def endLine? (cs : List Char) : Option (List Char) :=
  match skipComment (skipBlanks cs) with
  | [] => some []
  | cs => newline? cs

/-- Skips blanks, comments and line breaks. Each round takes a line. -/
def skipLines : (rounds : Nat) → List Char → List Char
  | 0, cs => cs
  | rounds + 1, cs =>
    let cs := skipComment (skipBlanks cs)
    match newline? cs with
    | some rest => skipLines rounds rest
    | none => cs

/-! ## Strings -/

/-- The number that hexadecimal digits write. -/
def hexNumber? (ds : List Char) : Option Nat :=
  ds.foldl (fun n c => do some ((← n) * 16 + (← Percent.hexValue? c))) (some 0)

/-- A character given by so many hexadecimal digits. -/
def hexChar (width : Nat) : Reader Char := fun cs => do
  let ds := cs.take width
  if ds.length = width then
    let n ← hexNumber? ds
    if n < 0xD800 ∨ (0xDFFF < n ∧ n < 0x110000) then some (Char.ofNat n, cs.drop width) else none
  else none

/-- An escape after its backslash. -/
def escape : Reader Char
  | 'b' :: cs => some (Char.ofNat 8, cs)
  | 't' :: cs => some ('\t', cs)
  | 'n' :: cs => some ('\n', cs)
  | 'f' :: cs => some (Char.ofNat 12, cs)
  | 'r' :: cs => some ('\r', cs)
  | '"' :: cs => some ('"', cs)
  | '\\' :: cs => some ('\\', cs)
  | 'u' :: cs => hexChar 4 cs
  | 'U' :: cs => hexChar 8 cs
  | _ => none

/-- A string of one line between double quotes, after the first. -/
def basicString : (fuel : Nat) → Reader (List Char)
  | 0, _ => none
  | _ + 1, [] => none
  | fuel + 1, c :: cs =>
    if c = '"' then some ([], cs)
    else if c = '\\' then do
      let (d, cs) ← escape cs
      let (ds, cs) ← basicString fuel cs
      some (d :: ds, cs)
    else if isVisible c then do
      let (ds, cs) ← basicString fuel cs
      some (c :: ds, cs)
    else none

/-- A string of one line between single quotes, after the first. -/
def literalString : Reader (List Char)
  | [] => none
  | c :: cs =>
    if c = '\'' then some ([], cs)
    else if isVisible c then (literalString cs).map fun r => (c :: r.1, r.2)
    else none

/-- The number of quotes at the front, and what follows them. -/
def spanQuotes (quote : Char) (cs : List Char) : Nat × List Char :=
  ((cs.takeWhile (· == quote)).length, cs.dropWhile (· == quote))

/-- Skips blanks and line breaks. -/
def skipSpace : List Char → List Char
  | [] => []
  | '\r' :: '\n' :: cs => skipSpace cs
  | c :: cs => if isBlank c || c == '\n' then skipSpace cs else c :: cs

/-- Whether a backslash stands at the end of its line; then the blanks and line breaks after
it do not count. -/
def continued? (cs : List Char) : Option (List Char) :=
  (newline? (skipBlanks cs)).map skipSpace

/-- A string of several lines, after the opening quotes. Up to two quotes in front of the
closing ones belong to the string. -/
def longString (quote : Char) (escapes : Bool) : (fuel : Nat) → Reader (List Char)
  | 0, _ => none
  | _ + 1, [] => none
  | fuel + 1, c :: cs =>
    if c = quote then
      match spanQuotes quote (c :: cs) with
      | (n, rest) =>
        if 6 ≤ n then none
        else if 3 ≤ n then some (List.replicate (n - 3) quote, rest)
        else do
          let (ds, rest) ← longString quote escapes fuel rest
          some (List.replicate n quote ++ ds, rest)
    else if c = '\\' ∧ escapes then
      match continued? cs with
      | some rest => longString quote escapes fuel rest
      | none => do
        let (d, rest) ← escape cs
        let (ds, rest) ← longString quote escapes fuel rest
        some (d :: ds, rest)
    else
      match newline? (c :: cs) with
      | some rest => do
        let (ds, rest) ← longString quote escapes fuel rest
        some ('\n' :: ds, rest)
      | none =>
        if isVisible c then do
          let (ds, rest) ← longString quote escapes fuel cs
          some (c :: ds, rest)
        else none

/-- Skips the line break right after the opening quotes. -/
def skipFirstBreak (cs : List Char) : List Char := (newline? cs).getD cs

/-- A string. -/
def string : Reader String := fun cs =>
  let fuel := cs.length + 1
  let r := match cs with
    | '"' :: '"' :: '"' :: rest => longString '"' true fuel (skipFirstBreak rest)
    | '"' :: rest => basicString fuel rest
    | '\'' :: '\'' :: '\'' :: rest => longString '\'' false fuel (skipFirstBreak rest)
    | '\'' :: rest => literalString rest
    | _ => none
  r.map fun r => (String.ofList r.1, r.2)

/-! ## Keys -/

/-- Whether the character may stand in a key without quotes. -/
def isBare (c : Char) : Bool := c.isAlphanum || c == '_' || c == '-'

/-- A key without points. -/
def simpleKey : Reader String
  | '"' :: cs => (basicString (cs.length + 1) cs).map fun r => (String.ofList r.1, r.2)
  | '\'' :: cs => (literalString cs).map fun r => (String.ofList r.1, r.2)
  | cs =>
    let ds := cs.takeWhile isBare
    if ds.isEmpty then none else some (String.ofList ds, cs.dropWhile isBare)

/-- Keys with points between them, with blanks around each. -/
def keys : (fuel : Nat) → Reader (List String)
  | 0, _ => none
  | fuel + 1, cs => do
    let (k, cs) ← simpleKey (skipBlanks cs)
    match skipBlanks cs with
    | '.' :: rest =>
      let (ks, rest) ← keys fuel rest
      some (k :: ks, rest)
    | rest => some ([k], rest)

/-- Keys may not nest deeper than this. -/
def maxDepth : Nat := 80

/-- A dotted key: the keys on the way, and the last one. -/
def dottedKey : Reader (List String × String) := fun cs => do
  let (ks, cs) ← keys (cs.length + 1) cs
  match ks.getLast? with
  | some k => if ks.length ≤ maxDepth then some ((ks.dropLast, k), cs) else none
  | none => none

end TaskQueue.Toml
