import TaskQueue.Json.Basic
import TaskQueue.Text.Utf8

/-!
# `TaskQueue.Json.Draft`: a text read as far as it is JSON

Decoders report the first fault of a text in document order, and which faults count depends
on what the decoder wants of each part: a member nobody asked for is only skipped, so an
escape without meaning inside it does not matter. A text is therefore read once into a
`Draft`. That is the tree of the text with each fault left at its place: in a string or a
number, at the end of an unfinished list, or in place of a value. The decoders walk the draft
in document order and raise a fault when they come to it.

A `Break` is a fault that stops the reading. It has two faces, since skipping a value finds
other words for some of them than reading it does.
-/

set_option autoImplicit false

namespace TaskQueue

/-- Why a text cannot be decoded. -/
inductive Fault where
  | endInValue
  | endInString
  | endInList
  | endInObject
  | expectedValue
  | expectedWord
  | expectedColon
  | expectedListComma
  | expectedObjectComma
  | keyMustBeString
  | trailingComma
  | trailingCharacters
  | badNumber
  | badEscape
  | unfinishedHexEscape
  | loneSurrogate
  | badCodePoint
  | controlCharacter
  | numberOutOfRange
  | tooDeep
  | missingField (name : String)
  | duplicateField (name : String)
  | wrongType (got want : String)
  | wrongValue (got want : String)
  | wrongLength (length : Nat) (want : String)
  | unknownVariant (got : String) (known : List String)
deriving DecidableEq, Repr

namespace Fault

/-- A name between backquotes. -/
def ticked (s : String) : String := "\x60" ++ s ++ "\x60"

/-- The wording of a fault. -/
def message : Fault → String
  | endInValue => "EOF while parsing a value"
  | endInString => "EOF while parsing a string"
  | endInList => "EOF while parsing a list"
  | endInObject => "EOF while parsing an object"
  | expectedValue => "expected value"
  | expectedWord => "expected ident"
  | expectedColon => "expected " ++ ticked ":"
  | expectedListComma => "expected " ++ ticked "," ++ " or " ++ ticked "]"
  | expectedObjectComma => "expected " ++ ticked "," ++ " or " ++ ticked "\x7d"
  | keyMustBeString => "key must be a string"
  | trailingComma => "trailing comma"
  | trailingCharacters => "trailing characters"
  | badNumber => "invalid number"
  | badEscape => "invalid escape"
  | unfinishedHexEscape => "unexpected end of hex escape"
  | loneSurrogate => "lone leading surrogate in hex escape"
  | badCodePoint => "invalid unicode code point"
  | controlCharacter => "control character (\\u0000-\\u001F) found while parsing a string"
  | numberOutOfRange => "number out of range"
  | tooDeep => "recursion limit exceeded"
  | missingField name => "missing field " ++ ticked name
  | duplicateField name => "duplicate field " ++ ticked name
  | wrongType got want => "invalid type: " ++ got ++ ", expected " ++ want
  | wrongValue got want => "invalid value: " ++ got ++ ", expected " ++ want
  | wrongLength n want => "invalid length " ++ toString n ++ ", expected " ++ want
  | unknownVariant got known =>
    "unknown variant " ++ ticked got ++ ", expected one of "
      ++ String.intercalate ", " (known.map ticked)

end Fault

/-- A fault that stops the reading: what a reader says, and what is said when the part is
skipped. -/
structure Break where
  read : Fault
  skip : Fault
deriving DecidableEq, Repr

/-- A break that both readings call the same. -/
def Break.same (f : Fault) : Break := ⟨f, f⟩

/-- A text as far as it could be read. `int`, `float` and `string` may carry a fault that only
matters to who wants the value. The `ending` of a list or an object is the break that cut it
short; there is none if the last part is broken itself. -/
inductive Draft where
  | null
  | bool (b : Bool)
  | int (n : Int)
  | float (x : Except Fault Double)
  | string (s : Except Fault String)
  | array (items : List Draft) (ending : Option Break)
  | object (members : List (Except Fault String × Draft)) (ending : Option Break)
  | broken (b : Break)

namespace Draft

open Utf8 (Piece)

/-- Blanks between the parts of a text. -/
def isGap : Piece → Bool
  | .char c => c == ' ' || c == '\n' || c == '\t' || c == '\r'
  | .stray _ => false

/-- The text after the blanks at its start. -/
def skipGaps (ps : List Piece) : List Piece := ps.dropWhile isGap

/-! ## Strings -/

/-- Where the reading of a string stands. A `lead` is the first half of a surrogate pair. -/
inductive Mode where
  | plain
  | escape
  | hex (lead : Option Nat) (count value : Nat)
  | lead (n : Nat)
  | leadEscape (n : Nat)
deriving DecidableEq, Repr

/-- What has been read of a string: its characters, last first; the first fault that matters
to a reader only; and whether a byte was no text. -/
structure Partial where
  mode : Mode
  text : List Char
  soft : Option Fault
  stray : Bool

/-- A string before its first character. -/
def Partial.start : Partial := ⟨.plain, [], none, false⟩

/-- Records a fault that a skipper does not mind; the first one stays. -/
def Partial.note (s : Partial) (f : Fault) : Partial := { s with soft := s.soft.or (some f) }

/-- Appends a character. -/
def Partial.push (s : Partial) (c : Char) : Partial :=
  { s with mode := .plain, text := c :: s.text }

/-- What one more character does. -/
inductive Step where
  | more (s : Partial)
  | closed (s : Partial)
  | stop (b : Break)

/-- A string cannot go on. A reader may have met a fault before. -/
def Partial.stop (s : Partial) (f : Fault) : Step := .stop ⟨s.soft.getD f, f⟩

/-- The value of a hexadecimal digit. -/
def hexValue? (c : Char) : Option Nat :=
  if '0' ≤ c ∧ c ≤ '9' then some (c.toNat - 0x30)
  else if 'a' ≤ c ∧ c ≤ 'f' then some (c.toNat - 0x57)
  else if 'A' ≤ c ∧ c ≤ 'F' then some (c.toNat - 0x37)
  else none

/-- A character outside of escapes. -/
def stepPlain (s : Partial) : Piece → Step
  | .char c =>
    if c = '"' then .closed s
    else if c = '\\' then .more { s with mode := .escape }
    else if c.toNat < 32 then s.stop .controlCharacter
    else .more (s.push c)
  | .stray _ => .more { s with mode := .plain, stray := true }

/-- The character after a backslash. -/
def stepEscape (s : Partial) : Piece → Step
  | .char c =>
    if c = '"' ∨ c = '\\' ∨ c = '/' then .more (s.push c)
    else if c = 'b' then .more (s.push (Char.ofNat 8))
    else if c = 'f' then .more (s.push (Char.ofNat 12))
    else if c = 'n' then .more (s.push '\n')
    else if c = 'r' then .more (s.push '\r')
    else if c = 't' then .more (s.push '\t')
    else if c = 'u' then .more { s with mode := .hex none 0 0 }
    else s.stop .badEscape
  | .stray _ => s.stop .badEscape

/-- What four hexadecimal digits stand for, alone or after the first half of a pair. -/
def finishHex (s : Partial) (lead : Option Nat) (n : Nat) : Partial :=
  match lead with
  | none =>
    if 0xDC00 ≤ n ∧ n ≤ 0xDFFF then { s with mode := .plain }.note .loneSurrogate
    else if 0xD800 ≤ n ∧ n ≤ 0xDBFF then { s with mode := .lead n }
    else s.push (Char.ofNat n)
  | some m =>
    if 0xDC00 ≤ n ∧ n ≤ 0xDFFF then
      s.push (Char.ofNat ((m - 0xD800) * 1024 + (n - 0xDC00) + 0x10000))
    else { s with mode := .plain }.note .loneSurrogate

/-- How many bytes the pieces were read from. -/
def byteCount (ps : List Piece) : Nat := ps.foldr (fun p n => p.bytes.length + n) 0

/-- One more piece of a string; `rest` is what follows it. -/
def step (s : Partial) (p : Piece) (rest : List Piece) : Step :=
  match s.mode with
  | .plain => stepPlain s p
  | .escape => stepEscape s p
  | .hex lead count value =>
    let digit := match p with
      | .char c => hexValue? c
      | .stray _ => none
    match digit with
    | some d =>
      let value := value * 16 + d
      if count = 3 then .more (finishHex s lead value)
      else .more { s with mode := .hex lead (count + 1) value }
    -- Four bytes are looked at together, so a text that ends sooner is only cut short.
    | none => s.stop (if 4 ≤ count + byteCount (p :: rest) then .badEscape else .endInString)
  | .lead n =>
    if p = .char '\\' then .more { s with mode := .leadEscape n }
    else stepPlain ({ s with mode := .plain }.note .unfinishedHexEscape) p
  | .leadEscape n =>
    if p = .char 'u' then .more { s with mode := .hex (some n) 0 0 }
    else stepEscape ({ s with mode := .escape }.note .unfinishedHexEscape) p

/-- The content of a string that was closed. -/
def Partial.content (s : Partial) : Except Fault String :=
  match s.soft with
  | some f => .error f
  | none => if s.stray then .error .badCodePoint else .ok (String.ofList s.text.reverse)

/-- A string after its opening quote: its content and what follows the closing quote, or the
break in it. -/
def scanString (s : Partial) : List Piece → Except Break (Except Fault String × List Piece)
  | [] => .error ⟨s.soft.getD .endInString, .endInString⟩
  | p :: rest =>
    match step s p rest with
    | .more s' => scanString s' rest
    | .closed s' => .ok (s'.content, rest)
    | .stop b => .error b

/-! ## Numbers -/

/-- The value of a decimal digit. -/
def digit? : Piece → Option Nat
  | .char c => if '0' ≤ c ∧ c ≤ '9' then some (c.toNat - 0x30) else none
  | .stray _ => none

/-- The digits at the start and what follows them. -/
def takeDigits : List Piece → List Nat × List Piece
  | [] => ([], [])
  | p :: rest =>
    match digit? p with
    | some d => let (ds, r) := takeDigits rest; (d :: ds, r)
    | none => ([], p :: rest)

/-- A number as it is written: sign, whole digits, digits after the point, and the exponent
with its sign. -/
structure Numeral where
  negative : Bool
  whole : List Nat
  fraction : Option (List Nat)
  exponent : Option (Bool × List Nat)
deriving DecidableEq, Repr

/-- The greatest significand that is kept. -/
def maxSignificand : Nat := Nat.pow 2 64 - 1

/-- Appends digits to a significand while it stays in 64 bits; gives the significand and how
many digits were taken. -/
def accumulate : Nat → List Nat → Nat × Nat
  | s, [] => (s, 0)
  | s, d :: ds =>
    if s * 10 + d ≤ maxSignificand then
      let (t, k) := accumulate (s * 10 + d) ds
      (t, k + 1)
    else (s, 0)

/-- `10 ^ n` in the format. -/
def powerOfTen (n : Nat) : Double := Double.ofDecimal false 1 n

/-- Scales a significand by a power of ten, by one operation in the format for exponents up to
308 and by steps of 308 below that. -/
def scale : (steps : Nat) → Double → Int → Except Fault Double
  | steps, x, e =>
    if e.natAbs ≤ 308 then
      if 0 ≤ e then
        let y := x.mul (powerOfTen e.toNat)
        if y.isFinite then .ok y else .error .numberOutOfRange
      else .ok (x.div (powerOfTen (-e).toNat))
    else if x.isZero then .ok x
    else if 0 ≤ e then .error .numberOutOfRange
    else
      match steps with
      | 0 => .ok Double.zero
      | k + 1 => scale k (x.div (powerOfTen 308)) (e + 308)

/-- The natural number with these decimal digits. -/
def natOfDigits (ds : List Nat) : Nat := ds.foldl (fun n d => n * 10 + d) 0

/-- The greatest exponent that is counted. -/
def maxExponent : Nat := Nat.pow 2 31 - 1

/-- A numeral with a point, an exponent or too many digits: the significand, scaled. -/
def Numeral.double (n : Numeral) : Except Fault Double :=
  let (s, kept) := accumulate 0 n.whole
  let dropped := n.whole.length - kept
  let (s, places) := accumulate s (n.fraction.getD [])
  let e : Int := (dropped : Int) - (places : Int)
  let signed := fun (x : Double) => if n.negative then x.neg else x
  match n.exponent with
  | none => (scale 4 (Double.ofNat s) e).map signed
  | some (negative, ds) =>
    let x := natOfDigits ds
    if maxExponent < x then
      if s ≠ 0 ∧ !negative then .error .numberOutOfRange else .ok (signed Double.zero)
    else
      let e := if negative then e - x else e + x
      let e := max (-(Nat.pow 2 31 : Int)) (min e (Nat.pow 2 31 - 1))
      (scale 4 (Double.ofNat s) e).map signed

/-- The value of a numeral. Whole numbers that fit 64 bits stay exact, except for `-0`. -/
def Numeral.draft (n : Numeral) : Draft :=
  match n.fraction, n.exponent with
  | none, none =>
    let m := natOfDigits n.whole
    if n.negative then
      if m ≠ 0 ∧ m ≤ Nat.pow 2 63 then .int (-(m : Int)) else .float n.double
    else if m ≤ maxSignificand then .int m else .float n.double
  | _, _ => .float n.double

/-- A text that ends inside a number. -/
def endInNumber (rest : List Piece) : Break :=
  if rest.isEmpty then ⟨.endInValue, .badNumber⟩ else .same .badNumber

/-- The exponent of a number, if one follows. -/
def scanExponent : List Piece → Except Break (Option (Bool × List Nat) × List Piece)
  | .char c :: rest =>
    if c = 'e' ∨ c = 'E' then
      let (negative, rest) := match rest with
        | .char '+' :: r => (false, r)
        | .char '-' :: r => (true, r)
        | r => (false, r)
      match takeDigits rest with
      | ([], r) => .error (endInNumber r)
      | (ds, r) => .ok (some (negative, ds), r)
    else .ok (none, .char c :: rest)
  | ps => .ok (none, ps)

/-- The digits after the point, if one follows. -/
def scanFraction : List Piece → Except Break (Option (List Nat) × List Piece)
  | .char '.' :: rest =>
    match takeDigits rest with
    | ([], r) => .error (endInNumber r)
    | (ds, r) => .ok (some ds, r)
  | ps => .ok (none, ps)

/-- A number after its sign. A zero at the start stands alone. -/
def scanNumber (negative : Bool) (ps : List Piece) : Except Break (Numeral × List Piece) :=
  match takeDigits ps with
  | ([], r) => .error (endInNumber r)
  | (0 :: _ :: _, _) => .error (.same .badNumber)
  | (whole, r) => do
    let (fraction, r) ← scanFraction r
    let (exponent, r) ← scanExponent r
    .ok (⟨negative, whole, fraction, exponent⟩, r)

/-! ## Values -/

/-- Takes the letters of a word off the start of a text. -/
def scanWord : List Char → List Piece → Except Break (List Piece)
  | [], ps => .ok ps
  | _ :: _, [] => .error (.same .endInValue)
  | c :: cs, p :: ps => if p = .char c then scanWord cs ps else .error (.same .expectedWord)

/-- How a list or an object ends: closed with more text behind it, cut short, or with its last
part broken. -/
inductive Tail where
  | closed (rest : List Piece)
  | cut (b : Break)
  | inside

/-- The break of an ending. -/
def Tail.ending : Tail → Option Break
  | .cut b => some b
  | _ => none

/-- The text behind an ending. -/
def Tail.rest : Tail → Option (List Piece)
  | .closed r => some r
  | _ => none

mutual

/-- Reads one value; there is a rest if the reading can go on behind it. -/
def readValue : (fuel : Nat) → List Piece → Draft × Option (List Piece)
  | 0, _ => (.broken (.same .tooDeep), none)
  | fuel + 1, ps =>
    match skipGaps ps with
    | [] => (.broken (.same .endInValue), none)
    | .stray _ :: _ => (.broken (.same .expectedValue), none)
    | .char c :: rest =>
      if c = 'n' then
        match scanWord ['u', 'l', 'l'] rest with
        | .ok r => (.null, some r)
        | .error b => (.broken b, none)
      else if c = 't' then
        match scanWord ['r', 'u', 'e'] rest with
        | .ok r => (.bool true, some r)
        | .error b => (.broken b, none)
      else if c = 'f' then
        match scanWord ['a', 'l', 's', 'e'] rest with
        | .ok r => (.bool false, some r)
        | .error b => (.broken b, none)
      else if c = '"' then
        match scanString .start rest with
        | .ok (s, r) => (.string s, some r)
        | .error b => (.broken b, none)
      else if c = '[' then
        let (items, tail) := readItems fuel true rest
        (.array items tail.ending, tail.rest)
      else if c = '{' then
        let (members, tail) := readMembers fuel true rest
        (.object members tail.ending, tail.rest)
      else if c = '-' then
        match scanNumber true rest with
        | .ok (n, r) => (n.draft, some r)
        | .error b => (.broken b, none)
      else if (digit? (.char c)).isSome then
        match scanNumber false (.char c :: rest) with
        | .ok (n, r) => (n.draft, some r)
        | .error b => (.broken b, none)
      else (.broken (.same .expectedValue), none)

/-- Reads the items of a list up to its closing bracket. -/
def readItems : (fuel : Nat) → (first : Bool) → List Piece → List Draft × Tail
  | 0, _, _ => ([], .cut (.same .tooDeep))
  | fuel + 1, first, ps =>
    match skipGaps ps with
    | [] => ([], .cut (.same .endInList))
    | .char ']' :: rest => ([], .closed rest)
    | p :: rest =>
      if first then readItem fuel (p :: rest)
      else if p = .char ',' then
        match skipGaps rest with
        | [] => ([], .cut (.same .endInValue))
        | .char ']' :: _ => ([], .cut ⟨.trailingComma, .expectedValue⟩)
        | q :: r => readItem fuel (q :: r)
      else ([], .cut (.same .expectedListComma))

/-- Reads an item and those after it. -/
def readItem : (fuel : Nat) → List Piece → List Draft × Tail
  | 0, _ => ([], .cut (.same .tooDeep))
  | fuel + 1, ps =>
    match readValue fuel ps with
    | (d, none) => ([d], .inside)
    | (d, some rest) =>
      let (ds, tail) := readItems fuel false rest
      (d :: ds, tail)

/-- Reads the members of an object up to its closing brace. -/
def readMembers : (fuel : Nat) → (first : Bool) → List Piece →
    List (Except Fault String × Draft) × Tail
  | 0, _, _ => ([], .cut (.same .tooDeep))
  | fuel + 1, first, ps =>
    match skipGaps ps with
    | [] => ([], .cut (.same .endInObject))
    | .char '}' :: rest => ([], .closed rest)
    | p :: rest =>
      if first then
        if p = .char '"' then readMember fuel rest else ([], .cut (.same .keyMustBeString))
      else if p = .char ',' then
        match skipGaps rest with
        | [] => ([], .cut ⟨.endInValue, .endInObject⟩)
        | .char '"' :: r => readMember fuel r
        | .char '}' :: _ => ([], .cut ⟨.trailingComma, .keyMustBeString⟩)
        | _ => ([], .cut (.same .keyMustBeString))
      else ([], .cut (.same .expectedObjectComma))

/-- Reads a member after the opening quote of its key, and those after it. -/
def readMember : (fuel : Nat) → List Piece → List (Except Fault String × Draft) × Tail
  | 0, _ => ([], .cut (.same .tooDeep))
  | fuel + 1, ps =>
    match scanString .start ps with
    | .error b => ([], .cut b)
    | .ok (key, rest) =>
      match skipGaps rest with
      | [] => ([(key, .broken (.same .endInObject))], .inside)
      | p :: r =>
        if p = .char ':' then
          match readValue fuel r with
          | (d, none) => ([(key, d)], .inside)
          | (d, some r') =>
            let (ms, tail) := readMembers fuel false r'
            ((key, d) :: ms, tail)
        else ([(key, .broken (.same .expectedColon))], .inside)

end

/-- A whole text: its value, and whether something other than blanks follows it. -/
structure Document where
  root : Draft
  trailing : Bool

/-- Reads a text. Three steps of fuel pay for each piece, as a piece is behind at most one
value, one list and one item. -/
def ofPieces (ps : List Piece) : Document :=
  match readValue (3 * ps.length + 1) ps with
  | (d, none) => ⟨d, false⟩
  | (d, some rest) => ⟨d, !(skipGaps rest).isEmpty⟩

end Draft
end TaskQueue
