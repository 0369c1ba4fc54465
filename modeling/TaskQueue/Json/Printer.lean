import TaskQueue.Json.Basic
import TaskQueue.Number.Shortest
import TaskQueue.Text.Quoted

/-!
# `TaskQueue.Json.Printer`: the text of a value

Values are written without blanks. A string escapes quotes, backslashes and control
characters, and leaves every other character as it is. A floating-point number shows that it
is one: it is written with a point or with an exponent, in the fewest digits that read back.
-/

set_option autoImplicit false

namespace TaskQueue.Json

/-- The decimal digits of a natural number. -/
def natChars (n : Nat) : List Char := Nat.toDigits 10 n

/-- An integer in decimal. -/
def intChars (n : Int) : List Char :=
  if n < 0 then '-' :: natChars n.natAbs else natChars n.natAbs

/-- Where a floating-point number changes from positional to exponent notation: the least and
the first too great exponent of the leading digit. -/
structure FloatLayout where
  leastPositional : Int
  positionalEnd : Int

/-- Numbers from `0.00001` up to below `10 ^ 16` are written positionally. -/
def floatLayout : FloatLayout := ⟨-5, 16⟩

/-- The digits `d` with the first at exponent `e`, written positionally with a point. -/
def positional (d : List Char) (e : Int) : List Char :=
  if e < 0 then '0' :: '.' :: (List.replicate (-e - 1).toNat '0' ++ d)
  else
    let whole := e.toNat + 1
    if d.length ≤ whole then d ++ List.replicate (whole - d.length) '0' ++ ['.', '0']
    else d.take whole ++ '.' :: d.drop whole

/-- The digits `d` with the first at exponent `e`, written with an exponent and its sign. -/
def exponential (d : List Char) (e : Int) : List Char :=
  let sign := if e < 0 then '-' else '+'
  match d with
  | [] => []
  | [a] => a :: 'e' :: sign :: natChars e.natAbs
  | a :: rest => a :: '.' :: (rest ++ 'e' :: sign :: natChars e.natAbs)

/-- A floating-point number; what is not finite has no form in JSON and becomes `null`. -/
def floatChars : Double → List Char
  | .finite negative m e =>
    let body :=
      if m = 0 then ['0', '.', '0']
      else
        let ⟨d, x⟩ := Double.shortest m e
        if floatLayout.leastPositional ≤ x ∧ x < floatLayout.positionalEnd then
          positional (natChars d) x
        else exponential (natChars d) x
    if negative then '-' :: body else body
  | _ => "null".toList

/-- A hexadecimal digit in small letters. -/
def hexChar (n : Nat) : Char := if n < 10 then Char.ofNat (0x30 + n) else Char.ofNat (0x57 + n)

/-- One character of a string. -/
def escapeChar (c : Char) : List Char :=
  if c = '"' then ['\\', '"']
  else if c = '\\' then ['\\', '\\']
  else if c.toNat = 8 then ['\\', 'b']
  else if c.toNat = 12 then ['\\', 'f']
  else if c = '\n' then ['\\', 'n']
  else if c = '\r' then ['\\', 'r']
  else if c = '\t' then ['\\', 't']
  else if c.toNat < 32 then
    ['\\', 'u', '0', '0', hexChar (c.toNat / 16), hexChar (c.toNat % 16)]
  else [c]

/-- A string between quotes. -/
def stringChars (s : String) : List Char := '"' :: (s.toList.flatMap escapeChar ++ ['"'])

mutual

/-- The characters of a value. -/
def chars : Json → List Char
  | .null => ['n', 'u', 'l', 'l']
  | .bool true => ['t', 'r', 'u', 'e']
  | .bool false => ['f', 'a', 'l', 's', 'e']
  | .int n => intChars n
  | .float x => floatChars x
  | .string s => stringChars s
  | .array items => '[' :: itemsChars items
  | .object members => '{' :: membersChars members

/-- Items with the bracket that closes them. -/
def itemsChars : List Json → List Char
  | [] => [']']
  | x :: xs => chars x ++ moreItemsChars xs

/-- The rest of the items after the first. -/
def moreItemsChars : List Json → List Char
  | [] => [']']
  | x :: xs => ',' :: (chars x ++ moreItemsChars xs)

/-- Members with the brace that closes them. -/
def membersChars : List (String × Json) → List Char
  | [] => ['}']
  | (k, v) :: ms => stringChars k ++ ':' :: (chars v ++ moreMembersChars ms)

/-- The rest of the members after the first. -/
def moreMembersChars : List (String × Json) → List Char
  | [] => ['}']
  | (k, v) :: ms => ',' :: (stringChars k ++ ':' :: (chars v ++ moreMembersChars ms))

end

/-- The text of a value. -/
def text (v : Json) : String := String.ofList (chars v)

end TaskQueue.Json
