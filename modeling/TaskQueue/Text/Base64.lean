import TaskQueue.Text.Utf8

/-!
# `TaskQueue.Text.Base64`: bytes as printable text

The body of a message on a Redis list is Base64 with the standard alphabet and padding.
Three bytes become four letters of six bits each; one or two bytes at the end become two or
three letters, filled up with `=`.
-/

set_option autoImplicit false

namespace TaskQueue.Base64

/-- The letter for six bits. -/
def letter (n : Nat) : Char :=
  let d := n % 64
  if d < 26 then Char.ofNat (0x41 + d)
  else if d < 52 then Char.ofNat (0x61 + (d - 26))
  else if d < 62 then Char.ofNat (0x30 + (d - 52))
  else if d = 62 then '+'
  else '/'

/-- The six bits of a letter. -/
def value? (c : Char) : Option Nat :=
  if 'A' ≤ c ∧ c ≤ 'Z' then some (c.toNat - 0x41)
  else if 'a' ≤ c ∧ c ≤ 'z' then some (c.toNat - 0x61 + 26)
  else if '0' ≤ c ∧ c ≤ '9' then some (c.toNat - 0x30 + 52)
  else if c = '+' then some 62
  else if c = '/' then some 63
  else none

/-- The letters of the bytes. -/
def encodeBytes : Bytes → List Char
  | a :: b :: c :: rest =>
    let n := a.toNat * 65536 + b.toNat * 256 + c.toNat
    letter (n / 262144) :: letter (n / 4096) :: letter (n / 64) :: letter n :: encodeBytes rest
  | [a, b] =>
    let n := a.toNat * 65536 + b.toNat * 256
    [letter (n / 262144), letter (n / 4096), letter (n / 64), '=']
  | [a] =>
    let n := a.toNat * 65536
    [letter (n / 262144), letter (n / 4096), '=', '=']
  | [] => []

/-- The bytes as text. -/
def encode (bs : Bytes) : String := String.ofList (encodeBytes bs)

/-- The bytes of the letters, if the letters come in whole groups and leave no bits over. -/
def decodeChars : List Char → Option Bytes
  | [] => some []
  | [a, b, '=', '='] => do
    let n := (← value? a) * 64 + (← value? b)
    if n % 16 = 0 then some [UInt8.ofNat (n / 16)] else none
  | [a, b, c, '='] => do
    let n := (← value? a) * 4096 + (← value? b) * 64 + (← value? c)
    if n % 4 = 0 then some [UInt8.ofNat (n / 1024), UInt8.ofNat (n / 4)] else none
  | a :: b :: c :: d :: rest => do
    let n := (← value? a) * 262144 + (← value? b) * 4096 + (← value? c) * 64 + (← value? d)
    let bs ← decodeChars rest
    some (UInt8.ofNat (n / 65536) :: UInt8.ofNat (n / 256) :: UInt8.ofNat n :: bs)
  | _ => none

/-- The bytes of the text. -/
def decode? (s : String) : Option Bytes := decodeChars s.toList

end TaskQueue.Base64
