import TaskQueue.Text.Utf8

/-!
# `TaskQueue.Text.Percent`: percent-encoding

Credentials and virtual hosts stand in connection URLs percent-encoded: every byte of the
UTF-8 form that is not an ASCII letter or digit becomes `%` and two capital hexadecimal
digits. Decoding is lenient. A `%` that two hexadecimal digits do not follow stands for
itself, and the decoded bytes are read as text with U+FFFD for strays.
-/

set_option autoImplicit false

namespace TaskQueue.Percent

/-- The hexadecimal digit of `n % 16`, in capitals. -/
def hexDigit (n : Nat) : Char :=
  let d := n % 16
  if d < 10 then Char.ofNat (0x30 + d) else Char.ofNat (0x37 + d)

/-- The value of a hexadecimal digit in either case. -/
def hexValue? (c : Char) : Option Nat :=
  if '0' ≤ c ∧ c ≤ '9' then some (c.toNat - 0x30)
  else if 'a' ≤ c ∧ c ≤ 'f' then some (c.toNat - 0x57)
  else if 'A' ≤ c ∧ c ≤ 'F' then some (c.toNat - 0x37)
  else none

/-- Whether the byte is an ASCII letter or digit. -/
def isAlphanumeric (b : UInt8) : Bool :=
  Utf8.within 0x30 0x39 b || Utf8.within 0x41 0x5A b || Utf8.within 0x61 0x7A b

/-- A byte written as an escape. -/
def escape (b : UInt8) : List Char := ['%', hexDigit (b.toNat / 16), hexDigit b.toNat]

/-- Writes each byte that `plain` lets through as the character it is in ASCII, and escapes
the others. -/
def encodeBytes (plain : UInt8 → Bool) (bs : Bytes) : List Char :=
  bs.flatMap fun b => if plain b then [Char.ofNat b.toNat] else escape b

/-- The text with everything but ASCII letters and digits escaped. -/
def encode (s : String) : String := String.ofList (encodeBytes isAlphanumeric (Utf8.encode s))

/-- The bytes the characters stand for. -/
def decodeChars : List Char → Bytes
  | '%' :: a :: b :: rest =>
    match hexValue? a, hexValue? b with
    | some x, some y => UInt8.ofNat (x * 16 + y) :: decodeChars rest
    | _, _ => Utf8.encodeChar '%' ++ decodeChars (a :: b :: rest)
  | c :: rest => Utf8.encodeChar c ++ decodeChars rest
  | [] => []

/-- The text the escapes stand for. -/
def decode (s : String) : String := Utf8.decodeLossy (decodeChars s.toList)

end TaskQueue.Percent
