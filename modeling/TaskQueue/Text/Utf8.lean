/-!
# `TaskQueue.Text.Utf8`: text as bytes and bytes as text

Message bodies travel as bytes, and a broker may hand over any bytes. `Utf8.encode` is the
UTF-8 form of a text. `Utf8.pieces` reads bytes back as far as they are text: a list of
characters, with every stretch that no character can begin or finish kept as a `stray`
piece. The two readings of bytes are built on it: `decode?` refuses strays, and
`decodeLossy` shows each one as U+FFFD.

A stray stretch is as long as a well-formed character could have run before the byte that
ruled it out. So a truncated character counts as one stray and not as one per byte.
-/

set_option autoImplicit false

namespace TaskQueue

/-- The payload of a message. -/
abbrev Bytes := List UInt8

namespace Utf8

/-- A continuation byte carrying the six low bits of `n`. -/
def tail (n : Nat) : UInt8 := UInt8.ofNat (0x80 + n % 64)

/-- One to four bytes, by the size of the code point. -/
def encodeChar (c : Char) : Bytes :=
  let n := c.toNat
  if n < 0x80 then [UInt8.ofNat n]
  else if n < 0x800 then [UInt8.ofNat (0xC0 + n / 64), tail n]
  else if n < 0x10000 then [UInt8.ofNat (0xE0 + n / 4096), tail (n / 64), tail n]
  else [UInt8.ofNat (0xF0 + n / 262144), tail (n / 4096), tail (n / 64), tail n]

/-- The UTF-8 form of a list of characters. -/
def encodeChars (cs : List Char) : Bytes := cs.flatMap encodeChar

/-- The UTF-8 form of a text. -/
def encode (s : String) : Bytes := encodeChars s.toList

/-- A stretch of bytes as it is read: a character, or bytes that are none. -/
inductive Piece where
  | char (c : Char)
  | stray (bytes : Bytes)
deriving DecidableEq, Repr

/-- The bytes a piece was read from. -/
def Piece.bytes : Piece → Bytes
  | .char c => encodeChar c
  | .stray bs => bs

/-- Whether `b` lies between `lo` and `hi`. -/
def within (lo hi b : UInt8) : Bool := lo ≤ b && b ≤ hi

/-- Whether a character of two or more bytes can begin with `b`. -/
def isLead (b : UInt8) : Bool := within 0xC2 0xF4 b

/-- Whether `b` can follow the bytes of an unfinished character. The bounds on the second
byte shut out overlong forms, surrogates and code points past U+10FFFF. -/
def continues : Bytes → UInt8 → Bool
  | [0xE0], b => within 0xA0 0xBF b
  | [0xED], b => within 0x80 0x9F b
  | [0xF0], b => within 0x90 0xBF b
  | [0xF4], b => within 0x80 0x8F b
  | _ :: _, b => within 0x80 0xBF b
  | [], _ => false

/-- The six bits a continuation byte carries. -/
def payload (b : UInt8) : Nat := b.toNat % 64

/-- The character whose bytes these are, if they finish one. -/
def finished? : Bytes → Option Char
  | [a, b] =>
    if within 0xC2 0xDF a then some (Char.ofNat (a.toNat % 32 * 64 + payload b)) else none
  | [a, b, c] =>
    if within 0xE0 0xEF a then
      some (Char.ofNat (a.toNat % 16 * 4096 + payload b * 64 + payload c))
    else none
  | [a, b, c, d] =>
    some (Char.ofNat (a.toNat % 8 * 262144 + payload b * 4096 + payload c * 64 + payload d))
  | _ => none

/-- An unfinished character that nothing continues is a stray. -/
def abandoned (held : Bytes) : List Piece := if held.isEmpty then [] else [.stray held]

/-- Reads on from inside a character whose bytes so far are `held`. -/
def piecesFrom (held : Bytes) : Bytes → List Piece
  | [] => abandoned held
  | b :: rest =>
    if continues held b then
      match finished? (held ++ [b]) with
      | some c => .char c :: piecesFrom [] rest
      | none => piecesFrom (held ++ [b]) rest
    else
      abandoned held ++
        (if b < 0x80 then .char (Char.ofNat b.toNat) :: piecesFrom [] rest
        else if isLead b then piecesFrom [b] rest
        else .stray [b] :: piecesFrom [] rest)

/-- Reads bytes as characters and strays. -/
def pieces (bs : Bytes) : List Piece := piecesFrom [] bs

/-- The characters of the pieces, if there is no stray among them. -/
def chars? : List Piece → Option (List Char)
  | [] => some []
  | .char c :: ps => (chars? ps).map (c :: ·)
  | .stray _ :: _ => none

/-- The text whose UTF-8 form the bytes are, if there is one. -/
def decode? (bs : Bytes) : Option String := (chars? (pieces bs)).map String.ofList

/-- What is shown for a stray stretch. -/
def replacement : Char := Char.ofNat 0xFFFD

/-- The text of the bytes, with each stray stretch shown as U+FFFD. -/
def decodeLossy (bs : Bytes) : String :=
  String.ofList ((pieces bs).map fun
    | .char c => c
    | .stray _ => replacement)

end Utf8
end TaskQueue
