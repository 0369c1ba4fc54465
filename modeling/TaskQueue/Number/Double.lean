/-!
# `TaskQueue.Number.Double`: binary floating point, exactly

A `Double` is a number of the binary64 format, kept as sign, integer significand and power of
two. `Double.ofRatio` is the one place where rounding happens: it gives the member of the
format that is nearest to a quotient of natural numbers, and of two equally near ones the one
with the even significand. Arithmetic takes the exact result and rounds it once.
-/

set_option autoImplicit false

namespace TaskQueue

/-- A binary64 number. `finite negative m e` is `m * 2 ^ e` with its sign; zero has a sign
too. The significand is below `2 ^ 53`, the exponent is at least `-1074`, and below
`2 ^ 52` only with the least exponent. -/
inductive Double where
  | finite (negative : Bool) (significand : Nat) (exponent : Int)
  | infinite (negative : Bool)
  | nan
deriving DecidableEq, Repr, Inhabited

namespace Double

/-- The least exponent. -/
def minExponent : Int := -1074

/-- The greatest exponent. -/
def maxExponent : Int := 971

/-- Zero. -/
def zero : Double := .finite false 0 minExponent

/-- Whether the number is neither infinite nor undefined. -/
def isFinite : Double → Bool
  | .finite .. => true
  | _ => false

/-- The number with the other sign. -/
def neg : Double → Double
  | .finite s m e => .finite (!s) m e
  | .infinite s => .infinite (!s)
  | .nan => .nan

/-- The quotient `num / den`, rounded to an integer; a half goes to the even neighbour. -/
def roundHalfEven (num den : Nat) : Nat :=
  let q := num / den
  let r := num % den
  if 2 * r < den then q
  else if den < 2 * r then q + 1
  else if q % 2 = 0 then q else q + 1

/-- The quotient `num / den`, rounded to an integer; a half goes up. -/
def roundHalfUp (num den : Nat) : Nat := (2 * num + den) / (2 * den)

/-- `num / (den * 2 ^ e)` as a quotient of natural numbers. -/
def scaled (num den : Nat) (e : Int) : Nat × Nat :=
  if 0 ≤ e then (num, den * Nat.pow 2 e.toNat) else (num * Nat.pow 2 (-e).toNat, den)

/-- The nearest number to `num / den` with the given sign. -/
def ofRatio (negative : Bool) (num den : Nat) : Double :=
  if num = 0 then .finite negative 0 minExponent
  else
    -- The quotient lies between `2 ^ (k - 1)` and `2 ^ (k + 1)`.
    let k : Int := (num.log2 : Int) - (den.log2 : Int)
    let e₀ := max (k - 53) minExponent
    let wide := scaled num den e₀
    let e := if wide.1 / wide.2 < Nat.pow 2 53 then e₀ else e₀ + 1
    let q := scaled num den e
    let m := roundHalfEven q.1 q.2
    let (m, e) := if m = Nat.pow 2 53 then (Nat.pow 2 52, e + 1) else (m, e)
    if maxExponent < e then .infinite negative else .finite negative m e

/-- The nearest number to a natural number. -/
def ofNat (n : Nat) : Double := ofRatio false n 1

/-- The nearest number to an integer. -/
def ofInt (n : Int) : Double := ofRatio (decide (n < 0)) n.natAbs 1

/-- The nearest number to `digits * 10 ^ exponent`. -/
def ofDecimal (negative : Bool) (digits : Nat) (exponent : Int) : Double :=
  if digits = 0 then .finite negative 0 minExponent
  -- Past these bounds the result is infinite or zero whatever the digits are.
  else if 400 < exponent then .infinite negative
  else if exponent + (Nat.toDigits 10 digits).length < -400 then .finite negative 0 minExponent
  else if 0 ≤ exponent then ofRatio negative (digits * Nat.pow 10 exponent.toNat) 1
  else ofRatio negative digits (Nat.pow 10 (-exponent).toNat)

/-- The absolute value of `m * 2 ^ e` as a quotient. -/
def ratio (m : Nat) (e : Int) : Nat × Nat :=
  if 0 ≤ e then (m * Nat.pow 2 e.toNat, 1) else (m, Nat.pow 2 (-e).toNat)

/-- The product. -/
def mul : Double → Double → Double
  | .finite s m e, .finite t n f =>
    let (num, den) := ratio (m * n) (e + f)
    ofRatio (s != t) num den
  | .nan, _ => .nan
  | _, .nan => .nan
  | .infinite s, .finite t n _ => if n = 0 then .nan else .infinite (s != t)
  | .finite s m _, .infinite t => if m = 0 then .nan else .infinite (s != t)
  | .infinite s, .infinite t => .infinite (s != t)

/-- The quotient by a finite number other than zero. -/
def div : Double → Double → Double
  | .finite s m e, .finite t n f =>
    if n = 0 then (if m = 0 then .nan else .infinite (s != t))
    else
      let (a, b) := ratio m e
      let (c, d) := ratio n f
      ofRatio (s != t) (a * d) (b * c)
  | .nan, _ => .nan
  | _, .nan => .nan
  | .infinite s, .finite t _ _ => .infinite (s != t)
  | .finite s _ _, .infinite t => .finite (s != t) 0 minExponent
  | .infinite _, .infinite _ => .nan

/-- The exact value as a quotient with a positive denominator, if the number is finite. -/
def value? : Double → Option (Int × Nat)
  | .finite s m e =>
    let (num, den) := ratio m e
    some (if s then -(num : Int) else num, den)
  | _ => none

/-- Whether `x ≤ y`; false when either is undefined. -/
def le : Double → Double → Bool
  | .nan, _ => false
  | _, .nan => false
  | .infinite true, _ => true
  | _, .infinite false => true
  | .infinite false, _ => false
  | _, .infinite true => false
  | .finite s m e, .finite t n f =>
    let (a, b) := ratio m e
    let (c, d) := ratio n f
    let signed := fun (neg : Bool) (k : Nat) => if neg then -(k : Int) else (k : Int)
    signed s (a * d) ≤ signed t (c * b)

/-- Whether the number is zero, of either sign. -/
def isZero : Double → Bool
  | .finite _ m _ => m == 0
  | _ => false

end Double
end TaskQueue
