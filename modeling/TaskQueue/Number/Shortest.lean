import TaskQueue.Number.Double

/-!
# `TaskQueue.Number.Shortest`: the fewest digits that read back

A finite number is written with the fewest decimal digits that still determine it: of all
decimals that round to the number it takes one with the fewest digits, and of those the
nearest. The search looks at the two neighbours of the number on the grid of `n` digits, for
`n` from 1 to 17. If any point of a grid rounds to the number, so does one of the two.
-/

set_option autoImplicit false

namespace TaskQueue

/-- Decimal digits `d₁d₂…dₙ` and the exponent of the first: the value `d₁.d₂…dₙ * 10 ^ exponent`. -/
structure Decimal where
  digits : Nat
  exponent : Int
deriving DecidableEq, Repr

namespace Double

/-- The interval of quotients that round to `m * 2 ^ e`, in quarters of the last place:
`(4m - 2) / 4` to `(4m + 2) / 4`, and a closer lower end where the spacing halves. -/
def interval (m : Nat) (e : Int) : Nat × Nat :=
  if m = Nat.pow 2 52 ∧ minExponent < e then (4 * m - 1, 4 * m + 2)
  else (4 * m - 2, 4 * m + 2)

/-- Compares `a * 10 ^ i` with `b / 4 * 2 ^ e`. -/
def compareDecimal (a : Nat) (i : Int) (b : Nat) (e : Int) : Ordering :=
  let left := 4 * a * Nat.pow 10 i.toNat * Nat.pow 2 (-e).toNat
  let right := b * Nat.pow 10 (-i).toNat * Nat.pow 2 e.toNat
  compare left right

/-- Whether `a * 10 ^ i` rounds to `m * 2 ^ e`. The ends of the interval belong to it when
the significand is even. -/
def readsBack (m : Nat) (e : Int) (a : Nat) (i : Int) : Bool :=
  let (lo, hi) := interval m e
  let below := compareDecimal a i lo e
  let above := compareDecimal a i hi e
  if m % 2 = 0 then below != .lt && above != .gt else below == .gt && above == .lt

/-- The exponent of the first decimal digit of `num / den`. -/
def leadingExponent (num den : Nat) : Int :=
  let k : Int := ((Nat.toDigits 10 num).length : Int) - ((Nat.toDigits 10 den).length : Int)
  -- The quotient lies between `10 ^ (k - 1)` and `10 ^ (k + 1)`.
  if num * Nat.pow 10 (-k).toNat < den * Nat.pow 10 k.toNat then k - 1 else k

/-- The neighbours of `m * 2 ^ e` on the grid whose last digit has exponent `i`, the nearer
one first; of two equally near the one with the even last digit. -/
def neighbours (m : Nat) (e i : Int) : Nat × Nat :=
  let num := m * Nat.pow 10 (-i).toNat * Nat.pow 2 e.toNat
  let den := Nat.pow 10 i.toNat * Nat.pow 2 (-e).toNat
  let q := num / den
  let r := num % den
  if 2 * r < den then (q, q + 1)
  else if den < 2 * r then (q + 1, q)
  else if q % 2 = 0 then (q, q + 1) else (q + 1, q)

/-- Tries the grids from `n` digits on. -/
def searchDigits (m : Nat) (e lead : Int) : (tries : Nat) → (n : Nat) → Nat × Int
  | 0, n => ((neighbours m e (lead + 1 - n)).1, lead + 1 - n)
  | tries + 1, n =>
    let i := lead + 1 - n
    let (near, far) := neighbours m e i
    if readsBack m e near i then (near, i)
    else if readsBack m e far i then (far, i)
    else searchDigits m e lead tries (n + 1)

/-- Drops zeros at the end of `d`, at most `tries` of them. -/
def dropZeros : (tries : Nat) → Nat → Int → Nat × Int
  | 0, d, i => (d, i)
  | tries + 1, d, i => if d % 10 = 0 ∧ d ≠ 0 then dropZeros tries (d / 10) (i + 1) else (d, i)

/-- The shortest decimal of `m * 2 ^ e`. -/
def shortest (m : Nat) (e : Int) : Decimal :=
  if m = 0 then ⟨0, 0⟩
  else
    let (num, den) := ratio m e
    let (d, i) := searchDigits m e (leadingExponent num den) 17 1
    let (d, i) := dropZeros 20 d i
    ⟨d, i + (Nat.toDigits 10 d).length - 1⟩

end Double
end TaskQueue
