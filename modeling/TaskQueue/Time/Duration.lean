/-!
# `TaskQueue.Time.Duration`: spans of time

A span is a whole number of nanoseconds. It is shown in the largest of the units s, ms, µs and
ns that fits into it, with as many places as it needs.
-/

set_option autoImplicit false

namespace TaskQueue

/-- A span of time. -/
structure Duration where
  nanoseconds : Nat
deriving DecidableEq, Repr, Inhabited

namespace Duration

/-- The span of so many milliseconds. -/
def ofMillis (n : Nat) : Duration := ⟨n * 1000000⟩

/-- The span of so many seconds and nanoseconds. -/
def ofSeconds (seconds : Nat) (nanos : Nat := 0) : Duration := ⟨seconds * 1000000000 + nanos⟩

/-- The longest span: `2 ^ 64` seconds less a nanosecond. -/
def longest : Duration := ofSeconds (Nat.pow 2 64 - 1) 999999999

/-- The whole milliseconds in the span. -/
def millis (d : Duration) : Nat := d.nanoseconds / 1000000

/-- Drops the zeros at the end. -/
def trimZeros (cs : List Char) : List Char := (cs.reverse.dropWhile (· == '0')).reverse

/-- The digits of `n`, filled up with zeros to `width`. -/
def padded (width n : Nat) : List Char :=
  let ds := Nat.toDigits 10 n
  List.replicate (width - ds.length) '0' ++ ds

/-- `n` in units of `10 ^ places`. -/
def inUnits (n places : Nat) : List Char :=
  let fraction := trimZeros (padded places (n % Nat.pow 10 places))
  Nat.toDigits 10 (n / Nat.pow 10 places) ++ (if fraction.isEmpty then [] else '.' :: fraction)

/-- The span with its unit. -/
def text (d : Duration) : String :=
  let n := d.nanoseconds
  if 1000000000 ≤ n then String.ofList (inUnits n 9) ++ "s"
  else if 1000000 ≤ n then String.ofList (inUnits n 6) ++ "ms"
  else if 1000 ≤ n then String.ofList (inUnits n 3) ++ "µs"
  else String.ofList (inUnits n 0) ++ "ns"

end Duration
end TaskQueue
