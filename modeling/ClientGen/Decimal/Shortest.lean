import ClientGen.Decimal.Binary64

/-! The shortest decimal that reads back as a given double, and of those the nearest one. For one
digit, two digits and so on the two neighbours of the value on that decimal grid are tried; the
first grid with a neighbour inside the double's rounding interval wins. -/

namespace ClientGen.Decimal

/-- The rounding interval of a double and the double itself, as integers over one denominator. -/
structure Interval where
  low : Nat
  value : Nat
  high : Nat
  denominator : Nat
  closed : Bool

/-- The numbers that round to `significand * 2 ^ exponent`. Below a power of two the gap is half as
wide as above it. -/
def Interval.around (significand : Nat) (exponent : Int) : Interval :=
  let low :=
    if significand = Nat.pow 2 52 ∧ exponent > Binary64.leastExponent then 4 * significand - 1
    else 4 * significand - 2
  let scale := Nat.pow 2 exponent.natAbs
  let (times, denominator) := if exponent < 0 then (1, 4 * scale) else (scale, 4)
  { low := low * times
    value := 4 * significand * times
    high := (4 * significand + 2) * times
    denominator
    closed := significand % 2 = 0 }

/-- `n * 10 ^ exponent` against the interval's denominator, as a pair to compare with its bounds. -/
def Interval.holds (interval : Interval) (digits : Nat) (exponent : Int) : Bool :=
  let power := Nat.pow 10 exponent.natAbs
  let (left, scale) :=
    if exponent < 0 then (digits * interval.denominator, power)
    else (digits * power * interval.denominator, 1)
  if interval.closed then interval.low * scale ≤ left && left ≤ interval.high * scale
  else interval.low * scale < left && left < interval.high * scale

/-- The integer part of the value divided by `10 ^ exponent`, and twice the rest over the divisor. -/
def Interval.position (interval : Interval) (exponent : Int) : Nat × Nat × Nat :=
  let power := Nat.pow 10 exponent.natAbs
  let (numerator, denominator) :=
    if exponent < 0 then (interval.value * power, interval.denominator)
    else (interval.value, interval.denominator * power)
  (numerator / denominator, 2 * (numerator % denominator), denominator)

/-- The neighbour on the grid of multiples of `10 ^ exponent` that lies in the interval, the nearer
one if both do; from the middle, the even one. -/
def Interval.neighbour? (interval : Interval) (exponent : Int) : Option Nat :=
  let (below, twice, denominator) := interval.position exponent
  let above := below + 1
  match interval.holds below exponent && below ≠ 0, interval.holds above exponent with
  | true, true =>
    if twice < denominator ∨ (twice = denominator ∧ below % 2 = 0) then some below else some above
  | true, false => some below
  | false, true => some above
  | false, false => none

/-- The decimal exponent of the value's first digit. -/
def Interval.firstDigit (interval : Interval) : Int :=
  let guess : Int :=
    (Binary64.digitCount interval.value : Int) - (Binary64.digitCount interval.denominator : Int)
  if (interval.position guess).1 = 0 then guess - 1 else guess

/-- Moves the zeros at the end of the digits into the exponent; at most `steps` of them. -/
def stripZeros : Nat → Nat → Int → Nat × Int
  | 0, digits, exponent => (digits, exponent)
  | steps + 1, digits, exponent =>
    if digits ≠ 0 ∧ digits % 10 = 0 then stripZeros steps (digits / 10) (exponent + 1)
    else (digits, exponent)

/-- Tries grids of decreasing width, `steps` of them from `exponent` on. -/
def Interval.search (interval : Interval) (exponent : Int) : Nat → Nat × Int
  | 0 => ((interval.position exponent).1, exponent)
  | steps + 1 =>
    match interval.neighbour? exponent with
    | some digits => (digits, exponent)
    | none => interval.search (exponent - 1) steps

/-- Digits and exponent of the shortest decimal for `significand * 2 ^ exponent`; zero has the digit
zero. Seventeen digits always suffice. -/
def shortest (significand : Nat) (exponent : Int) : Nat × Int :=
  if significand = 0 then (0, 0)
  else
    let interval := Interval.around significand exponent
    let (digits, exponent) := interval.search interval.firstDigit 17
    stripZeros 20 digits exponent

end ClientGen.Decimal
