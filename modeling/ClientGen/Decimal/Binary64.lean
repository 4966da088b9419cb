/-! Doubles: the numbers of the 64-bit binary format, as exact values. A finite double is an integer
below `2 ^ 53` times a power of two, and rounding goes to the nearest one, from the middle to the
even one. -/

namespace ClientGen.Decimal

inductive Binary64
  | finite (negative : Bool) (significand : Nat) (exponent : Int)
  | infinite (negative : Bool)
  | notANumber
  deriving DecidableEq

namespace Binary64

/-- The power of two that the smallest doubles are multiples of. -/
def leastExponent : Int := -1074

/-- The largest power of two that a significand is multiplied by. -/
def greatestExponent : Int := 971

def zero (negative : Bool) : Binary64 := .finite negative 0 leastExponent

/-- `numerator / denominator * 2 ^ -exponent` as a quotient of integers. -/
def scaledRatio (numerator denominator : Nat) (exponent : Int) : Nat × Nat :=
  if exponent < 0 then (numerator * Nat.pow 2 exponent.natAbs, denominator)
  else (numerator, denominator * Nat.pow 2 exponent.natAbs)

/-- The exponent at which the integer part of a positive quotient has 53 binary digits, or the least
exponent if that is greater. -/
def exponentFor (numerator denominator : Nat) : Int :=
  let guess : Int := numerator.log2 - denominator.log2 - 52
  let (n, d) := scaledRatio numerator denominator guess
  let exponent := if n / d < Nat.pow 2 52 then guess - 1 else guess
  max exponent leastExponent

/-- The integer nearest to a quotient, from the middle the even one. -/
def roundedQuotient (numerator denominator : Nat) : Nat :=
  let quotient := numerator / denominator
  let twice := 2 * (numerator % denominator)
  if twice > denominator ∨ (twice = denominator ∧ quotient % 2 = 1) then quotient + 1
  else quotient

/-- The double nearest to a quotient with a positive denominator. -/
def ofRatio (negative : Bool) (numerator denominator : Nat) : Binary64 :=
  if numerator = 0 then zero negative
  else
    let exponent := exponentFor numerator denominator
    let (n, d) := scaledRatio numerator denominator exponent
    let rounded := roundedQuotient n d
    let (significand, exponent) :=
      if rounded = Nat.pow 2 53 then (Nat.pow 2 52, exponent + 1) else (rounded, exponent)
    if exponent > greatestExponent then .infinite negative
    else .finite negative significand exponent

def ofNat (n : Nat) : Binary64 := ofRatio false n 1

/-- How many decimal digits a number has. -/
def digitCount (n : Nat) : Nat := (Nat.toDigits 10 n).length

/-- The double nearest to `digits * 10 ^ exponent`. Magnitudes far outside the range of doubles are
decided by their number of digits alone. -/
def ofDecimal (negative : Bool) (digits : Nat) (exponent : Int) : Binary64 :=
  if digits = 0 then zero negative
  else
    let magnitude := exponent + digitCount digits
    if magnitude > 400 then .infinite negative
    else if magnitude < -400 then zero negative
    else if exponent < 0 then ofRatio negative digits (Nat.pow 10 exponent.natAbs)
    else ofRatio negative (digits * Nat.pow 10 exponent.natAbs) 1

/-- `significand * 2 ^ exponent` as a quotient. -/
def ratio (significand : Nat) (exponent : Int) : Nat × Nat :=
  if exponent < 0 then (significand, Nat.pow 2 exponent.natAbs)
  else (significand * Nat.pow 2 exponent.natAbs, 1)

/-- The rounded product of two finite doubles. -/
def mul : Binary64 → Binary64 → Binary64
  | .finite s m e, .finite t n f =>
    let (numerator, denominator) := ratio (m * n) (e + f)
    ofRatio (s != t) numerator denominator
  | _, _ => .notANumber

/-- The rounded quotient of two finite doubles, the second one not zero. -/
def div : Binary64 → Binary64 → Binary64
  | .finite s m e, .finite t n f =>
    if n = 0 then .notANumber
    else
      let (numerator, denominator) := ratio m (e - f)
      ofRatio (s != t) numerator (denominator * n)
  | _, _ => .notANumber

def isFinite : Binary64 → Bool
  | .finite .. => true
  | _ => false

def neg : Binary64 → Binary64
  | .finite negative m e => .finite (!negative) m e
  | .infinite negative => .infinite (!negative)
  | .notANumber => .notANumber

/-- Equality as numbers, with one class of values that are not numbers: the two zeros are equal. -/
def sameNumber : Binary64 → Binary64 → Bool
  | .finite s m e, .finite t n f => m == n && e == f && (s == t || m == 0)
  | .infinite s, .infinite t => s == t
  | .notANumber, .notANumber => true
  | _, _ => false

end Binary64

end ClientGen.Decimal
