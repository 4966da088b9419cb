import ClientGen.Json.Basic
import ClientGen.Json.Fault

/-! Numbers in JSON text. An integer of up to 64 bits is exact. Any other number is the double
nearest to its leading digits, as far as they fit into 64 bits, scaled by a power of ten. -/

namespace ClientGen.Json
open Decimal

/-- The parts of a numeral; the exponent comes with its sign, true for a negative one. -/
structure Numeral where
  negative : Bool
  whole : List Nat
  fraction : Option (List Nat)
  exponent : Option (Bool × List Nat)

def wordBound : Nat := Nat.pow 2 64

def exponentBound : Nat := Nat.pow 2 31

/-- Reads digits while they fit into 64 bits; also tells how many are left. -/
def leadingDigits (significand : Nat) : List Nat → Nat × Nat
  | [] => (significand, 0)
  | digit :: rest =>
    if significand * 10 + digit < wordBound then leadingDigits (significand * 10 + digit) rest
    else (significand, rest.length + 1)

/-- A double times a power of ten, in steps of at most `10 ^ 308`; three steps reach zero. -/
def scale (value : Binary64) (exponent : Int) : Nat → Except Fault Binary64
  | 0 => .ok value
  | steps + 1 =>
    if exponent.natAbs ≤ 308 then
      let power := Binary64.ofDecimal false 1 exponent.natAbs
      if exponent < 0 then .ok (value.div power)
      else
        let product := value.mul power
        if product.isFinite then .ok product else .error .numberOutOfRange
    else if value = Binary64.zero false then .ok value
    else if exponent < 0 then
      scale (value.div (Binary64.ofDecimal false 1 308)) (exponent + 308) steps
    else .error .numberOutOfRange

def signed (negative : Bool) (value : Binary64) : Binary64 :=
  if negative then value.neg else value

/-- The value of digits; false if it does not fit into the exponents that are told apart. -/
def exponentValue (digits : List Nat) : Nat × Bool :=
  let value := digits.foldl (fun n digit => n * 10 + digit) 0
  (value, value < exponentBound)

def Numeral.value (numeral : Numeral) : Except Fault Number :=
  let (significand, left) := leadingDigits 0 numeral.whole
  match numeral.fraction, numeral.exponent, left with
  | none, none, 0 =>
    if numeral.negative then
      if significand = 0 ∨ significand > Nat.pow 2 63 then .ok (.float (Binary64.ofNat significand).neg)
      else .ok (.int (-significand))
    else .ok (.int significand)
  | fraction, exponent, left =>
    let digits := fraction.getD []
    let (significand, unread) := leadingDigits significand digits
    let start : Int := (left : Int) - ((digits.length - unread : Nat) : Int)
    match exponent with
    | none =>
      (scale (Binary64.ofNat significand) start 4).map fun value =>
        .float (signed numeral.negative value)
    | some (below, digits) =>
      match exponentValue digits with
      | (value, true) =>
        (scale (Binary64.ofNat significand) (if below then start - value else start + value) 4).map
          fun value => .float (signed numeral.negative value)
      | (_, false) =>
        if significand ≠ 0 ∧ !below then .error .numberOutOfRange
        else .ok (.float (Binary64.zero numeral.negative))

end ClientGen.Json
