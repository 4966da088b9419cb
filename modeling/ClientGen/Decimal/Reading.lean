import ClientGen.Decimal.Binary64
import ClientGen.Text.Digits

/-! Decimals as people write them: digits, perhaps with a point between or beside them, and perhaps a
power of ten. -/

namespace ClientGen.Decimal

/-- A natural number in a base, with at least one digit. -/
def naturalIn? (base : Nat) (digits : List Char) : Option Nat :=
  if digits.isEmpty then none else Text.digitsValue? base digits

/-- Digits in front, with the rest. -/
def leadingDigits (text : List Char) : List Char × List Char :=
  (text.takeWhile Char.isDigit, text.dropWhile Char.isDigit)

/-- The text behind a plus sign, if there is one. -/
def withoutPlus : List Char → List Char
  | '+' :: rest => rest
  | text => text

def isExponentMark (c : Char) : Bool := c = 'e' || c = 'E'

/-- The power of ten at the end of a decimal. -/
def exponent? : List Char → Option Int
  | [] => some 0
  | c :: rest =>
    if isExponentMark c then
      match rest with
      | '-' :: digits => (naturalIn? 10 digits).map fun n => -n
      | digits => (naturalIn? 10 (withoutPlus digits)).map Int.ofNat
    else none

/-- The double nearest to a decimal without a sign. -/
def magnitude? (negative : Bool) (text : List Char) : Option Binary64 := do
  let (whole, rest) := leadingDigits text
  let (fraction, rest) :=
    match rest with
    | '.' :: rest => leadingDigits rest
    | rest => ([], rest)
  let digits ← naturalIn? 10 (whole ++ fraction)
  let exponent ← exponent? rest
  return .ofDecimal negative digits (exponent - fraction.length)

end ClientGen.Decimal
