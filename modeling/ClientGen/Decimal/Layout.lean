import ClientGen.Decimal.Shortest

/-! Text of a double. Each output format has its own layout of the same shortest digits. -/

namespace ClientGen.Decimal

/-- How a format lays out the digits of a number. -/
structure Layout where
  /-- The most places before the point, and zeros after it, that are written out. -/
  positional : Option (Int × Int)
  /-- Whether an exponent that is not negative has a sign. -/
  plusSign : Bool
  /-- Whether a whole number ends in `.0`. -/
  pointZero : Bool
  infinity : String
  negativeInfinity : String
  notANumber : String

def zeros (n : Nat) : List Char := List.replicate n '0'

/-- The digits with the point after the first `point` of them, filled up with zeros. -/
def positionalText (layout : Layout) (digits : List Char) (point : Int) : List Char :=
  if point ≤ 0 then '0' :: '.' :: (zeros point.natAbs ++ digits)
  else if point.natAbs < digits.length then
    digits.take point.natAbs ++ '.' :: digits.drop point.natAbs
  else
    digits ++ zeros (point.natAbs - digits.length) ++ (if layout.pointZero then ['.', '0'] else [])

/-- One digit, the point, the other digits and the exponent. -/
def exponentText (layout : Layout) (digits : List Char) (exponent : Int) : List Char :=
  let fraction := if digits.length ≤ 1 then [] else '.' :: digits.drop 1
  let sign := if exponent < 0 then ['-'] else if layout.plusSign then ['+'] else []
  digits.take 1 ++ fraction ++ 'e' :: (sign ++ Nat.toDigits 10 exponent.natAbs)

/-- Text of `digits * 10 ^ exponent`. -/
def Layout.magnitude (layout : Layout) (digits : Nat) (exponent : Int) : List Char :=
  let text := Nat.toDigits 10 digits
  let point : Int := if digits = 0 then 1 else text.length + exponent
  let written :=
    match layout.positional with
    | none => true
    | some (places, zeros) => point ≤ places && -point ≤ zeros
  if written then positionalText layout text point else exponentText layout text (point - 1)

def Layout.text (layout : Layout) : Binary64 → List Char
  | .finite negative significand exponent =>
    let (digits, exponent) := shortest significand exponent
    (if negative then ['-'] else []) ++ layout.magnitude digits exponent
  | .infinite negative => (if negative then layout.negativeInfinity else layout.infinity).toList
  | .notANumber => layout.notANumber.toList

end ClientGen.Decimal
