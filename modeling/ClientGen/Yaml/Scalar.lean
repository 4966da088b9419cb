import ClientGen.Decimal.Layout
import ClientGen.Decimal.Reading
import ClientGen.Yaml.Token

/-! What scalars stand for. A plain scalar is the empty value, a boolean or a number if it is written
as one, and a tag may say which of them it has to be. All else is text. -/

namespace ClientGen.Yaml
open Decimal

inductive ScalarValue
  | nothing
  | bool (value : Bool)
  | integer (value : Int)
  /-- A zero with a minus in front. -/
  | signedZero
  /-- An integer that does not fit into 64 bits. -/
  | wideInteger (value : Int)
  | double (value : Binary64)
  | text (value : String)
  deriving DecidableEq

def isNull (text : List Char) : Bool :=
  [['n', 'u', 'l', 'l'], ['N', 'u', 'l', 'l'], ['N', 'U', 'L', 'L'], ['~']].contains text

def boolValue? (text : List Char) : Option Bool :=
  if [['t', 'r', 'u', 'e'], ['T', 'r', 'u', 'e'], ['T', 'R', 'U', 'E']].contains text then some true
  else if
      [['f', 'a', 'l', 's', 'e'], ['F', 'a', 'l', 's', 'e'], ['F', 'A', 'L', 'S', 'E']].contains text
    then some false
  else none

def isSign (c : Char) : Bool := c = '+' || c = '-'

def withoutSign : List Char → List Char
  | c :: rest => if isSign c then rest else c :: rest
  | [] => []

/-- Digits behind a leading zero are no number. -/
def isPaddedDigits (text : List Char) : Bool :=
  match withoutSign text with
  | '0' :: c :: rest => (c :: rest).all Char.isDigit
  | _ => false

/-- A natural number in base sixteen, eight or two behind its mark, or else in base ten. -/
def natural? (text : List Char) : Option Nat :=
  match text with
  | '0' :: 'x' :: digits => naturalIn? 16 digits
  | '0' :: 'o' :: digits => naturalIn? 8 digits
  | '0' :: 'b' :: digits => naturalIn? 2 digits
  | digits => if isPaddedDigits digits then none else naturalIn? 10 digits

/-- An integer of any size. -/
def integer? : List Char → Option Int
  | '-' :: text => (natural? text).map fun n => -n
  | text => (natural? (withoutPlus text)).map Int.ofNat

def isInfinity (text : List Char) : Bool :=
  [['.', 'i', 'n', 'f'], ['.', 'I', 'n', 'f'], ['.', 'I', 'N', 'F']].contains text

def isNotANumber (text : List Char) : Bool :=
  [['.', 'n', 'a', 'n'], ['.', 'N', 'a', 'N'], ['.', 'N', 'A', 'N']].contains text

/-- A double. Decimals have to be in its range. -/
def double? (text : List Char) : Option Binary64 :=
  if isNotANumber text then some .notANumber
  else
    let negative := text.head? = some '-'
    let magnitude := withoutSign text
    if isInfinity magnitude then some (.infinite negative)
    else (magnitude? negative magnitude).filter Binary64.isFinite

/-- Integers of up to 128 bits are told from doubles. -/
def integerValue? (text : List Char) : Option ScalarValue :=
  match integer? text with
  | none => none
  | some value =>
    if value = 0 ∧ text.head? = some '-' then some .signedZero
    else if -Int.pow 2 63 ≤ value ∧ value < Int.pow 2 64 then some (.integer value)
    else if -Int.pow 2 127 ≤ value ∧ value < Int.pow 2 128 then some (.wideInteger value)
    else none

/-- The value of a plain scalar without a tag. -/
def plainValue (text : String) : ScalarValue :=
  let chars := text.toList
  if chars.isEmpty || isNull chars then .nothing
  else
    match boolValue? chars, integerValue? chars with
    | some value, _ => .bool value
    | none, some value => value
    | none, none =>
      match if isPaddedDigits chars then none else double? chars with
      | some value => .double value
      | none => .text text

/-- Doubles in YAML are written out below `10 ^ 16` and down to `10 ^ -5`, and no exponent has a plus
sign. -/
def doubleLayout : Layout where
  positional := some (16, 4)
  plusSign := false
  pointZero := true
  infinity := ".inf"
  negativeInfinity := "-.inf"
  notANumber := ".nan"

/-- The types that have a tag of their own. -/
inductive CoreTag
  | null
  | bool
  | int
  | float
  deriving DecidableEq

def CoreTag.text : CoreTag → String
  | null => "tag:yaml.org,2002:null"
  | bool => "tag:yaml.org,2002:bool"
  | int => "tag:yaml.org,2002:int"
  | float => "tag:yaml.org,2002:float"

def CoreTag.ofText? (tag : TagText) : Option CoreTag :=
  [CoreTag.null, .bool, .int, .float].find? fun core => .ofString core.text = tag

/-- The value of a scalar whose tag says what it has to be. -/
def CoreTag.value? (text : String) : CoreTag → Option ScalarValue
  | null => if isNull text.toList then some .nothing else none
  | bool => (boolValue? text.toList).map .bool
  | int => integerValue? text.toList
  | float => (double? text.toList).map .double

/-- Whether a tag is one that a document makes up for itself. -/
def isLocal (tag : TagText) : Bool := tag.head? = some (some '!')

/-- The name in a tag that a document makes up for itself, if it is one. A mark alone is a name. -/
def localTag? (tag : TagText) : Option String :=
  match tag with
  | [some '!'] => some "!"
  | some '!' :: name => (name.mapM id).map String.ofList
  | _ => none

/-- The value of a scalar, or the tag that it does not keep to. Tags of other types make text of it. -/
def scalarValue (tag : Option TagText) (style : ScalarStyle) (text : String) :
    Except CoreTag ScalarValue :=
  match tag with
  | none => .ok (if style = .plain then plainValue text else .text text)
  | some tag =>
    match CoreTag.ofText? tag with
    | some core =>
      match core.value? text with
      | some value => .ok value
      | none => .error core
    | none =>
      if style = .plain && isLocal tag then .ok (plainValue text)
      else .ok (.text text)

end ClientGen.Yaml
