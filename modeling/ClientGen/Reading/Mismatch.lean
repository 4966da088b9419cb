import ClientGen.Json.Fault
import ClientGen.Text.Quotation
import ClientGen.Value
import ClientGen.Yaml.Scalar

/-! Why a value is not what it should be, and the wording of it. -/

namespace ClientGen.Reading
open Decimal

/-- What was found. -/
inductive Found
  | nothing
  | bool (value : Bool)
  | integer (value : Int)
  /-- An integer that needs 128 bits; it has a sign if it is negative. -/
  | wideInteger (value : Int)
  | double (value : Binary64)
  | text (value : String)
  | list
  | mapping
  | tagged

/-- What was looked for. -/
inductive Wanted
  | text
  | keyText
  | flag
  | list
  | mapping
  | jsonNumber
  | record (name : String)
  | recordOfSize (name : String) (size : Nat)
  | fieldName
  | variantName
  | unit
  | choice
  | choiceTag
  | singleKey
  | anyValue
  | anyJson
  | boolLiteral
  | intLiteral
  | doubleLiteral
  | nullLiteral
  | variantIndex (count : Nat)
  | listOfSize (size : Nat)
  | fewerItems

inductive Mismatch
  | wrongType (found : Found) (wanted : Wanted)
  | wrongValue (found : Found) (wanted : Wanted)
  | wrongLength (length : Nat) (wanted : Wanted)
  | missingField (name : String)
  | duplicateField (name : String)
  | unknownVariant (name : String) (known : List String)
  | noVariant (type : String)
  | duplicateKey (key : Value)
  | tagNotAllowed
  | notJsonNumber
  | jsonNumberRange
  | tooDeep
  | tooManyAliases
  | jsonText (fault : Json.Fault)

/-- How doubles and the empty value are called in messages. -/
structure Wording where
  nothing : String
  doubles : Layout

/-- In JSON the empty value is null, and doubles are written as in JSON text. -/
def Wording.json : Wording where
  nothing := "null"
  doubles := { Json.doubleLayout with infinity := "inf", negativeInfinity := "-inf", notANumber := "NaN" }

/-- In YAML doubles are always written out in full. -/
def Wording.yaml : Wording where
  nothing := "unit value"
  doubles :=
    { positional := none, plusSign := false, pointZero := true
      infinity := "inf", negativeInfinity := "-inf", notANumber := "NaN" }

def Found.text_ (wording : Wording) : Found → String
  | nothing => wording.nothing
  | bool value => "boolean `" ++ toString value ++ "`"
  | integer value => "integer `" ++ toString value ++ "`"
  | wideInteger value =>
    "integer `" ++ toString value ++ "` as " ++ (if value < 0 then "i128" else "u128")
  | double value => "floating point `" ++ String.ofList (wording.doubles.text value) ++ "`"
  | text value => "string " ++ Text.quote value
  | list => "sequence"
  | mapping => "map"
  | tagged => "enum"

def Wanted.text_ : Wanted → String
  | text => "a string"
  | keyText => "a string key"
  | flag => "a boolean"
  | list => "a sequence"
  | mapping => "a map"
  | jsonNumber => "a JSON number"
  | record name => "struct " ++ name
  | recordOfSize name size =>
    "struct " ++ name ++ " with " ++ toString size ++ (if size = 1 then " element" else " elements")
  | fieldName => "field identifier"
  | variantName => "variant identifier"
  | unit => "unit"
  | choice => "string or map"
  | choiceTag => "a YAML tag starting with '!'"
  | singleKey => "map with a single key"
  | anyValue => "any value"
  | anyJson => "any valid JSON value"
  | boolLiteral => "a boolean"
  | intLiteral => "an integer"
  | doubleLiteral => "a float"
  | nullLiteral => "null"
  | variantIndex count => "variant index 0 <= i < " ++ toString count
  | listOfSize size =>
    if size = 1 then "1 element in sequence" else toString size ++ " elements in sequence"
  | fewerItems => "fewer elements in array"

/-- Names in backquotes; from three on as a list. -/
def alternatives : List String → String
  | [name] => "expected `" ++ name ++ "`"
  | [first, second] => "expected `" ++ first ++ "` or `" ++ second ++ "`"
  | names => "expected one of " ++ ", ".intercalate (names.map fun name => "`" ++ name ++ "`")

def keyPhrase : Value → String
  | .null => "with null key"
  | .bool value => "with key `" ++ toString value ++ "`"
  | .number (.int value) => "with key " ++ toString value
  | .signedZero => "with key 0"
  | .number (.float value) => "with key " ++ String.ofList (Yaml.doubleLayout.text value)
  | .string value => "with key " ++ Text.quote value
  | _ => "in YAML map"

def Mismatch.message (wording : Wording) : Mismatch → String
  | wrongType found wanted =>
    "invalid type: " ++ found.text_ wording ++ ", expected " ++ wanted.text_
  | wrongValue found wanted =>
    "invalid value: " ++ found.text_ wording ++ ", expected " ++ wanted.text_
  | wrongLength length wanted =>
    "invalid length " ++ toString length ++ ", expected " ++ wanted.text_
  | missingField name => "missing field `" ++ name ++ "`"
  | duplicateField name => "duplicate field `" ++ name ++ "`"
  | unknownVariant name known => "unknown variant `" ++ name ++ "`, " ++ alternatives known
  | noVariant type => "data did not match any variant of untagged enum " ++ type
  | duplicateKey key => "duplicate entry " ++ keyPhrase key
  | tagNotAllowed => "untagged and internally tagged enums do not support enum input"
  | notJsonNumber => "not a JSON number"
  | jsonNumberRange => "JSON number out of range"
  | tooDeep => "recursion limit exceeded"
  | tooManyAliases => "repetition limit exceeded"
  | jsonText fault => fault.message

/-- What a value is called when something else was looked for. -/
def Found.ofValue : Value → Found
  | .null => nothing
  | .bool value => bool value
  | .number (.int value) => integer value
  | .number (.float value) => double value
  | .signedZero => integer 0
  | .string value => text value
  | .list _ => list
  | .mapping _ => mapping

end ClientGen.Reading
