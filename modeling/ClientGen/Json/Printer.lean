import ClientGen.Json.Basic

/-! JSON text, without blanks or indented by two spaces. -/

namespace ClientGen
open Decimal

/-- Doubles in JSON: positional below `10 ^ 16` and down to `10 ^ -5`, whole numbers end in `.0`,
an exponent always has a sign. What is not finite has no JSON form. -/
def Json.doubleLayout : Layout where
  positional := some (16, 4)
  plusSign := true
  pointZero := true
  infinity := "null"
  negativeInfinity := "null"
  notANumber := "null"

/-- Decimal digits with a sign for negative numbers. -/
def intChars (value : Int) : List Char :=
  if value < 0 then '-' :: Nat.toDigits 10 value.natAbs else Nat.toDigits 10 value.natAbs

def Number.chars : Number → List Char
  | .int value => intChars value
  | .float value => Json.doubleLayout.text value

def Number.text (number : Number) : String := String.ofList number.chars

namespace Json

def hexDigit (n : Nat) : Char := (Nat.digitChar n).toLower

/-- A character inside a string literal. -/
def escape (c : Char) : List Char :=
  if c = '"' then ['\\', '"']
  else if c = '\\' then ['\\', '\\']
  else if c = '\n' then ['\\', 'n']
  else if c = '\r' then ['\\', 'r']
  else if c = '\t' then ['\\', 't']
  else if c = '\x08' then ['\\', 'b']
  else if c = '\x0c' then ['\\', 'f']
  else if c.toNat < 32 then ['\\', 'u', '0', '0', hexDigit (c.toNat / 16), hexDigit (c.toNat % 16)]
  else [c]

def quoted (text : List Char) : List Char :=
  '"' :: (text.flatMap escape ++ ['"'])

mutual

/-- The shortest text of a value. -/
def chars : Json → List Char
  | null => ['n', 'u', 'l', 'l']
  | bool true => ['t', 'r', 'u', 'e']
  | bool false => ['f', 'a', 'l', 's', 'e']
  | number value => value.chars
  | string value => quoted value.toList
  | array items => '[' :: (itemChars items ++ [']'])
  | object members => '\x7b' :: (memberChars members ++ ['\x7d'])

def itemChars : List Json → List Char
  | [] => []
  | [item] => item.chars
  | item :: rest => item.chars ++ ',' :: itemChars rest

def memberChars : List (String × Json) → List Char
  | [] => []
  | [(key, value)] => quoted key.toList ++ ':' :: value.chars
  | (key, value) :: rest => quoted key.toList ++ ':' :: (value.chars ++ ',' :: memberChars rest)

end

def text (value : Json) : String := String.ofList value.chars

/-- A line break and the blanks that start a line at a depth. -/
def lineStart (depth : Nat) : List Char := '\n' :: List.replicate (2 * depth) ' '

mutual

/-- Text with each item and member on a line of its own. -/
def prettyChars (depth : Nat) : Json → List Char
  | array [] => ['[', ']']
  | array items => '[' :: (prettyItems (depth + 1) items ++ lineStart depth ++ [']'])
  | object [] => ['\x7b', '\x7d']
  | object members => '\x7b' :: (prettyMembers (depth + 1) members ++ lineStart depth ++ ['\x7d'])
  | value => chars value

def prettyItems (depth : Nat) : List Json → List Char
  | [] => []
  | [item] => lineStart depth ++ prettyChars depth item
  | item :: rest => lineStart depth ++ prettyChars depth item ++ ',' :: prettyItems depth rest

def prettyMembers (depth : Nat) : List (String × Json) → List Char
  | [] => []
  | [(key, value)] => lineStart depth ++ quoted key.toList ++ ':' :: ' ' :: prettyChars depth value
  | (key, value) :: rest =>
    lineStart depth ++ quoted key.toList ++ ':' :: ' ' ::
      (prettyChars depth value ++ ',' :: prettyMembers depth rest)

end

def prettyText (value : Json) : String := String.ofList (value.prettyChars 0)

end Json

end ClientGen
