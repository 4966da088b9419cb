import ClientGen.Json.Printer
import ClientGen.Text.Quotation

/-! What expressions of templates stand for, and what it prints. Names that are not known stand for
nothing at all; that prints as nothing, but it has no members. -/

namespace ClientGen.Template
open Decimal

/-- How far a loop has come. -/
structure LoopPosition where
  index : Nat
  /-- How many items there are; it is not known of the characters of a text. -/
  length : Option Nat
  /-- How many loops stand around this one. -/
  depth : Nat
  previous : Option Json
  next : Option Json

inductive Outcome
  | missing
  | value (value : Json)
  /-- One of the functions that every template knows by name. -/
  | function
  | loop (position : LoopPosition)

/-- A value of the context, if there is one. -/
def Outcome.ofOption : Option Json → Outcome
  | some json => value json
  | none => missing

/-- What a loop tells of itself. -/
def LoopPosition.members (position : LoopPosition) : List (String × Outcome) :=
  let number (n : Nat) : Outcome := .value (.ofNat n)
  let fromLength (f : Nat → Json) : Outcome := .ofOption (position.length.map f)
  [("index0", number position.index),
    ("index", number (position.index + 1)),
    ("length", fromLength .ofNat),
    ("revindex", fromLength fun length => .ofNat (length - position.index)),
    ("revindex0", fromLength fun length => .ofNat (length - position.index - 1)),
    ("first", .value (.bool (position.index = 0))),
    ("last", fromLength fun length => .bool (position.index + 1 = length)),
    ("depth", number (position.depth + 1)),
    ("depth0", number position.depth),
    ("previtem", .ofOption position.previous),
    ("nextitem", .ofOption position.next)]

namespace Outcome

def isTrue : Outcome → Bool
  | missing | value .null => false
  | value (.bool truth) => truth
  | value (.number (.int number)) => number ≠ 0
  | value (.number (.float number)) => !number.sameNumber (.zero false)
  | value (.string text) => !text.isEmpty
  | value (.array items) => !items.isEmpty
  | value (.object members) => !members.isEmpty
  | function | loop _ => true

/-- A member of an object or of a loop. -/
def member (name : String) : Outcome → Outcome
  | value json => .ofOption (json.member? name)
  | loop position => (position.members.lookup name).getD missing
  | _ => missing

/-- An item of a list, or a character of a text. -/
def item (index : Nat) : Outcome → Outcome
  | value (.array items) => .ofOption items[index]?
  | value (.string text) => .ofOption (text.toList[index]?.map fun c => .string (String.singleton c))
  | _ => missing

/-- How many characters, items or members there are. -/
def length? : Outcome → Option Nat
  | value (.string text) => some text.length
  | value (.array items) => some items.length
  | value (.object members) => some members.length
  | loop position => some position.members.length
  | _ => none

/-- Doubles that stand alone are written out in full. -/
def doubleLayout : Layout where
  positional := none
  plusSign := false
  pointZero := true
  infinity := "inf"
  negativeInfinity := "-inf"
  notANumber := "NaN"

/-- Doubles inside of lists and objects are written out below `10 ^ 16` and down to `10 ^ -4`. -/
def nestedLayout : Layout := { doubleLayout with positional := some (16, 3) }

mutual

/-- A value inside of a list or an object; strings are quoted there. -/
def nestedChars : Json → List Char
  | .null => "None".toList
  | .bool true => "True".toList
  | .bool false => "False".toList
  | .number (.int number) => intChars number
  | .number (.float number) => nestedLayout.text number
  | .string text => (Text.quote text).toList
  | .array items => '[' :: (itemsChars items ++ [']'])
  | .object members => '\x7b' :: (membersChars members ++ ['\x7d'])

def itemsChars : List Json → List Char
  | [] => []
  | [item] => nestedChars item
  | item :: rest => nestedChars item ++ ',' :: ' ' :: itemsChars rest

def membersChars : List (String × Json) → List Char
  | [] => []
  | [(key, inner)] => (Text.quote key).toList ++ ':' :: ' ' :: nestedChars inner
  | (key, inner) :: rest =>
    (Text.quote key).toList ++ ':' :: ' ' :: (nestedChars inner ++ ',' :: ' ' :: membersChars rest)

end

/-- The text that is printed. -/
def printed : Outcome → List Char
  | missing => []
  | value (.string text) => text.toList
  | value (.number (.float number)) => doubleLayout.text number
  | value json => nestedChars json
  | function => "function".toList
  | loop position =>
    let length := (position.length.map (Nat.toDigits 10)).getD ['?']
    "<loop ".toList ++ Nat.toDigits 10 position.index ++ '/' :: (length ++ ['>'])

/-- What is there as JSON. -/
def toJson : Outcome → Json
  | missing => .null
  | value json => json
  | function => .string "function"
  | loop position =>
    .object (position.members.map fun (name, outcome) =>
      (name, match outcome with
        | value json => json
        | _ => .null))

end Outcome

end ClientGen.Template
