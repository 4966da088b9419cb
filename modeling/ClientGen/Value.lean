import ClientGen.Json.Printer

/-! Values as YAML has them: JSON values, except that any value may be a key, that a key may occur
twice, and that doubles need not be finite. -/

namespace ClientGen
open Decimal

inductive Value
  | null
  | bool (value : Bool)
  | number (value : Number)
  /-- A zero with a minus in front: a number like any other, except that nothing is called by it. -/
  | signedZero
  | string (value : String)
  | list (items : List Value)
  | mapping (entries : List (Value × Value))
  deriving Inhabited

def Number.same : Number → Number → Bool
  | .int a, .int b => a == b
  | .float a, .float b => a.sameNumber b
  | _, _ => false

namespace Value

mutual

/-- A JSON value as such. -/
def ofJson : Json → Value
  | .null => null
  | .bool value => bool value
  | .number value => number value
  | .string value => string value
  | .array items => list (ofItems items)
  | .object members => mapping (ofMembers members)

def ofItems : List Json → List Value
  | [] => []
  | item :: rest => ofJson item :: ofItems rest

def ofMembers : List (String × Json) → List (Value × Value)
  | [] => []
  | (key, value) :: rest => (string key, ofJson value) :: ofMembers rest

end

mutual

/-- A value in which all zeros are one. -/
def settled : Value → Value
  | signedZero => number (.int 0)
  | list items => list (settledItems items)
  | mapping entries => mapping (settledEntries entries)
  | value => value

def settledItems : List Value → List Value
  | [] => []
  | item :: rest => item.settled :: settledItems rest

def settledEntries : List (Value × Value) → List (Value × Value)
  | [] => []
  | (key, value) :: rest => (key.settled, value.settled) :: settledEntries rest

end

mutual

/-- JSON knows one zero only. -/
theorem settled_ofJson (json : Json) : (ofJson json).settled = ofJson json := by
  cases json with
  | array items => simp [ofJson, settled, settledItems_ofItems items]
  | object members => simp [ofJson, settled, settledEntries_ofMembers members]
  | _ => rfl

theorem settledItems_ofItems (items : List Json) : settledItems (ofItems items) = ofItems items := by
  cases items with
  | nil => rfl
  | cons item rest =>
    simp [ofItems, settledItems, settled_ofJson item, settledItems_ofItems rest]

theorem settledEntries_ofMembers (members : List (String × Json)) :
    settledEntries (ofMembers members) = ofMembers members := by
  cases members with
  | nil => rfl
  | cons member rest =>
    simp [ofMembers, settledEntries, settled, settled_ofJson member.2, settledEntries_ofMembers rest]

end

mutual

/-- How deep lists and mappings are nested. -/
def depth : Value → Nat
  | list items => depthOfItems items + 1
  | mapping entries => depthOfEntries entries + 1
  | _ => 0

def depthOfItems : List Value → Nat
  | [] => 0
  | item :: rest => max item.depth (depthOfItems rest)

def depthOfEntries : List (Value × Value) → Nat
  | [] => 0
  | (key, value) :: rest => max (max key.depth value.depth) (depthOfEntries rest)

end

mutual

/-- Equality of keys: doubles compare as numbers, and the order of a mapping does not count. -/
def same : Value → Value → Bool
  | null, null => true
  | bool a, bool b => a == b
  | number a, number b => a.same b
  | signedZero, signedZero => true
  | string a, string b => a == b
  | list a, list b => sameItems a b
  | mapping a, mapping b => a.length == b.length && sameEntries a b
  | _, _ => false

def sameItems : List Value → List Value → Bool
  | [], [] => true
  | a :: as, b :: bs => same a b && sameItems as bs
  | _, _ => false

def sameEntries : List (Value × Value) → List (Value × Value) → Bool
  | [], _ => true
  | (key, value) :: rest, others =>
    others.any (fun (otherKey, otherValue) => same key otherKey && same value otherValue) &&
      sameEntries rest others

end

end Value

end ClientGen
