import ClientGen.Assoc
import ClientGen.Decimal.Layout

/-! JSON values. Members of an object keep their order, and integers stay apart from doubles. -/

namespace ClientGen
open Decimal

inductive Number
  | int (value : Int)
  | float (value : Binary64)
  deriving DecidableEq

inductive Json
  | null
  | bool (value : Bool)
  | number (value : Number)
  | string (value : String)
  | array (items : List Json)
  | object (members : List (String × Json))
  deriving Inhabited

namespace Json

/-- The value of a member, if the object has it. -/
def member? (key : String) : Json → Option Json
  | object members => members.lookup key
  | _ => none

/-- An object in which a later member replaces an earlier one with its key. -/
def ofMembers (members : List (String × Json)) : Json :=
  object (Assoc.ofList members)

def ofNat (value : Nat) : Json := number (.int value)

def ofOption (value? : Option Json) : Json := value?.getD null

def strings (texts : List String) : Json := array (texts.map string)

def optionalString (text? : Option String) : Json := ofOption (text?.map string)

end Json

end ClientGen
