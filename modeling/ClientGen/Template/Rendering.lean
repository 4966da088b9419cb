import ClientGen.Template.Basic
import ClientGen.Template.Engine

/-! An engine for a part of the language that templates are written in: values, conditions and loops, with
`length` for the only filter of its own. All that it does not know is a fault. -/

namespace ClientGen.Template

abbrev Filter := Outcome → Except Fault Json

def lengthFilter : Filter := fun value =>
  match value.length? with
  | some length => .ok (.ofNat length)
  | none => .error .invalidOperation

def AddedFilter.apply : AddedFilter → Filter
  | ofText filter => fun value => .ok (.string (filter (String.ofList value.printed)))
  | ofValue filter => fun value => .ok (.string (filter value.toJson))

/-- The functions that every template knows. -/
def functionNames : List String := ["range", "dict", "debug", "namespace"]

/-- Names with what they stand for; the first one counts. -/
structure Scope where
  names : List (String × Outcome)
  filters : List (String × Filter)
  /-- How many loops stand around. -/
  loops : Nat := 0

namespace Scope

def find (scope : Scope) (name : String) : Outcome :=
  match scope.names.lookup name with
  | some value => value
  | none => if functionNames.contains name then .function else .missing

/-- Goes into a loop. -/
def enter (scope : Scope) (name : String) (item : Json) (position : LoopPosition) : Scope :=
  { scope with
    names := (name, .value item) :: ("loop", .loop position) :: scope.names
    loops := scope.loops + 1 }

end Scope

/-- What is there, if it can be asked for something. -/
def present : Outcome → Except Fault Outcome
  | .missing => .error .undefinedValue
  | value => .ok value

mutual

def Expression.evaluate (scope : Scope) : Expression → Except Fault Outcome
  | .literal value => .ok (.value value)
  | .named name => .ok (scope.find name)
  | .member value name => do return (← present (← value.evaluate scope)).member name
  | .item value index => do return (← present (← value.evaluate scope)).item index
  | .filtered value filter arguments => do
    let value ← value.evaluate scope
    let arguments ← evaluateAll scope arguments
    match scope.filters.lookup filter, arguments with
    | none, _ => throw (.unknownFilter filter)
    | some filter, [] => return .value (← filter value)
    | some _, _ :: _ => throw .tooManyArguments
  | .negative value => do
    match ← value.evaluate scope with
    | .value json =>
      match Expression.negative? json with
      | some json => return .value json
      | none => throw .invalidOperation
    | _ => throw .invalidOperation
  | .negation value => do return .value (.bool !(← value.evaluate scope).isTrue)
  | .conjunction left right => do
    let value ← left.evaluate scope
    if value.isTrue then right.evaluate scope else return value
  | .disjunction left right => do
    let value ← left.evaluate scope
    if value.isTrue then return value else right.evaluate scope

def evaluateAll (scope : Scope) : List Expression → Except Fault (List Outcome)
  | [] => .ok []
  | expression :: rest => do
    let value ← expression.evaluate scope
    return value :: (← evaluateAll scope rest)

end

/-- What a loop goes over. -/
structure Series where
  items : List Json
  /-- Whether it is known how many there are. -/
  counted : Bool := true

namespace Series

/-- The items of a list, the keys of an object, the characters of a text, and nothing if there is no
value. -/
def of : Outcome → Except Fault Series
  | .missing | .value .null => .ok { items := [] }
  | .value (.array items) => .ok { items }
  | .value (.object members) => .ok { items := members.map fun (key, _) => .string key }
  | .value (.string text) =>
    .ok { items := text.toList.map fun c => .string (String.singleton c), counted := false }
  | .loop position => .ok { items := position.members.map fun (name, _) => .string name }
  | _ => .error .invalidOperation

/-- The items from some position on, with where the loop stands at each of them. -/
def positionsFrom (length : Option Nat) (depth : Nat) (previous : Option Json) :
    Nat → List Json → List (Json × LoopPosition)
  | _, [] => []
  | index, item :: rest =>
    (item, { index, length, depth, previous, next := rest.head? }) ::
      positionsFrom length depth (some item) (index + 1) rest

def positions (series : Series) (depth : Nat) : List (Json × LoopPosition) :=
  let length := if series.counted then some series.items.length else none
  positionsFrom length depth none 0 series.items

end Series

mutual

def Node.render (scope : Scope) : Node → Except Fault (List Char)
  | .text chars => .ok chars
  | .output value => do return (← value.evaluate scope).printed
  | .branch condition yes no => do
    if (← condition.evaluate scope).isTrue then renderAll scope yes else renderAll scope no
  | .each name items body otherwise => do
    match (← Series.of (← items.evaluate scope)).positions scope.loops with
    | [] => renderAll scope otherwise
    | rounds => do
      let parts ← rounds.mapM fun (item, position) =>
        renderAll (scope.enter name item position) body
      return parts.flatten

def renderAll (scope : Scope) : List Node → Except Fault (List Char)
  | [] => .ok []
  | node :: rest => do
    let text ← node.render scope
    return text ++ (← renderAll scope rest)

end

def render (added : List (String × AddedFilter)) (source : String) (context : Json) :
    Except Fault String := do
  let nodes ← nodesOfText source
  let names :=
    match context with
    | .object members => members.map fun (name, value) => (name, Outcome.value value)
    | _ => []
  let filters := ("length", lengthFilter) :: added.map fun (name, filter) => (name, filter.apply)
  return String.ofList (← renderAll { names, filters } nodes)

instance : Engine Fault where
  render
  message := Fault.message

end ClientGen.Template
