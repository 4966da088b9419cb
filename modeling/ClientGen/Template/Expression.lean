import ClientGen.Template.Lexeme
import ClientGen.Template.Outcome

/-! Expressions of templates. Filters bind closest, then `not`, `and` and `or`. What is made of
literals alone is worked out when it is read. -/

namespace ClientGen.Template

inductive Expression
  | literal (value : Json)
  | named (name : String)
  | member (value : Expression) (name : String)
  | item (value : Expression) (index : Nat)
  | filtered (value : Expression) (filter : String) (arguments : List Expression)
  | negative (value : Expression)
  | negation (value : Expression)
  | conjunction (left right : Expression)
  | disjunction (left right : Expression)
  deriving Inhabited

abbrev ReadLexemes := StateT (List Lexeme) (Except Fault)

namespace ReadLexemes

def next : ReadLexemes Lexeme := do
  match ← get with
  | [] => throw .badSyntax
  | .broken fault :: _ => throw fault
  | lexeme :: rest =>
    set rest
    return lexeme

/-- Takes a lexeme if it comes next. -/
def takes (lexeme : Lexeme) : ReadLexemes Bool := do
  match ← get with
  | other :: rest =>
    if other = lexeme then
      set rest
      return true
    else return false
  | [] => return false

def expects (lexeme : Lexeme) : ReadLexemes Unit := do
  if (← next) = lexeme then return () else throw .badSyntax

def name : ReadLexemes String := do
  match ← next with
  | .name text => return text
  | _ => throw .badSyntax

/-- Takes the number of an item if one comes next. -/
def takesIndex : ReadLexemes (Option Nat) := do
  match ← get with
  | .index number :: rest =>
    set rest
    return some number
  | _ => return none

/-- Strings in front, as one, and the rest. -/
def leadingStrings : List Lexeme → String × List Lexeme
  | .string text :: lexemes =>
    let (more, rest) := leadingStrings lexemes
    (text ++ more, rest)
  | lexemes => ("", lexemes)

/-- Takes the strings that come next. -/
def strings : ReadLexemes String := modifyGet leadingStrings

/-- Nothing may be left. -/
def finish : ReadLexemes Unit := do
  match ← get with
  | [] => return ()
  | .broken fault :: _ => throw fault
  | _ => throw .badSyntax

end ReadLexemes

namespace Expression
open ReadLexemes

def ofName (text : String) : Expression :=
  if text = "true" || text = "True" then literal (.bool true)
  else if text = "false" || text = "False" then literal (.bool false)
  else if text = "none" || text = "None" then literal .null
  else named text

/-- The number below zero. Integers have 128 bits. -/
def negative? : Json → Option Json
  | .number (.int value) => if value ≤ Int.pow 2 127 then some (.number (.int (-value))) else none
  | .number (.float value) => some (.number (.float value.neg))
  | _ => none

def isTrue (value : Json) : Bool := Outcome.isTrue (.value value)

def negativeOf : Expression → Expression
  | literal value =>
    match negative? value with
    | some value => literal value
    | none => negative (literal value)
  | value => negative value

def negationOf : Expression → Expression
  | literal value => literal (.bool !isTrue value)
  | value => negation value

/-- Of two literals the second, if both hold. -/
def conjunctionOf : Expression → Expression → Expression
  | literal left, literal right =>
    literal (if isTrue left && isTrue right then right else .bool false)
  | left, right => conjunction left right

/-- Of two literals the first that holds. -/
def disjunctionOf : Expression → Expression → Expression
  | literal left, literal right =>
    literal (if isTrue left then left else if isTrue right then right else .bool false)
  | left, right => disjunction left right

/-- The name of a filter may have points in it. -/
def filterName : Nat → ReadLexemes String
  | 0 => throw .badSyntax
  | size + 1 => do
    let first ← name
    if ← takes (.sign '.') then return first ++ "." ++ (← filterName size) else return first

/-- What a value is asked for behind a point. -/
def attributeOf (value : Expression) : ReadLexemes Expression := do
  match ← next with
  | .name text => return member value text
  | .number (.int (.ofNat index)) => if index < Nat.pow 2 64 then return item value index else throw .badSyntax
  | _ => throw .badSyntax

mutual

/-- A value without signs around it. Each one takes a level of nesting. -/
def readPrimary : Nat → Nat → ReadLexemes Expression
  | 0, _ => throw .badSyntax
  | _, 0 => throw .badSyntax
  | size + 1, levels + 1 => do
    match ← next with
    | .name text => return ofName text
    | .number value => return literal (.number value)
    | .string value => return literal (.string (value ++ (← strings)))
    | .sign '(' =>
      let value ← readNested size levels
      expects (.sign ')')
      return value
    | _ => throw .badSyntax

/-- An expression inside of something else, which takes a level, too. -/
def readNested : Nat → Nat → ReadLexemes Expression
  | 0, _ => throw .badSyntax
  | _, 0 => throw .badSyntax
  | size + 1, levels + 1 => readDisjunction size levels

/-- A value behind minus signs. -/
def readSigned : Nat → Nat → ReadLexemes Expression
  | 0, _ => throw .badSyntax
  | size + 1, levels => do
    if ← takes (.sign '-') then return negativeOf (← readSigned size levels)
    else readPrimary size levels

/-- Attributes and filters behind a value. -/
def readSuffixes : Nat → Nat → Bool → Expression → ReadLexemes Expression
  | 0, _, _, _ => throw .badSyntax
  | size + 1, levels, attributes, value => do
    if ← takes (.sign '|') then
      let filter ← filterName size
      let arguments ← if ← takes (.sign '(') then readArguments size levels else pure []
      readSuffixes size levels false (filtered value filter arguments)
    else if attributes then
      if ← takes (.sign '.') then readSuffixes size levels true (← attributeOf value)
      else
        match ← takesIndex with
        | some index => readSuffixes size levels true (item value index)
        | none => return value
    else return value

/-- Arguments up to the closing bracket. -/
def readArguments : Nat → Nat → ReadLexemes (List Expression)
  | 0, _ => throw .badSyntax
  | size + 1, levels => do
    if ← takes (.sign ')') then return []
    let argument ← readNested size levels
    if ← takes (.sign ',') then return argument :: (← readArguments size levels)
    expects (.sign ')')
    return [argument]

def readNegation : Nat → Nat → ReadLexemes Expression
  | 0, _ => throw .badSyntax
  | size + 1, levels => do
    if ← takes (.name "not") then return negationOf (← readNegation size levels)
    readSuffixes size levels true (← readSigned size levels)

def readConjunction : Nat → Nat → ReadLexemes Expression
  | 0, _ => throw .badSyntax
  | size + 1, levels => do
    let left ← readNegation size levels
    moreConjuncts size levels left

def moreConjuncts : Nat → Nat → Expression → ReadLexemes Expression
  | 0, _, _ => throw .badSyntax
  | size + 1, levels, left => do
    if ← takes (.name "and") then
      moreConjuncts size levels (conjunctionOf left (← readNegation size levels))
    else return left

def readDisjunction : Nat → Nat → ReadLexemes Expression
  | 0, _ => throw .badSyntax
  | size + 1, levels => do
    let left ← readConjunction size levels
    moreDisjuncts size levels left

def moreDisjuncts : Nat → Nat → Expression → ReadLexemes Expression
  | 0, _, _ => throw .badSyntax
  | size + 1, levels, left => do
    if ← takes (.name "or") then
      moreDisjuncts size levels (disjunctionOf left (← readConjunction size levels))
    else return left

end

/-- A bound on the steps of reading: every lexeme is entered through at most eight rules. -/
def steps (lexemes : List Lexeme) : Nat := 8 * lexemes.length + 8

/-- Reads an expression that stands in a tag. -/
def read (levels : Nat) : ReadLexemes Expression := do readDisjunction (steps (← get)) levels

/-- Reads an expression that is printed. -/
def readOutput (levels : Nat) : ReadLexemes Expression := do readNested (steps (← get)) levels

end Expression

end ClientGen.Template
