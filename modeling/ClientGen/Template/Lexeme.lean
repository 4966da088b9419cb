import ClientGen.Template.Lexeme.Numeral
import ClientGen.Template.Lexeme.Quoted

/-! The words of a template's marks: names, numbers, strings and signs. -/

namespace ClientGen.Template

/-- Why a template cannot be rendered. -/
inductive Fault
  | badSyntax
  | badEscape
  /-- Something was asked of a value that is not there. -/
  | undefinedValue
  | unknownFilter (name : String)
  | tooManyArguments
  | invalidOperation
  deriving DecidableEq

def Fault.message : Fault → String
  | badSyntax => "syntax error"
  | badEscape => "bad string escape"
  | undefinedValue => "undefined value"
  | unknownFilter name => "unknown filter: filter " ++ name ++ " is unknown"
  | tooManyArguments => "too many arguments"
  | invalidOperation => "invalid operation"

inductive Lexeme
  | name (text : String)
  | number (value : Number)
  | string (value : String)
  | sign (c : Char)
  /-- A point with the number of an item right behind it. -/
  | index (number : Nat)
  /-- What stands here is no lexeme. -/
  | broken (fault : Fault)
  deriving DecidableEq

namespace Lexeme

/-- White space between lexemes. -/
def isSpace (c : Char) : Bool := [' ', '\t', '\n', '\r', '\x0c'].contains c

def isNameStart (c : Char) : Bool := c.isAlpha || c = '_'

def isNamePart (c : Char) : Bool := c.isAlphanum || c = '_'

def readNumber (text : List Char) : Lexeme × List Char :=
  let (value, rest) := Numeral.read text
  ((value.map number).getD (broken .badSyntax), rest)

/-- Reads a string from behind its opening quote. -/
def readString (quote : Char) (text : List Char) : Lexeme × List Char :=
  match Quoted.source quote text with
  | none => (broken .badSyntax, [])
  | some (source, rest) => (((Quoted.value? source).map string).getD (broken .badEscape), rest)

/-- Reads a point, and the digits right behind it. -/
def readPoint (text : List Char) : Lexeme × List Char :=
  let (digits, rest) := Decimal.leadingDigits text
  match Decimal.naturalIn? 10 digits with
  | some place => if place < Nat.pow 2 64 then (index place, rest) else (broken .badSyntax, rest)
  | none => (sign '.', rest)

/-- The lexeme that starts with a character, and what follows it. -/
def startingWith (c : Char) (rest : List Char) : Lexeme × List Char :=
  if isNameStart c then
    (name (String.ofList (c :: rest.takeWhile isNamePart)), rest.dropWhile isNamePart)
  else if c.isDigit then readNumber (c :: rest)
  else if c = '"' || c = '\'' then readString c rest
  else if c = '.' then readPoint rest
  else (sign c, rest)

end Lexeme

end ClientGen.Template
