import ClientGen.Json.Printer
import ClientGen.View.ResolvedType

/-! Types and literals of TypeScript. References and enumerations go by their names, which are
declared elsewhere. -/

namespace ClientGen.TypeScript

def isIdentifierStart (c : Char) : Bool := c.isAlpha || c = '_' || c = '$'

def isIdentifierPart (c : Char) : Bool := c.isAlphanum || c = '_' || c = '$'

/-- Whether a name can stand as it is: ASCII letters, digits, `_` and `$`, with no digit first. -/
def isIdentifier (name : List Char) : Bool :=
  match name with
  | [] => false
  | c :: rest => isIdentifierStart c && rest.all isIdentifierPart

/-- A key of an object type; what is no identifier is quoted. -/
def keyChars (name : List Char) : List Char :=
  if isIdentifier name then name else Json.quoted name

def keyText (name : String) : String := String.ofList (keyChars name.toList)

/-- What follows the key of a member that may be left out. -/
def optionalMark (required : Bool) : List Char :=
  if required then [] else ['?']

def joinChars (separator : List Char) (parts : List (List Char)) : List Char :=
  separator.intercalate parts

mutual

def typeChars : ResolvedType → List Char
  | .mk _ shape => shapeChars shape

def shapeChars : Shape ResolvedType → List Char
  | .reference target => target.toList
  | .string => "string".toList
  | .number => "number".toList
  | .boolean => "boolean".toList
  | .enumeration name _ => name.toList
  | .any => "unknown".toList
  | .array element =>
    let inner := typeChars element
    if inner.contains '|' then '(' :: (inner ++ [')', '[', ']']) else inner ++ ['[', ']']
  | .object [] => "Record<string, unknown>".toList
  | .object properties =>
    '\x7b' :: ' ' :: (joinChars [';', ' '] (fieldChars properties) ++ [' ', '\x7d'])

def fieldChars : List (PropertyOf ResolvedType) → List (List Char)
  | [] => []
  | ⟨name, type, required⟩ :: rest =>
    (keyChars name.toList ++ optionalMark required ++ ':' :: ' ' :: typeChars type) ::
      fieldChars rest

end

def typeText (type : ResolvedType) : String := String.ofList (typeChars type)

/-- The union of the literals of an enumeration. -/
def unionChars (values : List Json) : List Char :=
  if values.isEmpty then "never".toList
  else joinChars [' ', '|', ' '] (values.map Json.chars)

def unionText (values : List Json) : String := String.ofList (unionChars values)

end ClientGen.TypeScript
