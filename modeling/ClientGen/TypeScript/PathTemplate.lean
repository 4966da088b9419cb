import ClientGen.Text.Search
import ClientGen.View.Basic

/-! The request path as the body of a template literal. Each variable in braces that names a path
parameter becomes a substitution, or the value itself if there is only one; all other text is
escaped. -/

namespace ClientGen.TypeScript
open Text

/-- Escapes what a template literal would not take as text. -/
def escapeLiteral (text : List Char) : List Char :=
  replaceAll ['$', '\x7b'] ['\\', '$', '\x7b']
    (replaceAll ['\x60'] ['\\', '\x60'] (replaceAll ['\\'] ['\\', '\\'] text))

/-- Text and variables of a path, in order. -/
inductive PathPart
  | text (chars : List Char)
  | variable (name : List Char)

/-- Splits a path at its variables: from a left brace to the next right brace. -/
def pathParts (path : List Char) : List PathPart :=
  let before := path.takeWhile (· ≠ '\x7b')
  match _ : path.dropWhile (· ≠ '\x7b') with
  | [] => [.text before]
  | brace :: rest =>
    match _ : rest.dropWhile (· ≠ '\x7d') with
    | [] => [.text (before ++ brace :: rest)]
    | _ :: after => .text before :: .variable (rest.takeWhile (· ≠ '\x7d')) :: pathParts after
termination_by path.length
decreasing_by
  rename_i opened _ closed
  have fromBrace := (List.dropWhile_sublist (l := path) (· ≠ '\x7b')).length_le
  have fromEnd := (List.dropWhile_sublist (l := rest) (· ≠ '\x7d')).length_le
  rw [opened] at fromBrace
  rw [closed] at fromEnd
  simp at fromBrace fromEnd
  omega

/-- A part of a template literal. -/
inductive LiteralPart
  | text (chars : List Char)
  /-- A value that stands for itself. -/
  | value (value : Json)
  /-- The substitution of an argument. -/
  | argument (name : String)

/-- The expression that reads an argument. -/
def argumentChars (name : String) : List Char :=
  "parameters.".toList ++ name.toList

/-- A substitution with the encoded argument. -/
def substitution (name : String) : List Char :=
  '$' :: '\x7b' :: ("encodeURIComponent(String(".toList ++ argumentChars name ++ [')', ')', '\x7d'])

def LiteralPart.chars : LiteralPart → List Char
  | .text chars => escapeLiteral chars
  | .value (.string string) => escapeLiteral string.toList
  | .value json => json.chars
  | .argument name => substitution name

/-- The first path parameter of a name. -/
def pathParameter? (parameters : List ViewParameter) (name : List Char) : Option ViewParameter :=
  parameters.find? fun parameter => parameter.location = .path && parameter.name.toList = name

/-- A variable that names no parameter is text. -/
def variablePart (parameters : List ViewParameter) (name : List Char) : LiteralPart :=
  match pathParameter? parameters name with
  | none => .text ('\x7b' :: (name ++ ['\x7d']))
  | some parameter =>
    match parameter.singleton with
    | some value => .value value
    | none => .argument parameter.camelCaseName

def PathPart.literal (parameters : List ViewParameter) : PathPart → LiteralPart
  | .text chars => .text chars
  | .variable name => variablePart parameters name

def pathLiteral (method : Method) : List LiteralPart :=
  (pathParts method.path.toList).map (PathPart.literal method.parameters)

def pathTemplate (method : Method) : List Char :=
  (pathLiteral method).flatMap LiteralPart.chars

end ClientGen.TypeScript
