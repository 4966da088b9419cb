import ClientGen.Proofs.TypeNodes
import ClientGen.TypeScript.Context

/-! The names in the texts of types. A text is put together of pieces, and some pieces are names of
types that must be declared elsewhere: those by which the nodes of a type go, and no others. -/

namespace ClientGen

def ResolvedType.name? (type : ResolvedType) : Option String :=
  match type.shape with
  | .reference target => some target
  | .enumeration name _ => some name
  | _ => none

def ResolvedType.Mentions (type : ResolvedType) (name : String) : Prop :=
  ∃ node, Within node type ∧ node.name? = some name

end ClientGen

namespace ClientGen.TypeScript
open Naming ResolvedType

/-- A part of the text of a type: the name of a type, or anything else. -/
inductive TypePiece
  | text (chars : List Char)
  | named (name : String)

def TypePiece.chars : TypePiece → List Char
  | .text chars => chars
  | .named name => name.toList

def spelled (pieces : List TypePiece) : List Char := pieces.flatMap TypePiece.chars

mutual

def typePieces : ResolvedType → List TypePiece
  | .mk _ shape => shapePieces shape

def shapePieces : Shape ResolvedType → List TypePiece
  | .reference target => [.named target]
  | .string => [.text "string".toList]
  | .number => [.text "number".toList]
  | .boolean => [.text "boolean".toList]
  | .enumeration name _ => [.named name]
  | .any => [.text "unknown".toList]
  | .array element =>
    let inner := typePieces element
    if (spelled inner).contains '|' then .text ['('] :: (inner ++ [.text [')', '[', ']']])
    else inner ++ [.text ['[', ']']]
  | .object [] => [.text "Record<string, unknown>".toList]
  | .object properties =>
    .text ['\x7b', ' '] ::
      ([.text [';', ' ']].intercalate (fieldPieces properties) ++ [.text [' ', '\x7d']])

def fieldPieces : List (PropertyOf ResolvedType) → List (List TypePiece)
  | [] => []
  | ⟨name, type, required⟩ :: rest =>
    (.text (keyChars name.toList ++ optionalMark required ++ [':', ' ']) :: typePieces type) ::
      fieldPieces rest

end

@[simp] theorem spelled_nil : spelled [] = [] := rfl

@[simp] theorem spelled_cons (piece : TypePiece) (rest : List TypePiece) :
    spelled (piece :: rest) = piece.chars ++ spelled rest :=
  List.flatMap_cons

@[simp] theorem spelled_append (first rest : List TypePiece) :
    spelled (first ++ rest) = spelled first ++ spelled rest :=
  List.flatMap_append

theorem spelled_intercalate (separator : List TypePiece) (parts : List (List TypePiece)) :
    spelled (separator.intercalate parts) = (spelled separator).intercalate (parts.map spelled) := by
  induction parts with
  | nil => rfl
  | cons part rest ih =>
    cases rest with
    | nil => simp
    | cons next rest =>
      rw [List.intercalate_cons_cons, spelled_append, spelled_append, ih]
      simp

-- Lean finds no equations for `shapeChars` by itself: it would evaluate the keywords in it.
theorem shapeChars_array (element : ResolvedType) : shapeChars (.array element) =
    if (typeChars element).contains '|' then '(' :: (typeChars element ++ [')', '[', ']'])
    else typeChars element ++ ['[', ']'] :=
  rfl

theorem shapeChars_object (property : Property) (rest : List Property) :
    shapeChars (.object (property :: rest)) =
      '\x7b' :: ' ' :: ([';', ' '].intercalate (fieldChars (property :: rest)) ++ [' ', '\x7d']) :=
  rfl

mutual

theorem spelled_typePieces : ∀ type, spelled (typePieces type) = typeChars type
  | .mk _ shape => spelled_shapePieces shape

theorem spelled_shapePieces : ∀ shape, spelled (shapePieces shape) = shapeChars shape
  | .reference target => List.append_nil target.toList
  | .string | .number | .boolean | .any | .object [] => List.append_nil _
  | .enumeration name _ => List.append_nil name.toList
  | .array element => by
    have inner := spelled_typePieces element
    rw [shapePieces, shapeChars_array, inner]
    split <;> simp [TypePiece.chars, inner]
  | .object (property :: rest) => by
    have fields := spelled_fieldPieces (property :: rest)
    simp [shapePieces, shapeChars_object, spelled_intercalate, fields, TypePiece.chars]

theorem spelled_fieldPieces : ∀ properties, (fieldPieces properties).map spelled = fieldChars properties
  | [] => rfl
  | ⟨name, type, required⟩ :: rest => by
    have field := spelled_typePieces type
    have others := spelled_fieldPieces rest
    simp [fieldPieces, fieldChars, field, others, TypePiece.chars]

end

private theorem mem_intercalate {α : Type} {item : α} {separator : List α} (apart : item ∉ separator)
    (parts : List (List α)) : item ∈ separator.intercalate parts ↔ ∃ part ∈ parts, item ∈ part := by
  induction parts with
  | nil => simp
  | cons part rest ih =>
    cases rest with
    | nil => simp
    | cons next rest =>
      rw [List.intercalate_cons_cons, List.mem_append, List.mem_append, ih]
      simp [apart]

private theorem mem_fieldPieces (name : String) (properties : List Property) :
    (∃ part ∈ fieldPieces properties, .named name ∈ part) ↔
      ∃ property ∈ properties, .named name ∈ typePieces property.type := by
  induction properties with
  | nil => simp [fieldPieces]
  | cons property rest ih =>
    obtain ⟨key, type, required⟩ := property
    simp only [fieldPieces, List.exists_mem_cons_iff, ih]
    simp

variable {name : String}

private theorem named_mem_typePieces_step (type : ResolvedType) :
    .named name ∈ typePieces type ↔
      type.name? = some name ∨ ∃ child ∈ type.children, .named name ∈ typePieces child := by
  obtain ⟨description, shape⟩ := type
  cases shape with
  | array element =>
    simp only [typePieces, shapePieces, name?, children, ResolvedType.shape]
    split <;> simp
  | object properties =>
    cases properties with
    | nil => simp [typePieces, shapePieces, name?, children, ResolvedType.shape]
    | cons property rest =>
      have fields := mem_fieldPieces name (property :: rest)
      simp only [typePieces, shapePieces, name?, children, ResolvedType.shape]
      simp [mem_intercalate, fields]
  | _ => simp [typePieces, shapePieces, name?, children, ResolvedType.shape, eq_comm]

theorem named_mem_typePieces {type : ResolvedType} : .named name ∈ typePieces type ↔ type.Mentions name :=
  exists_within_iff named_mem_typePieces_step type

/-- A place where a view has a type written. -/
inductive TypeSite
  | argument (parameter : ViewParameter)
  /-- A parameter's type itself, a definition, a property, or any part of these. -/
  | part (type : ResolvedType)
  | result (method : Method)
  | included (relation : Include)

namespace TypeSite

def text : TypeSite → List Char
  | argument parameter => argumentType parameter
  | part type => typeChars type
  | result method => (returnType method).toList
  | included relation => (relationType relation).toList

def pieces : TypeSite → List TypePiece
  | argument parameter =>
    if isPatternMap parameter then
      .text "Record<string, ".toList :: (typePieces parameter.type ++ [.text ['>']])
    else typePieces parameter.type
  | part type => typePieces type
  | result method =>
    match method.responseModel with
    | some model => [.named model.name]
    | none => [.text "unknown".toList]
  | included relation =>
    if relation.many then [.named relation.responseModel, .text ['[', ']']]
    else [.named relation.responseModel]

def Mentions (name : String) : TypeSite → Prop
  | argument parameter => parameter.type.Mentions name
  | part type => type.Mentions name
  | result method => method.responseModel.map ResponseModel.name = some name
  | included relation => relation.responseModel = name

theorem spelled_pieces (site : TypeSite) : spelled site.pieces = site.text := by
  cases site with
  | argument parameter =>
    simp only [pieces, text, argumentType]
    split <;> simp [spelled_typePieces, TypePiece.chars]
  | part type => exact spelled_typePieces type
  | result method =>
    cases bound : method.responseModel <;> simp [pieces, text, returnType, bound, TypePiece.chars]
  | included relation =>
    simp only [pieces, text, relationType]
    split <;> simp [TypePiece.chars]

theorem named_mem_pieces {site : TypeSite} : .named name ∈ site.pieces ↔ site.Mentions name := by
  cases site with
  | argument parameter =>
    simp only [pieces, Mentions]
    split <;> simp [named_mem_typePieces]
  | part type => exact named_mem_typePieces
  | result method =>
    cases bound : method.responseModel <;> simp [pieces, Mentions, bound, eq_comm]
  | included relation =>
    simp only [pieces, Mentions]
    split <;> simp [eq_comm]

end TypeSite

end ClientGen.TypeScript
