import ClientGen.Proofs.JsonScanning
import ClientGen.Proofs.TypeNames
import Mathlib

/-! Texts of types, read back. A text tells everything about a type but its descriptions and what stands
behind its names: how arrays are nested, how far the parentheses around an element reach, and which keys an
object has, whatever characters are in them. -/

namespace ClientGen.Json

/-- Reads an escaped text up to the quote that ends it, and gives what comes after that. -/
def readQuoted : List Char → Option (List Char × List Char)
  | [] => none
  | '"' :: rest => some ([], rest)
  | '\\' :: 'u' :: a :: b :: c :: d :: rest =>
    (hexWord? a b c d).bind fun unit => (readQuoted rest).map fun (text, rest) => (Char.ofNat unit :: text, rest)
  | '\\' :: letter :: rest =>
    (simpleEscape? letter).bind fun c => (readQuoted rest).map fun (text, rest) => (c :: text, rest)
  | c :: rest => (readQuoted rest).map fun (text, rest) => (c :: text, rest)

/-- An escaped character is read as the character, whatever comes after it. -/
theorem readQuoted_escape (c : Char) (after : List Char) :
    readQuoted (escape c ++ after) = (readQuoted after).map fun (text, rest) => (c :: text, rest) := by
  rcases escape_cases c with ⟨letter, named, same⟩ | ⟨control, same⟩ | ⟨quote, backslash, _, same⟩ <;> rw [same]
  · have lettered : letter ≠ 'u' := by
      rintro rfl
      cases named
    rw [List.cons_append, List.singleton_append, readQuoted]
    · simp [named]
    · simp [lettered]
  · have units : ∀ unit : Fin 32,
        hexWord? '0' '0' (hexDigit (unit.val / 16)) (hexDigit (unit.val % 16)) = some unit.val := by decide
    have unit := units ⟨c.toNat, control⟩
    simp only [List.cons_append, List.nil_append, readQuoted] at unit ⊢
    simp [unit, Char.ofNat_toNat]
  · rw [List.singleton_append, readQuoted]
    · exact quote
    · simp [backslash]
    · simp [backslash]

theorem readQuoted_text (text after : List Char) :
    readQuoted (text.flatMap escape ++ '"' :: after) = some (text, after) := by
  induction text with
  | nil => rfl
  | cons c text ih =>
    rw [List.flatMap_cons, List.append_assoc, readQuoted_escape, ih]
    rfl

end ClientGen.Json

namespace ClientGen.ResolvedType

mutual

/-- A type without descriptions, and with names only in the place of enumerations. -/
def skeleton : ResolvedType → ResolvedType
  | .mk _ shape => .mk none (shapeSkeleton shape)

def shapeSkeleton : Shape ResolvedType → Shape ResolvedType
  | .reference target => .reference target
  | .string => .string
  | .number => .number
  | .boolean => .boolean
  | .array element => .array (skeleton element)
  | .object properties => .object (propertySkeletons properties)
  | .enumeration name _ => .reference name
  | .any => .any

def propertySkeletons : List Property → List Property
  | [] => []
  | ⟨name, type, required⟩ :: rest => ⟨name, skeleton type, required⟩ :: propertySkeletons rest

end

end ClientGen.ResolvedType

namespace ClientGen.TypeScript
open ResolvedType

def wordShape (word : List Char) : Shape ResolvedType :=
  if word = "string".toList then .string
  else if word = "number".toList then .number
  else if word = "boolean".toList then .boolean
  else if word = "unknown".toList then .any
  else .reference (String.ofList word)

/-- Reads an identifier, or the type of objects without properties. -/
def readWord (text : List Char) : Option (ResolvedType × List Char) :=
  let word := text.takeWhile isIdentifierPart
  let rest := text.dropWhile isIdentifierPart
  if word = "Record".toList ∧ "<string, unknown>".toList <+: rest then
    some (.mk none (.object []), rest.drop "<string, unknown>".length)
  else if isIdentifier word then some (.mk none (wordShape word), rest)
  else none

/-- The type has an array around it for each pair of brackets behind it. -/
def readBrackets (type : ResolvedType) : List Char → ResolvedType × List Char
  | '[' :: ']' :: rest => readBrackets (.mk none (.array type)) rest
  | rest => (type, rest)

def readKey (text : List Char) : Option (String × List Char) :=
  match text with
  | '"' :: rest => (Json.readQuoted rest).map fun (key, rest) => (String.ofList key, rest)
  | _ =>
    let word := text.takeWhile isIdentifierPart
    if isIdentifier word then some (String.ofList word, text.dropWhile isIdentifierPart) else none

def readLabel (text : List Char) : Option ((String × Bool) × List Char) :=
  match readKey text with
  | some (key, '?' :: ':' :: ' ' :: rest) => some ((key, false), rest)
  | some (key, ':' :: ' ' :: rest) => some ((key, true), rest)
  | _ => none

mutual

/-- Reads a type at the start of a text, and gives what comes after it. -/
def readType : Nat → List Char → Option (ResolvedType × List Char)
  | 0, _ => none
  | fuel + 1, text =>
    let inner :=
      match text with
      | '(' :: rest =>
        match readType fuel rest with
        | some (type, ')' :: rest) => some (type, rest)
        | _ => none
      | '\x7b' :: ' ' :: rest => (readProperties fuel rest).map fun (properties, rest) =>
        (.mk none (.object properties), rest)
      | _ => readWord text
    inner.map fun (type, rest) => readBrackets type rest

def readProperties : Nat → List Char → Option (List Property × List Char)
  | 0, _ => none
  | fuel + 1, text =>
    match readLabel text with
    | none => none
    | some ((name, required), rest) =>
      match readType fuel rest with
      | some (type, ';' :: ' ' :: rest) => (readProperties fuel rest).map fun (others, rest) =>
        (⟨name, type, required⟩ :: others, rest)
      | some (type, ' ' :: '\x7d' :: rest) => some ([⟨name, type, required⟩], rest)
      | _ => none

end

def typeOfText? (text : String) : Option ResolvedType :=
  match readType (text.length + 1) text.toList with
  | some (type, []) => some type
  | _ => none

/-- What comes after a type, and does not go on with its last word. -/
def Delimits (rest : List Char) : Prop :=
  ∀ c, rest.head? = some c → isIdentifierPart c = false ∧ c ≠ '<'

theorem isIdentifierPart_of_start {c : Char} (start : isIdentifierStart c = true) : isIdentifierPart c = true := by
  simp only [isIdentifierStart, Bool.or_eq_true] at start
  simp only [isIdentifierPart, Char.isAlphanum, Bool.or_eq_true]
  tauto

theorem ne_of_start {c d : Char} (start : isIdentifierStart c = true) (other : isIdentifierStart d = false) :
    c ≠ d := by
  rintro rfl
  exact absurd start (by simp [other])

theorem isIdentifier_cases {word : List Char} (identifier : isIdentifier word = true) :
    ∃ c rest, word = c :: rest ∧ isIdentifierStart c = true ∧ ∀ d ∈ word, isIdentifierPart d = true := by
  cases word with
  | nil => cases identifier
  | cons c rest =>
    simp only [isIdentifier, Bool.and_eq_true, List.all_eq_true] at identifier
    obtain ⟨start, parts⟩ := identifier
    exact ⟨c, rest, rfl, start, List.forall_mem_cons.mpr ⟨isIdentifierPart_of_start start, parts⟩⟩

theorem takeWhile_word {word rest : List Char} (identifier : isIdentifier word = true)
    (ends : ∀ c, rest.head? = some c → isIdentifierPart c = false) :
    (word ++ rest).takeWhile isIdentifierPart = word ∧ (word ++ rest).dropWhile isIdentifierPart = rest := by
  obtain ⟨_, _, _, _, parts⟩ := isIdentifier_cases identifier
  rw [List.takeWhile_append_of_pos parts, List.dropWhile_append_of_pos parts]
  cases rest with
  | nil => simp
  | cons c rest => simp [ends c rfl]

theorem readWord_identifier {word rest : List Char} (identifier : isIdentifier word = true)
    (delimited : Delimits rest) : readWord (word ++ rest) = some (.mk none (wordShape word), rest) := by
  obtain ⟨taken, left⟩ := takeWhile_word identifier fun c starts => (delimited c starts).1
  have closed : ¬ "<string, unknown>".toList <+: rest := by
    rintro ⟨others, rfl⟩
    exact (delimited '<' rfl).2 rfl
  simp only [readWord, taken, left, closed, identifier, and_false, if_true, if_false]

theorem readWord_record (rest : List Char) :
    readWord ("Record<string, unknown>".toList ++ rest) = some (.mk none (.object []), rest) := by
  have taken : ("Record<string, unknown>".toList ++ rest).takeWhile isIdentifierPart = "Record".toList := rfl
  have left : ("Record<string, unknown>".toList ++ rest).dropWhile isIdentifierPart =
      "<string, unknown>".toList ++ rest := rfl
  rw [readWord, taken, left, if_pos ⟨rfl, List.prefix_append _ _⟩]
  rfl

theorem readType_of_start {c : Char} (start : isIdentifierStart c = true) (fuel : Nat) (text : List Char) :
    readType (fuel + 1) (c :: text) =
      (readWord (c :: text)).map fun (type, rest) => readBrackets type rest := by
  simp only [readType]
  split
  next same => exact absurd (List.cons.inj same).1 (ne_of_start start rfl)
  next same => exact absurd (List.cons.inj same).1 (ne_of_start start rfl)
  next => rfl

theorem readType_identifier {word : List Char} (identifier : isIdentifier word = true) (fuel : Nat)
    {rest : List Char} (delimited : Delimits rest) :
    readType (fuel + 1) (word ++ rest) = some (readBrackets (.mk none (wordShape word)) rest) := by
  have read := readWord_identifier identifier delimited
  obtain ⟨c, others, rfl, start, _⟩ := isIdentifier_cases identifier
  rw [List.cons_append] at read ⊢
  rw [readType_of_start start, read]
  rfl

theorem readKey_keyChars (name : String) {c : Char} (ends : isIdentifierPart c = false) (rest : List Char) :
    readKey (keyChars name.toList ++ c :: rest) = some (name, c :: rest) := by
  unfold keyChars
  split
  next identifier =>
    have stops : ∀ d, (c :: rest).head? = some d → isIdentifierPart d = false := by simp [ends]
    obtain ⟨taken, left⟩ := takeWhile_word identifier stops
    obtain ⟨_, _, same, start, _⟩ := isIdentifier_cases identifier
    rw [readKey]
    · simp [taken, left, identifier]
    · simp [same, ne_of_start start (d := '"') rfl]
  next =>
    have read := Json.readQuoted_text name.toList (c :: rest)
    simp [Json.quoted, readKey, read]

theorem readLabel_field (name : String) (required : Bool) (rest : List Char) :
    readLabel (keyChars name.toList ++ optionalMark required ++ ':' :: ' ' :: rest) =
      some ((name, required), rest) := by
  cases required with
  | true => simp [readLabel, optionalMark, readKey_keyChars name (c := ':') rfl]
  | false => simp [readLabel, optionalMark, readKey_keyChars name (c := '?') rfl]

theorem readBrackets_of_head {type : ResolvedType} {rest : List Char} (apart : rest.head? ≠ some '[') :
    readBrackets type rest = (type, rest) := by
  rw [readBrackets]
  rintro others rfl
  exact apart rfl

/-- A name that can be told from the words for types without a name. -/
def IsTypeName (name : String) : Prop :=
  isIdentifier name.toList = true ∧ name ∉ ["string", "number", "boolean", "unknown"]

instance (name : String) : Decidable (IsTypeName name) :=
  inferInstanceAs (Decidable (_ ∧ _))

def Legible (type : ResolvedType) : Prop :=
  ∀ name, type.Mentions name → IsTypeName name

def TypePiece.name? : TypePiece → Option String
  | .text _ => none
  | .named name => some name

theorem legible_iff {type : ResolvedType} :
    Legible type ↔ ∀ name ∈ (typePieces type).filterMap TypePiece.name?, IsTypeName name := by
  refine forall_congr' fun name => ?_
  have among : name ∈ (typePieces type).filterMap TypePiece.name? ↔ type.Mentions name := by
    rw [List.mem_filterMap, ← named_mem_typePieces]
    constructor
    · rintro ⟨piece, member, named⟩
      cases piece with
      | text chars => cases named
      | named other => exact Option.some.inj named ▸ member
    · intro member
      exact ⟨.named name, member, rfl⟩
  rw [among]

instance (type : ResolvedType) : Decidable (Legible type) :=
  decidable_of_iff _ legible_iff.symm

theorem Legible.child {type child : ResolvedType} (legible : Legible type) (member : child ∈ type.children) :
    Legible child :=
  fun name ⟨node, within, named⟩ => legible name ⟨node, .child member within, named⟩

theorem wordShape_name {name : String} (free : IsTypeName name) : wordShape name.toList = .reference name := by
  obtain ⟨_, other⟩ := free
  simp only [List.mem_cons, List.not_mem_nil, or_false, not_or] at other
  obtain ⟨string, number, boolean, unknown⟩ := other
  simp only [wordShape, String.toList_inj, string, number, boolean, unknown, if_false, String.ofList_toList]

/-- With enough fuel, the text of the type is read as its skeleton, and the brackets behind it belong to it. -/
def ReadsBack (type : ResolvedType) : Prop :=
  ∀ fuel rest, (typeChars type).length < fuel → Delimits rest →
    readType fuel (typeChars type ++ rest) = some (readBrackets type.skeleton rest)

theorem readsBack_word (word : String) {type : ResolvedType} (identifier : isIdentifier word.toList = true)
    (written : typeChars type = word.toList) (read : type.skeleton = .mk none (wordShape word.toList)) :
    ReadsBack type := by
  intro fuel rest enough delimited
  obtain ⟨fuel, rfl⟩ := Nat.exists_eq_succ_of_ne_zero (Nat.ne_zero_of_lt enough)
  rw [written, read, Nat.succ_eq_add_one, readType_identifier identifier fuel delimited]

theorem delimits_of_head {c : Char} (part : isIdentifierPart c = false) (angle : c ≠ '<') (rest : List Char) :
    Delimits (c :: rest) := by
  intro d same
  obtain rfl := Option.some.inj same
  exact ⟨part, angle⟩

def propertyChars (property : Property) : List Char :=
  keyChars property.name.toList ++ optionalMark property.required ++ ':' :: ' ' :: typeChars property.type

theorem fieldChars_eq_map (properties : List Property) : fieldChars properties = properties.map propertyChars := by
  induction properties with
  | nil => rfl
  | cons property rest ih => rw [List.map_cons, ← ih]; rfl

theorem propertySkeletons_eq_map (properties : List Property) :
    propertySkeletons properties =
      properties.map fun property => { property with type := property.type.skeleton } := by
  induction properties with
  | nil => rfl
  | cons property rest ih => rw [List.map_cons, ← ih]; rfl

variable {property : Property} {fuel : Nat}

/-- What comes after a member is either of two things, and none of them can belong to its type. -/
theorem readProperties_member (back : ReadsBack property.type) (enough : (propertyChars property).length ≤ fuel)
    {c : Char} (ends : c = ' ' ∨ c = ';') (rest : List Char) :
    readLabel (propertyChars property ++ c :: rest) =
        some ((property.name, property.required), typeChars property.type ++ c :: rest) ∧
      readType fuel (typeChars property.type ++ c :: rest) = some (property.type.skeleton, c :: rest) := by
  constructor
  · simpa [propertyChars] using readLabel_field property.name property.required (typeChars property.type ++ c :: rest)
  · have delimited : Delimits (c :: rest) := by
      rcases ends with rfl | rfl <;> exact delimits_of_head rfl (by decide) rest
    have apart : (c :: rest).head? ≠ some '[' := by rcases ends with rfl | rfl <;> simp
    have shorter : (typeChars property.type).length < fuel := by
      simp only [propertyChars, List.length_append, List.length_cons] at enough
      omega
    rw [back fuel (c :: rest) shorter delimited, readBrackets_of_head apart]

theorem readProperties_last (back : ReadsBack property.type) (enough : (propertyChars property).length ≤ fuel)
    (rest : List Char) :
    readProperties (fuel + 1) (propertyChars property ++ ' ' :: '\x7d' :: rest) =
      some ([{ property with type := property.type.skeleton }], rest) := by
  obtain ⟨label, read⟩ := readProperties_member back enough (.inl rfl) ('\x7d' :: rest)
  simp only [readProperties, label, read]

theorem readProperties_more (back : ReadsBack property.type) (enough : (propertyChars property).length ≤ fuel)
    (rest : List Char) :
    readProperties (fuel + 1) (propertyChars property ++ ';' :: ' ' :: rest) =
      (readProperties fuel rest).map fun (others, rest) =>
        ({ property with type := property.type.skeleton } :: others, rest) := by
  obtain ⟨label, read⟩ := readProperties_member back enough (.inr rfl) (' ' :: rest)
  simp only [readProperties, label, read]

/-- The text of an object without its braces is read as its properties. -/
theorem readProperties_fields {properties : List Property} (nonempty : properties ≠ [])
    (each : ∀ property ∈ properties, ReadsBack property.type) :
    ∀ fuel rest, (joinChars [';', ' '] (fieldChars properties)).length < fuel →
      readProperties fuel (joinChars [';', ' '] (fieldChars properties) ++ ' ' :: '\x7d' :: rest) =
        some (propertySkeletons properties, rest) := by
  simp only [fieldChars_eq_map, propertySkeletons_eq_map, joinChars]
  induction properties with
  | nil => exact absurd rfl nonempty
  | cons property properties ih =>
    obtain ⟨back, others⟩ := List.forall_mem_cons.mp each
    intro fuel rest enough
    obtain ⟨fuel, rfl⟩ := Nat.exists_eq_succ_of_ne_zero (Nat.ne_zero_of_lt enough)
    cases properties with
    | nil =>
      simp only [List.map_cons, List.map_nil, List.intercalate_singleton] at enough ⊢
      exact readProperties_last back (Nat.le_of_lt_succ enough) rest
    | cons next properties =>
      have onward := ih (List.cons_ne_nil _ _) others
      simp only [List.map_cons, List.intercalate_cons_cons, List.append_assoc, List.cons_append, List.nil_append,
        List.length_append, List.length_cons] at enough onward ⊢
      rw [Nat.succ_eq_add_one, readProperties_more back (by omega), onward fuel rest (by omega)]
      rfl

/-- The brackets of an array are brackets behind its element. In parentheses, the element is read as a type of
its own, which ends where they do. -/
theorem readsBack_array {element : ResolvedType} (back : ReadsBack element) (description : Option String) :
    ReadsBack (.mk description (.array element)) := by
  intro fuel rest enough delimited
  rw [typeChars, shapeChars_array] at enough ⊢
  have brackets : readBrackets element.skeleton ('[' :: ']' :: rest) =
      readBrackets (ResolvedType.mk description (.array element)).skeleton rest := rfl
  by_cases bar : (typeChars element).contains '|' = true
  · rw [if_pos bar] at enough ⊢
    obtain ⟨fuel, rfl⟩ := Nat.exists_eq_succ_of_ne_zero (Nat.ne_zero_of_lt enough)
    simp only [List.length_cons, List.length_append] at enough
    have inner := back fuel (')' :: '[' :: ']' :: rest) (by omega) (delimits_of_head rfl (by decide) _)
    rw [readBrackets_of_head (by simp)] at inner
    simp [readType, inner, brackets]
  · rw [if_neg bar] at enough ⊢
    simp only [List.length_append, List.length_cons] at enough
    have inner := back fuel ('[' :: ']' :: rest) (by omega) (delimits_of_head rfl (by decide) _)
    simpa [brackets] using inner

theorem readType_record (fuel : Nat) (rest : List Char) :
    readType (fuel + 1) ("Record<string, unknown>".toList ++ rest) =
      some (readBrackets (.mk none (.object [])) rest) := by
  have read := readWord_record rest
  have split : "Record<string, unknown>".toList = 'R' :: "ecord<string, unknown>".toList := by decide
  rw [split, List.cons_append] at read ⊢
  rw [readType_of_start (by decide), read]
  rfl

theorem readsBack_object {properties : List Property} (each : ∀ property ∈ properties, ReadsBack property.type)
    (description : Option String) : ReadsBack (.mk description (.object properties)) := by
  intro fuel rest enough delimited
  obtain ⟨fuel, rfl⟩ := Nat.exists_eq_succ_of_ne_zero (Nat.ne_zero_of_lt enough)
  cases properties with
  | nil => exact readType_record fuel rest
  | cons property properties =>
    rw [typeChars, shapeChars_object] at enough ⊢
    simp only [List.length_cons, List.length_append] at enough
    have read := readProperties_fields (List.cons_ne_nil property properties) each fuel rest
      (by simp only [joinChars]; omega)
    simp only [joinChars] at read
    simp [readType, read, skeleton, shapeSkeleton]

theorem readsBack_of_legible (type : ResolvedType) : Legible type → ReadsBack type := by
  induction type using children_induction with
  | step type ih =>
    intro legible
    have below : ∀ child ∈ type.children, ReadsBack child :=
      fun child member => ih child member (legible.child member)
    obtain ⟨description, shape⟩ := type
    cases shape with
    | reference target =>
      have free := legible target ⟨_, .self _, rfl⟩
      exact readsBack_word _ free.1 rfl (by rw [wordShape_name free]; rfl)
    | enumeration name values =>
      have free := legible name ⟨_, .self _, rfl⟩
      exact readsBack_word _ free.1 rfl (by rw [wordShape_name free]; rfl)
    | string => exact readsBack_word "string" rfl rfl rfl
    | number => exact readsBack_word "number" rfl rfl rfl
    | boolean => exact readsBack_word "boolean" rfl rfl rfl
    | any => exact readsBack_word "unknown" rfl rfl rfl
    | array element => exact readsBack_array (below element (List.mem_singleton_self element)) description
    | object properties =>
      exact readsBack_object (fun property member => below _ (List.mem_map_of_mem member)) description

mutual

theorem typeChars_skeleton : ∀ type : ResolvedType, typeChars type.skeleton = typeChars type
  | .mk _ shape => shapeChars_skeleton shape

theorem shapeChars_skeleton : ∀ shape, shapeChars (shapeSkeleton shape) = shapeChars shape
  | .reference _ | .string | .number | .boolean | .enumeration _ _ | .any | .object [] => rfl
  | .array element => by
    rw [shapeSkeleton, shapeChars_array, shapeChars_array, typeChars_skeleton element]
  | .object (property :: rest) => by
    have fields := fieldChars_skeleton (property :: rest)
    rw [propertySkeletons] at fields
    rw [shapeSkeleton, propertySkeletons, shapeChars_object, shapeChars_object, fields]

theorem fieldChars_skeleton : ∀ properties, fieldChars (propertySkeletons properties) = fieldChars properties
  | [] => rfl
  | ⟨name, type, required⟩ :: rest => by
    rw [propertySkeletons, fieldChars, fieldChars, typeChars_skeleton type, fieldChars_skeleton rest]

end

theorem typeOfText?_typeText {type : ResolvedType} (legible : Legible type) :
    typeOfText? (typeText type) = some type.skeleton := by
  have read := readsBack_of_legible type legible ((typeChars type).length + 1) [] (Nat.lt_succ_self _) (by nofun)
  rw [List.append_nil] at read
  simp only [typeOfText?, typeText, String.toList_ofList, String.length_ofList, read]
  rfl

/-- A type whose names are identifiers, and none of the words for types without a name, is read back from its
text as its skeleton. So two such types have the same text only if they have the same skeleton, and then they
do: only descriptions, values of enumerations and the difference between an enumeration and a reference by its
name are lost. -/
theorem type_text_read_back {type : ResolvedType} (legible : Legible type) :
    typeOfText? (typeText type) = some type.skeleton ∧
    ∀ other, Legible other → (typeText type = typeText other ↔ type.skeleton = other.skeleton) := by
  refine ⟨typeOfText?_typeText legible, ?_⟩
  intro other also
  constructor
  · intro same
    have read := typeOfText?_typeText legible
    rw [same, typeOfText?_typeText also] at read
    exact (Option.some.inj read).symm
  · intro same
    rw [typeText, ← typeChars_skeleton type, same, typeChars_skeleton other, typeText]

/-- A list of lists of objects. One key has a bar in it, and the brackets and quotes that end other things. -/
def rowsType (cell : Shape ResolvedType) : ResolvedType :=
  .mk (some "rows") (.array (.mk none (.array (.mk none (.object
    [⟨"a|b\\ \"c\"[]; \x7d", .mk none cell, false⟩,
      ⟨"id", .mk none (.array (.mk (some "empty") (.object []))), true⟩])))))

theorem rows_read_back :
    let rows := rowsType (.reference "Cat")
    let choices := rowsType (.enumeration "Cat" [.string "tabby"])
    Legible rows ∧ Legible choices ∧
    typeText rows =
      "((\x7b \"a|b\\\\ \\\"c\\\"[]; \x7d\"?: Cat; id: Record<string, unknown>[] \x7d)[])[]" ∧
    typeOfText? (typeText rows) = some rows.skeleton ∧
    (typeText rows = typeText choices ↔ rows.skeleton = choices.skeleton) := by
  intro rows choices
  have legible : Legible rows := by decide +kernel
  have also : Legible choices := by decide +kernel
  obtain ⟨read, same⟩ := type_text_read_back legible
  exact ⟨legible, also, by decide +kernel, read, same choices also⟩

end ClientGen.TypeScript
