import ClientGen.Proofs.ArgumentReads
import ClientGen.Proofs.MethodNames
import ClientGen.Proofs.TypeReading

/-! The code of a method around its statements: the signature in front of them and the request behind. Names
of types stand there as the document has them. Where these are plain, neither line reads a member, but for
what the literal of the path reads and for the method that sends requests. -/

namespace ClientGen.TypeScript

/-- The signature, the statements or the request of the method reads a member. These are all its lines but those
of its comment (`ClientMethod.lines_eq`). -/
def ClientMethod.LinesRead (method : ClientMethod) (names : List String) : Prop :=
  TypeScript.Reads method.signature names ∨ TypeScript.Reads method.statements.text names ∨
    TypeScript.Reads method.send names

/-- The names of the types that a method takes and gives are closed and have no points. -/
structure PlainTypes (method : Method) : Prop where
  result : Flat (returnType method).toList
  argument : ∀ parameter ∈ arguments method, ∀ name, parameter.type.Mentions name → Flat name.toList

def plainTexts : List String :=
  ["  async ", "(", "): Promise<", "> \x7b", "parameters: ", " = \x7b\x7d", ": ", "; ", "\x7b ", " \x7d", "[]",
    ")[]", "string", "number", "boolean", "unknown", "Record<string, unknown>", "Record<string, ", ">", ">("]

theorem flat_plain {text : String} (member : text ∈ plainTexts) : Flat text.toList := by
  have flat : ∀ text ∈ plainTexts, Flat text.toList := by decide +kernel
  exact flat text member

theorem not_point_of_part {c : Char} (part : isIdentifierPart c = true) : isQuote c = false ∧ c ≠ '.' := by
  refine ⟨not_quote_of_wordChar (by simp [isWordChar, part]), ?_⟩
  rintro rfl
  exact absurd part (by decide)

theorem flat_key (name : List Char) : Flat (keyChars name) := by
  unfold keyChars
  split
  next identifier =>
    obtain ⟨_, _, _, _, parts⟩ := isIdentifier_cases identifier
    exact .bare fun c member => not_point_of_part (parts c member)
  next => exact .quoted (by decide) name

theorem flat_mark (required : Bool) : Flat (optionalMark required) := by
  cases required <;> decide +kernel

theorem flat_field {name type : List Char} (required : Bool) (flat : Flat type) :
    Flat (keyChars name ++ optionalMark required ++ ':' :: ' ' :: type) := by
  have colon : Flat ": ".toList := flat_plain (by simp [plainTexts])
  exact ((flat_key name).append (flat_mark required)).append (colon.append flat)

theorem flat_fields {fields : List (List Char)} (each : ∀ field ∈ fields, Flat field) :
    Flat ('\x7b' :: ' ' :: ([';', ' '].intercalate fields ++ [' ', '\x7d'])) := by
  have opens : Flat "\x7b ".toList := flat_plain (by simp [plainTexts])
  have between : Flat "; ".toList := flat_plain (by simp [plainTexts])
  have ends : Flat " \x7d".toList := flat_plain (by simp [plainTexts])
  exact opens.append ((Closed.intercalate between fields each).append ends)

open ResolvedType in
theorem flat_type (type : ResolvedType) (names : ∀ name, type.Mentions name → Flat name.toList) :
    Flat (typeChars type) := by
  induction type using children_induction with
  | step type ih =>
    have inner : ∀ child ∈ type.children, Flat (typeChars child) := by
      intro child member
      apply ih child member
      rintro name ⟨node, within, named⟩
      exact names name ⟨node, .child member within, named⟩
    obtain ⟨description, shape⟩ := type
    rw [typeChars]
    cases shape with
    | reference target => exact names target ⟨_, .self _, rfl⟩
    | enumeration name _ => exact names name ⟨_, .self _, rfl⟩
    | string | number | boolean | any => exact flat_plain (by simp [plainTexts])
    | array element =>
      have flat := inner element (List.mem_singleton_self element)
      have opens : Flat "(".toList := flat_plain (by simp [plainTexts])
      have ends : Flat ")[]".toList := flat_plain (by simp [plainTexts])
      have brackets : Flat "[]".toList := flat_plain (by simp [plainTexts])
      rw [shapeChars_array]
      split
      · exact opens.append (flat.append ends)
      · exact flat.append brackets
    | object properties =>
      cases properties with
      | nil => exact flat_plain (by simp [plainTexts] : "Record<string, unknown>" ∈ plainTexts)
      | cons property rest =>
        rw [shapeChars_object, fieldChars_eq_map]
        apply flat_fields
        intro field member
        obtain ⟨given, among, rfl⟩ := List.mem_map.mp member
        exact flat_field given.required (inner given.type (List.mem_map_of_mem among))

theorem flat_argument (parameter : ViewParameter) (names : ∀ name, parameter.type.Mentions name → Flat name.toList) :
    Flat (argumentField parameter) := by
  have flat := flat_type parameter.type names
  have type : Flat (argumentType parameter) := by
    unfold argumentType
    split
    · have opens : Flat "Record<string, ".toList := flat_plain (by simp [plainTexts])
      have ends : Flat ">".toList := flat_plain (by simp [plainTexts])
      exact (opens.append flat).append ends
    · exact flat
  exact flat_field parameter.required type

section
variable {method : Method} (plain : PlainTypes method)
include plain

theorem flat_argumentType {argument : ArgumentType} (given : argumentType? method = some argument) :
    Flat argument.chars := by
  have fields : Flat (argumentSignature method) := by
    apply flat_fields
    intro field member
    obtain ⟨parameter, among, rfl⟩ := List.mem_map.mp member
    exact flat_argument parameter (plain.argument parameter among)
  have name : Flat "parameters: ".toList := flat_plain (by simp [plainTexts])
  have default : Flat " = \x7b\x7d".toList := flat_plain (by simp [plainTexts])
  unfold argumentType? at given
  split at given
  · cases given
  · obtain rfl := Option.some.inj given
    refine (name.append fields).append ?_
    split
    · exact .nil
    · exact default

theorem flat_signature (named : ∀ c ∈ method.name.toList, Text.IsNameChar c) :
    Flat (clientMethod method).signature := by
  have opens : Flat "  async ".toList := flat_plain (by simp [plainTexts])
  have paren : Flat "(".toList := flat_plain (by simp [plainTexts])
  have promise : Flat "): Promise<".toList := flat_plain (by simp [plainTexts])
  have ends : Flat "> \x7b".toList := flat_plain (by simp [plainTexts])
  have argument : Flat (((argumentType? method).map ArgumentType.chars).getD []) := by
    cases given : argumentType? method with
    | none => exact .nil
    | some argument => exact flat_argumentType plain given
  have heading := opens.append (flat_of_name named)
  exact (((heading.append (paren.append argument)).append promise).append plain.result).append ends

end

/-- A request begins with the method that sends it. -/
theorem opening_apart {member : String} (other : member ≠ "request") (members : List String) :
    ¬ Reads "    return this.request<".toList ("this" :: member :: members) := by
  have words : (codeWords "    return this.request<".toList).map namesOf =
      [["return".toList], ["this".toList, "request".toList]] := by decide +kernel
  rintro ⟨word, among, leads⟩
  have inside : namesOf word ∈ [["return".toList], ["this".toList, "request".toList]] :=
    words ▸ List.mem_map_of_mem among
  rcases List.mem_cons.mp inside with same | same
  · have longer := leads.length_le
    simp [same] at longer
  · rw [List.mem_singleton.mp same] at leads
    obtain ⟨_, named⟩ := List.cons_prefix_cons.mp leads
    exact other (String.toList_inj.mp (List.cons_prefix_cons.mp named).1)

theorem fenced_result {result : List Char} (flat : Flat result) : Fenced (result ++ ">(".toList) := by
  have brackets : Flat ">(".toList := flat_plain (by simp [plainTexts])
  have shown : codeFrom {} ">(".toList = ['>', '('] := by decide +kernel
  refine .of_end (flat.append brackets).1 ?_
  rw [codeFrom_append, flat.1, shown]
  simp [isWordChar, isIdentifierPart]

/-- Of the client a request reads what the path reads, and the method that sends it. -/
theorem reads_request_iff (method : ClientMethod) (flat : Flat method.result.toList)
    (fenced : Fenced method.literal) {member : String} (other : member ≠ "request") (members : List String) :
    Reads method.send ("this" :: member :: members) ↔ Reads method.literal ("this" :: member :: members) := by
  have opening : Fenced "    return this.request<".toList := .of_end (by decide +kernel) (by decide +kernel)
  have brackets : Flat ">(".toList := flat_plain (by simp [plainTexts])
  have result : Flat (method.result.toList ++ ">(".toList) := flat.append brackets
  have between : Uses ", ".toList [] := uses_fixed (by simp [fixedTexts])
  have verb : Uses (quotedText method.verb.text ++ ", ".toList) [] := (uses_quoted _).after between
  have ends : Uses ", query, headers, body);".toList [] := uses_fixed (by simp [fixedTexts])
  have parted (opens result bracket verb comma literal tail : List Char) :
      opens ++ result ++ bracket ++ verb ++ comma ++ literal ++ tail =
        opens ++ ((result ++ bracket) ++ ((verb ++ comma) ++ (literal ++ tail))) := by simp
  rw [(ClientMethod.send_eq method).trans (parted _ _ _ _ _ _ _), opening.reads_append,
    (fenced_result flat).reads_append, verb.fenced.reads_append, fenced.reads_append]
  have unread := opening_apart other members
  have types := result.not_reads "this" member members
  have call := verb.apart (member :: members)
  have rest := ends.apart (member :: members)
  rw [or_iff_right unread, or_iff_right types, or_iff_right call, or_iff_left rest]

/-- With a path that is read as what it stands for, and plain types, what a method reads of the client but for
`request` is what authenticates it. -/
theorem linesRead_iff {document : Document} {options : Options} {view : View}
    (built : build document options = .ok view) {method : Method} (member : method ∈ view.methods)
    (faithful : Faithful method) (plain : PlainTypes method) {name : String} (other : name ≠ "request")
    (members : List String) :
    (clientMethod method).LinesRead ("this" :: name :: members) ↔
      Reads (credentialLines method.security).text ("this" :: name :: members) := by
  have named := path_named built member
  have signature := (flat_signature plain (method_isNameChar built member)).not_reads "this" name members
  have statements : Reads (clientMethod method).statements.text ("this" :: name :: members) ↔
      Reads (credentialLines method.security).text ("this" :: name :: members) :=
    reads_client_iff (names_named built member)
  have request := reads_request_iff (clientMethod method) plain.result (fenced_literal faithful named) other members
  have path := literal_apart faithful named (name :: members)
  rw [ClientMethod.LinesRead, or_iff_right signature, or_iff_left fun read => path (request.mp read), statements]

end ClientGen.TypeScript
