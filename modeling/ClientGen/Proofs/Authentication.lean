import ClientGen.Proofs.ParameterSources
import ClientGen.Proofs.RequestCode
import ClientGen.TypeScript.Client.Printer

/-! How a client authenticates itself. The flags of a method say which types of schemes its requirements
name, and those of a document put the flags of its methods together. So a class has everything that the
statements of its methods authenticate themselves with: the options, their keys and the method that encodes
a password. A path may have other things read, if a substitution comes about in its literal, and so may the
name of a type that does not end where it should. -/

namespace ClientGen
namespace Description

variable {document : Description} {operation : Operation} {type : SecurityType}

/-- A requirement of the document or of the operation names a scheme of the type. -/
def Requires (document : Description) (operation : Operation) (type : SecurityType) : Prop :=
  ∃ schemes requirements requirement name scheme, document.securityDefinitions = some schemes ∧
    (document.security = some requirements ∨ operation.security = some requirements) ∧
    requirement ∈ requirements ∧ name ∈ requirement.map Prod.fst ∧ (name, scheme) ∈ schemes ∧ scheme.type = type

theorem mem_requiredSchemes (name : String) :
    name ∈ document.requiredSchemes operation ↔
      ∃ requirements, (document.security = some requirements ∨ operation.security = some requirements) ∧
        ∃ requirement ∈ requirements, name ∈ requirement.map Prod.fst := by
  have listed {requirements : Option (List SecurityRequirement)} {requirement : SecurityRequirement} :
      requirement ∈ requirements.getD [] ↔ ∃ list, requirements = some list ∧ requirement ∈ list := by
    cases requirements <;> simp
  simp only [requiredSchemes, List.mem_flatMap, List.mem_append, listed]
  constructor
  · rintro ⟨requirement, ⟨list, given, member⟩ | ⟨list, given, member⟩, named⟩
    · exact ⟨list, .inl given, requirement, member, named⟩
    · exact ⟨list, .inr given, requirement, member, named⟩
  · rintro ⟨list, given | given, requirement, member, named⟩
    · exact ⟨requirement, .inl ⟨list, given, member⟩, named⟩
    · exact ⟨requirement, .inr ⟨list, given, member⟩, named⟩

theorem requiresType_iff : document.requiresType operation type = true ↔ document.Requires operation type := by
  constructor
  · intro required
    obtain ⟨⟨name, scheme⟩, member, found⟩ := List.any_eq_true.mp required
    obtain ⟨same, named⟩ : scheme.type = type ∧ name ∈ document.requiredSchemes operation := by simpa using found
    obtain ⟨requirements, given, requirement, inside, key⟩ := (mem_requiredSchemes name).mp named
    cases schemes : document.securityDefinitions with
    | none => simp [schemes] at member
    | some entries =>
      have among : (name, scheme) ∈ entries := by simpa [schemes] using member
      exact ⟨entries, requirements, requirement, name, scheme, schemes, given, inside, key, among, same⟩
  · rintro ⟨entries, requirements, requirement, name, scheme, schemes, given, inside, key, among, same⟩
    have named : name ∈ document.requiredSchemes operation :=
      (mem_requiredSchemes name).mpr ⟨requirements, given, requirement, inside, key⟩
    refine List.any_eq_true.mpr ⟨(name, scheme), by simpa [schemes] using among, ?_⟩
    simp [same, named]

theorem flag_methodSecurity :
    (document.methodSecurity operation).flag type = true ↔ type ≠ .unknown ∧ document.Requires operation type := by
  cases type <;> simp [Security.flag, methodSecurity, requiresType_iff]

/-- A scheme that is required is defined, and required of a method that is secure. -/
theorem Requires.secure (requires : document.Requires operation type) :
    (document.methodSecurity operation).secure = true ∧ document.securityDefinitions.isSome := by
  obtain ⟨entries, requirements, _, _, _, schemes, given, _⟩ := requires
  refine ⟨?_, by simp [schemes]⟩
  rcases given with given | given <;> simp [methodSecurity, given]

/-- Since methods with a flag are secure, none is passed over. -/
theorem flag_overallSecurity {methods : List Method}
    (secured : ∀ method ∈ methods, ∀ type, method.security.flag type = true → method.security.secure = true) :
    (document.overallSecurity methods).flag type = methods.any fun method => method.security.flag type := by
  have needed (type : SecurityType) :
      (methods.any fun method => method.security.secure && method.security.flag type) =
        methods.any fun method => method.security.flag type := by
    rw [Bool.eq_iff_iff, List.any_eq_true, List.any_eq_true]
    constructor
    · rintro ⟨method, member, both⟩
      exact ⟨method, member, (Bool.and_eq_true_iff.mp both).2⟩
    · rintro ⟨method, member, flag⟩
      exact ⟨method, member, Bool.and_eq_true_iff.mpr ⟨secured method member type flag, flag⟩⟩
  cases type with
  | oauth2 => exact needed .oauth2
  | apiKey => exact needed .apiKey
  | basic => exact needed .basic
  | unknown => simp [Security.flag]

end Description

namespace TypeScript

/-- What a method reads or calls to authenticate itself by a scheme of the type. -/
def credentialNames : SecurityType → List (List String)
  | .oauth2 => [["this", "options", "token"]]
  | .apiKey => [["this", "options", "apiKey"], ["this", "options", "apiKeyHeader"]]
  | .basic => [["this", "options", "username"], ["this", "basicCredentials"]]
  | .unknown => []

def credentialKeys : SecurityType → List String
  | .oauth2 => ["token"]
  | .apiKey => ["apiKey", "apiKeyHeader"]
  | .basic => ["username", "password"]
  | .unknown => []

/-- The class of the module keeps its options and declares those that hold the credentials of the type. If
these are a name and a password, it also has the method that encodes them. -/
structure ClientModule.Provides (module : ClientModule) (type : SecurityType) : Prop where
  field : .field "options" module.client.optionsName ∈ module.client.members
  declared : ∃ declaration ∈ module.declarations, declaration.name = module.client.optionsName ∧
    ∃ members, declaration.type = .interface members ∧
      ∀ key ∈ credentialKeys type, optionMember key "string" ∈ members
  helper : type = .basic → .basicCredentials ∈ module.client.members

/-- The class has all that is read of what its methods authenticate themselves with. -/
def ClientModule.Covers (module : ClientModule) (reads : List String → Prop) : Prop :=
  ∀ type, ∀ names ∈ credentialNames type, reads names → module.Provides type

private theorem reads_only (type other : SecurityType) :
    ∀ names ∈ credentialNames type, Reads (credentialLines (.only other)).text names ↔ other = type := by
  have table : ∀ type ∈ [SecurityType.oauth2, .apiKey, .basic, .unknown],
      ∀ other ∈ [SecurityType.oauth2, .apiKey, .basic, .unknown], ∀ names ∈ credentialNames type,
        (Reads (credentialLines (.only other)).text names ↔ other = type) := by decide +kernel
  have all (type : SecurityType) : type ∈ [SecurityType.oauth2, .apiKey, .basic, .unknown] := by
    cases type <;> simp
  exact table type (all type) other (all other)

/-- A method reads credentials just of the types that it has a flag for. -/
theorem credentials_flagged (security : Security) {type : SecurityType} {names : List String}
    (member : names ∈ credentialNames type) :
    Reads (credentialLines security).text names ↔ security.flag type = true := by
  rw [reads_credentials]
  constructor
  · rintro ⟨other, flag, read⟩
    rwa [← (reads_only type other names member).mp read]
  · intro flag
    exact ⟨type, flag, (reads_only type type names member).mpr rfl⟩

/-- They are members of the client, and none is the method that sends requests. -/
theorem credentialNames_cases {type : SecurityType} {names : List String} (member : names ∈ credentialNames type) :
    ∃ name members, names = "this" :: name :: members ∧ name ≠ "request" := by
  have options : "options" ≠ "request" := by decide
  have helper : "basicCredentials" ≠ "request" := by decide
  cases type with
  | oauth2 =>
    obtain rfl := List.mem_singleton.mp member
    exact ⟨_, _, rfl, options⟩
  | apiKey =>
    rcases List.mem_cons.mp member with rfl | member
    · exact ⟨_, _, rfl, options⟩
    · obtain rfl := List.mem_singleton.mp member
      exact ⟨_, _, rfl, options⟩
  | basic =>
    rcases List.mem_cons.mp member with rfl | member
    · exact ⟨_, _, rfl, options⟩
    · obtain rfl := List.mem_singleton.mp member
      exact ⟨_, _, rfl, helper⟩
  | unknown => cases member

theorem mem_optionMembers {security : Security} {type : SecurityType} (flag : security.flag type = true) :
    ∀ key ∈ credentialKeys type, optionMember key "string" ∈ optionMembers security := by
  cases type with
  | oauth2 =>
    have bearerToken : security.bearerToken = true := flag
    simp [credentialKeys, optionMembers, bearerToken]
  | apiKey =>
    have apiKey : security.apiKey = true := flag
    simp [credentialKeys, optionMembers, apiKey]
  | basic =>
    have basicAuth : security.basicAuth = true := flag
    simp [credentialKeys, optionMembers, basicAuth]
  | unknown => simp [credentialKeys]

theorem provides_of_flag {view : View} {type : SecurityType} (secure : view.security.secure = true)
    (flag : view.security.flag type = true) : (clientModule view).Provides type := by
  have kept : (clientClass view).security = view.security := rfl
  refine ⟨?_, ⟨optionsDeclaration (clientClass view), ?_, rfl, _, rfl, mem_optionMembers flag⟩, ?_⟩
  · simp [clientModule, ClientClass.members, kept, secure]
  · simp [clientModule]
  · rintro rfl
    have basic : view.security.basicAuth = true := flag
    simp [clientModule, ClientClass.members, kept, basic]

section
variable {document : Document} {options : Options} {view : View} (built : build document options = .ok view)
  {method : Method} (member : method ∈ view.methods) {type : SecurityType} {names : List String}
  (among : names ∈ credentialNames type)
include built member among

theorem statements_flagged :
    Reads (clientMethod method).statements.text names ↔ method.security.flag type = true := by
  obtain ⟨name, members, rfl, _⟩ := credentialNames_cases among
  exact (reads_client_iff (names_named built member)).trans (credentials_flagged method.security among)

theorem lines_flagged (faithful : Faithful method) (plain : PlainTypes method) :
    (clientMethod method).LinesRead names ↔ method.security.flag type = true := by
  have flagged := credentials_flagged method.security among
  obtain ⟨name, members, rfl, other⟩ := credentialNames_cases among
  exact (linesRead_iff built member faithful plain other members).trans flagged

end

/-- If the statements are provided for, all depends on the lines around them. -/
theorem covers_lines_iff {module : ClientModule} {method : ClientMethod}
    (statements : module.Covers fun names => Reads method.statements.text names) :
    module.Covers method.LinesRead ↔
      module.Covers fun names => Reads method.signature names ∨ Reads method.send names := by
  constructor
  · rintro covers type names among (signature | request)
    · exact covers type names among (.inl signature)
    · exact covers type names among (.inr (.inr request))
  · rintro covers type names among (signature | statement | request)
    · exact covers type names among (.inl signature)
    · exact statements type names among statement
    · exact covers type names among (.inr request)

end TypeScript

open TypeScript in
/-- A method has the flag of a type exactly if a requirement of the document or of its operation names a
scheme of that type, and then it is secure, and so is the document. The document has the flags that some
method has. Hence whatever the statements of a method read to authenticate it is provided by its class. All
that the method reads is provided just if what its signature and its request read is. Those read nothing of
the kind if the path is read as what it stands for and the types are plain. -/
theorem security_flags_coherent {document : Description} {options : Options} {view : View}
    (built : build (.description document) options = .ok view) :
    List.Forall₂
      (fun placed method => ∀ type, method.security.flag type = true ↔
        type ≠ .unknown ∧ document.Requires placed.operation type)
      document.placedOperations view.methods ∧
    (∀ method ∈ view.methods, ∀ type, method.security.flag type = true →
      method.security.secure = true ∧ view.security.secure = true) ∧
    (∀ type, view.security.flag type = view.methods.any fun method => method.security.flag type) ∧
    ∀ method ∈ view.methods,
      (∀ type, method.security.flag type = true → (clientModule view).Provides type) ∧
      (∀ type, ∀ names ∈ credentialNames type,
        Reads (clientMethod method).statements.text names ↔ method.security.flag type = true) ∧
      ((clientModule view).Covers (clientMethod method).LinesRead ↔
        (clientModule view).Covers fun names =>
          Reads (clientMethod method).signature names ∨ Reads (clientMethod method).send names) ∧
      (Faithful method → PlainTypes method → ∀ type, ∀ names ∈ credentialNames type,
        (clientMethod method).LinesRead names ↔ method.security.flag type = true) := by
  have given : List.Forall₂ (fun placed method => method.security = document.methodSecurity placed.operation)
      document.placedOperations view.methods :=
    (document.methods_given built).imp fun _ _ gives => congrArg Method.security gives.same
  have origin : ∀ method ∈ view.methods, ∃ operation, method.security = document.methodSecurity operation := by
    have securities := map_eq_of_forall₂ given fun _ _ same => same.symm
    intro method member
    obtain ⟨placed, _, same⟩ := List.mem_map.mp (securities ▸ List.mem_map_of_mem member)
    exact ⟨placed.operation, same.symm⟩
  have overall := document.security_of_build built
  have coherent : ∀ method ∈ view.methods, ∀ type, method.security.flag type = true →
      method.security.secure = true ∧ view.security.secure = true := by
    intro method member type flag
    obtain ⟨operation, same⟩ := origin method member
    rw [same] at flag ⊢
    obtain ⟨required, defined⟩ := (Description.flag_methodSecurity.mp flag).2.secure
    exact ⟨required, by rw [overall]; exact defined⟩
  have flags : ∀ type, view.security.flag type = view.methods.any fun method => method.security.flag type := by
    intro type
    rw [overall]
    exact Description.flag_overallSecurity fun method member type flag => (coherent method member type flag).1
  refine ⟨?_, coherent, flags, fun method member => ?_⟩
  · refine given.imp fun placed method same type => ?_
    rw [same]
    exact Description.flag_methodSecurity
  have provided : ∀ type, method.security.flag type = true → (clientModule view).Provides type := by
    intro type flag
    refine provides_of_flag (coherent method member type flag).2 ?_
    rw [flags]
    exact List.any_eq_true.mpr ⟨method, member, flag⟩
  have statements : ∀ type, ∀ names ∈ credentialNames type,
      Reads (clientMethod method).statements.text names ↔ method.security.flag type = true :=
    fun _ _ among => statements_flagged built member among
  refine ⟨provided, statements, covers_lines_iff ?_, ?_⟩
  · intro type names among read
    exact provided type ((statements type names among).mp read)
  · intro faithful plain type names among
    exact lines_flagged built member among faithful plain

/-- All methods need the key, and one of them a login as well. A scheme that nothing requires and a
requirement that names no scheme are there beside them. -/
def guardedDocument : Description where
  securityDefinitions := some [("key", { type := .apiKey }), ("login", { type := .oauth2 }), ("old", { type := .basic })]
  security := some [[("key", [])]]
  paths := [("/pets", { entries := [("get", .mapping []), ("post", .mapping [(.string "security", .list
    [.mapping [(.string "login", .list []), (.string "ghost", .list [])]])])] })]

open TypeScript in
theorem guarded_flags_coherent :
    ∃ view, build (.description guardedDocument) {} = .ok view ∧
      view.methods.map Method.security =
        [{ secure := true, apiKey := true }, { secure := true, bearerToken := true, apiKey := true }] ∧
      view.security.flag .oauth2 = true ∧ view.security.flag .basic = false ∧
      ∀ method ∈ view.methods, (clientMethod method).LinesRead ["this", "options", "apiKey"] ∧
        (clientModule view).Provides .apiKey ∧ ¬ (clientMethod method).LinesRead ["this", "basicCredentials"] := by
  have facts : (build (.description guardedDocument) {}).toOption.map (fun view =>
      (view.methods.map Method.security,
        view.methods.map fun method => (pathLiteral method, returnType method, arguments method))) =
      some ([{ secure := true, apiKey := true }, { secure := true, bearerToken := true, apiKey := true }],
        [([.text "/pets".toList], "unknown", []), ([.text "/pets".toList], "unknown", [])]) := by
    cbv
  obtain ⟨view, built, facts⟩ := view_of_evaluated facts
  obtain ⟨securities, parts⟩ := Prod.mk.inj facts
  obtain ⟨_, _, flags, methods⟩ := security_flags_coherent built
  have any (type : SecurityType) : view.security.flag type =
      (view.methods.map Method.security).any fun security => security.flag type := by
    rw [flags, List.any_map]
    rfl
  rw [securities] at any
  refine ⟨view, built, securities, any .oauth2, any .basic, fun method member => ?_⟩
  obtain ⟨keyed, unnamed⟩ : method.security.flag .apiKey = true ∧ method.security.flag .basic = false := by
    have among : method.security ∈ view.methods.map Method.security := List.mem_map_of_mem member
    rw [securities] at among
    rcases List.mem_cons.mp among with same | same
    · exact same ▸ ⟨rfl, rfl⟩
    · exact List.mem_singleton.mp same ▸ ⟨rfl, rfl⟩
  obtain ⟨path, result, none⟩ : pathLiteral method = [.text "/pets".toList] ∧ returnType method = "unknown" ∧
      arguments method = [] := by
    have among := List.mem_map_of_mem
      (f := fun method => (pathLiteral method, returnType method, arguments method)) member
    rw [parts] at among
    simpa using among
  have faithful : Faithful method := by
    simp [Faithful, path, straddles_cons, not_straddles_nil, LiteralPart.pieces, LiteralPart.Kept]
  have plain : PlainTypes method := ⟨by rw [result]; decide +kernel, by simp [none]⟩
  obtain ⟨provided, _, _, exact⟩ := methods method member
  have read := exact faithful plain
  refine ⟨(read .apiKey _ (by simp [credentialNames])).mpr keyed, provided .apiKey keyed, fun called => ?_⟩
  have basic := (read .basic _ (by simp [credentialNames])).mp called
  simp [unnamed] at basic

def tokenDocument : Description where
  paths := [("/a/$\x7bthis.options.token\x7d", { entries := [("get", .mapping [])] })]

open TypeScript in
/-- The method reads the token, though its class does not keep any options. -/
theorem path_reads_token :
    ¬ ∀ (document : Description) (options : Options) (view : View), build (.description document) options = .ok view →
      ∀ method ∈ view.methods, (clientModule view).Covers (clientMethod method).LinesRead := by
  intro covers
  have facts : (build (.description tokenDocument) {}).toOption.map (fun view =>
      (view.security.secure, view.methods.map fun method => (returnType method, pathLiteral method))) =
      some (false, [("unknown", [.text "/a/$".toList, .text "\x7bthis.options.token\x7d".toList, .text []])]) := by
    cbv
  obtain ⟨view, built, facts⟩ := view_of_evaluated facts
  obtain ⟨insecure, parts⟩ := Prod.mk.inj facts
  obtain ⟨method, methods, parts⟩ := List.map_eq_singleton_iff.mp parts
  obtain ⟨result, path⟩ := Prod.mk.inj parts
  have plain : Flat (returnType method).toList := by
    rw [result]
    exact flat_plain (by simp [plainTexts])
  have literal : (clientMethod method).literal = "\x60/a/$\x7bthis.options.token\x7d\x60".toList := by
    have escaped : ([.text "/a/$".toList, .text "\x7bthis.options.token\x7d".toList, .text []] :
        List LiteralPart).flatMap LiteralPart.chars = "/a/$\x7bthis.options.token\x7d".toList := by decide +kernel
    rw [ClientMethod.literal, clientMethod, path, escaped]
    rfl
  have fenced : Fenced "\x60/a/$\x7bthis.options.token\x7d\x60".toList :=
    .of_end (by decide +kernel) (by decide +kernel)
  have inside : Reads "\x60/a/$\x7bthis.options.token\x7d\x60".toList ["this", "options", "token"] := by
    decide +kernel
  have read : Reads (clientMethod method).send ["this", "options", "token"] :=
    (reads_request_iff (clientMethod method) plain (literal ▸ fenced) (by decide) ["token"]).mpr (literal ▸ inside)
  have provided := covers _ _ view built method (by simp [methods]) .oauth2 _ (by simp [credentialNames])
    (.inr (.inr read))
  have field := provided.field
  simp [clientModule, clientClass, ClientClass.members, insecure] at field

end ClientGen
