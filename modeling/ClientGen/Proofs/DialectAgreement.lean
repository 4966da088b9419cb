import ClientGen.Proofs.MethodForms
import Mathlib

/-! Documents of the two kinds that say the same. Each part of a declaration has its counterpart in a
description; both come down to one list of forms, so what is built of one is built of the other. That paths
and verbs are there once is not asked: the names are claimed in the same order in either case. -/

namespace ClientGen
open Naming Text Proofs.StateRules

theorem hasMarker_of_absent {name : String} (absent : ¬ marker.toList <:+: name.toList) :
    hasMarker name = false := by
  simp [hasMarker, occursInside, cut_eq_none_iff.mpr absent]

/-- A parameter that travels somewhere known, is of no model, and has a counterpart with the same keywords
beside its own fields. -/
structure DeclaredParameter.Agrees (declared : DeclaredParameter) (parameter : Parameter) : Prop where
  name : parameter.name = declared.name
  location : Declaration.locationOf? declared.paramType = some (Description.locationOf parameter.location)
  required : parameter.required = declared.required
  namePattern : parameter.namePattern = declared.namePattern
  inline : parameter.inline =
    { type := declared.type, description := declared.description, items := declared.items
      enumValues := declared.enumValues }
  noModel : ∀ model, declared.type ≠ some (.other model)
  noSchema : parameter.schema = none
  notExcluded : parameter.excluded = false
  noProxyHeader : parameter.isProxyHeader = false

/-- An operation whose nickname binds it to no model, and its counterpart. -/
structure DeclaredOperation.Agrees (declared : DeclaredOperation) (operation : Operation) : Prop where
  nickname : operation.operationId = declared.nickname
  unmarked : ∀ name, declared.nickname = some name → ¬ marker.toList <:+: name.toList
  summary : operation.summary = declared.summary
  produces : operation.produces = declared.produces
  parameters : List.Forall₂
    (fun declared entry => ∃ parameter, entry = .inline parameter ∧ declared.Agrees parameter)
    declared.parameters operation.parameters
  noDescription : operation.description = none
  noConsumes : operation.consumes = none
  noSecurity : operation.security = none
  noExternalDocs : operation.externalDocs = none

def DeclaredOperation.AgreesEntry (declared : DeclaredOperation) (entry : String × Value) : Prop :=
  ∃ verb operation, verb ≠ .options ∧ Verb.ofText? declared.method = some verb ∧
    Verb.ofText? entry.1 = some verb ∧ Operation.ofValue entry.2 = .ok operation ∧ declared.Agrees operation

/-- A path and its counterpart. Beside the operations of the latter there may be extensions. -/
structure DeclaredPath.Agrees (declared : DeclaredPath) (item : String × PathItem) : Prop where
  path : item.1 = declared.path
  noShared : item.2.parameters = []
  operations : List.Forall₂ DeclaredOperation.AgreesEntry declared.operations
    (item.2.entries.filter fun entry => (Verb.ofText? entry.1).isSome)

structure Declaration.Agrees (declaration : Declaration) (description : Description) : Prop where
  paths : List.Forall₂ DeclaredPath.Agrees declaration.apis description.paths
  produces : description.produces = declaration.produces
  noDefinitions : description.definitions = []
  noConsumes : description.consumes = none
  noSecurity : description.security = none

section
variable {declared : DeclaredParameter} {parameter : Parameter}

theorem DeclaredParameter.Agrees.form (agree : declared.Agrees parameter) :
    Declaration.parameterForm? declared = some (Description.parameterForm parameter) := by
  have hint : parameter.hint = some declared.name := by simp [Parameter.hint, agree.noSchema, agree.name]
  have fragment : declared.fragment = parameter.fragment := by
    have noModel := agree.noModel
    unfold DeclaredParameter.fragment Parameter.fragment
    split
    next model type => exact absurd type (noModel model)
    next => simp [agree.noSchema, agree.inline]
  simp [Declaration.parameterForm?, Description.parameterForm, agree.location, agree.name, agree.required,
    agree.namePattern, agree.inline, hint, fragment]

theorem DeclaredParameter.Agrees.forms (agree : declared.Agrees parameter) (options : Options) :
    Description.parameterForms options parameter = (Declaration.parameterForm? declared).toList := by
  have kept : Description.isLeftOut options parameter = false := by
    simp [Description.isLeftOut, agree.notExcluded, agree.noProxyHeader]
  have whole : Description.expandedBody? parameter = none := by
    simp [Description.expandedBody?, agree.noSchema]
  simp [Description.parameterForms, kept, whole, agree.form]

end

section
variable {declaration : Declaration} {description : Description}

theorem DeclaredOperation.Agrees.name {declared : DeclaredOperation} {operation : Operation}
    (agree : declared.Agrees operation) (verb : Verb) (path : String) :
    Description.nameAndModel verb path operation = (Declaration.methodName verb path declared, none) := by
  unfold Description.nameAndModel Declaration.methodName
  rw [agree.nickname]
  cases nickname : declared.nickname with
  | none => rfl
  | some name => simp [splitOperationId_unmarked (hasMarker_of_absent (agree.unmarked name nickname))]

theorem DeclaredOperation.Agrees.parameterForms {declared : DeclaredOperation} {operation : Operation}
    (agree : declared.Agrees operation) (options : Options) :
    operation.parameters.flatMap (description.entryForms options) =
      declared.parameters.filterMap fun parameter => (Declaration.parameterForm? parameter).map .ok := by
  rw [List.filterMap_eq_flatMap_toList]
  refine (flatMap_eq_of_forall₂ agree.parameters ?_).symm
  rintro parameter _ ⟨counterpart, rfl, same⟩
  rw [Description.entryForms, same.forms options, same.form]
  rfl

theorem Description.methodSecurity_none {operation : Operation} (document : description.security = none)
    (own : operation.security = none) : description.methodSecurity operation = {} := by
  have required : description.requiredSchemes operation = [] := by simp [requiredSchemes, document, own]
  have types : ∀ type, description.requiresType operation type = false := by simp [requiresType, required]
  simp [methodSecurity, types, document, own]

theorem Declaration.Agrees.headers {declared : DeclaredOperation} {operation : Operation}
    (documents : declaration.Agrees description) (agree : declared.Agrees operation) :
    description.headers operation =
      (mediaHeader "Accept" (declared.produces.orElse fun _ => declaration.produces)).toList := by
  have produced : description.producedTypes operation =
      declared.produces.orElse fun _ => declaration.produces := by
    rw [Description.producedTypes, agree.produces, documents.produces]
  have consumed : description.consumedTypes operation = none := by
    simp [Description.consumedTypes, agree.noConsumes, documents.noConsumes]
  rw [Description.headers, produced, consumed]
  cases mediaHeader "Accept" (declared.produces.orElse fun _ => declaration.produces) <;> rfl

theorem Declaration.Agrees.form {declared : DeclaredOperation} {operation : Operation}
    (documents : declaration.Agrees description) (agree : declared.Agrees operation) {verb : Verb}
    (allowed : verb ≠ .options) (named : Verb.ofText? declared.method = some verb) (path : String)
    (options : Options) :
    declaration.operationForm? path declared =
      some (description.operationForm options path verb operation []) := by
  have method : Declaration.verb? declared = some verb := by
    unfold Declaration.verb?
    rw [named]
    cases verb <;> first | rfl | exact absurd rfl allowed
  have notEncoded : description.isFormEncoded operation = false := by
    simp [Description.isFormEncoded, Description.consumedTypes, agree.noConsumes, documents.noConsumes]
  simp [Declaration.operationForm?, Description.operationForm, method, agree.name, agree.summary,
    agree.noDescription, agree.noExternalDocs, agree.parameterForms options, documents.headers agree,
    Description.methodSecurity_none documents.noSecurity agree.noSecurity, notEncoded]

/-- Documents that agree come down to the same forms. -/
theorem Declaration.Agrees.methodForms (documents : declaration.Agrees description) (options : Options) :
    declaration.methodForms = description.methodForms options := by
  refine flatMap_eq_of_forall₂ documents.paths ?_
  intro declared item agree
  have operations : item.2.entries.filterMap (description.entryForm? options item.1 item.2.parameters) =
      (item.2.entries.filter fun entry => (Verb.ofText? entry.1).isSome).filterMap
        (description.entryForm? options item.1 item.2.parameters) := by
    rw [List.filterMap_filter]
    refine congrArg (List.filterMap · item.2.entries) (funext fun entry => ?_)
    cases keyed : Verb.ofText? entry.1 <;> simp [Description.entryForm?, keyed]
  rw [operations, List.filterMap_eq_flatMap_toList, List.filterMap_eq_flatMap_toList]
  refine flatMap_eq_of_forall₂ agree.operations ?_
  rintro operation entry ⟨verb, counterpart, allowed, named, keyed, read, same⟩
  rw [documents.form same allowed named declared.path options]
  simp [Description.entryForm?, keyed, read, agree.path, agree.noShared]

end

/-- A declaration asks for no authentication. -/
theorem Declaration.forms_unsecured {declaration : Declaration} {form : MethodForm}
    (member : .ok form ∈ declaration.methodForms) : form.security = {} := by
  obtain ⟨path, _, among⟩ := List.mem_flatMap.mp member
  obtain ⟨operation, _, found⟩ := List.mem_filterMap.mp among
  obtain ⟨_, formed, same⟩ := Option.map_eq_some_iff.mp found
  cases same
  obtain ⟨_, _, rfl⟩ := Option.map_eq_some_iff.mp formed
  rfl

/-- Neither do the methods of a description that agrees with one, whatever schemes it defines. -/
theorem Declaration.Agrees.overallSecurity {declaration : Declaration} {description : Description}
    (documents : declaration.Agrees description) {options : Options} {methods : List Method} {after : BuildState}
    (ran : (description.buildMethods options).run {} = (.ok methods, after)) :
    description.overallSecurity methods = { secure := description.securityDefinitions.isSome } := by
  rw [Description.buildMethods_eq] at ran
  obtain ⟨forms, formed, given, _⟩ := run_methods ran
  have same : forms.map MethodForm.security = methods.map Method.security :=
    map_eq_of_forall₂ given fun _ _ gives => congrArg Method.security gives.same.symm
  have unsecured : ∀ method ∈ methods, method.security = {} := by
    intro method member
    have image : method.security ∈ forms.map MethodForm.security := same ▸ List.mem_map_of_mem member
    obtain ⟨form, among, secured⟩ := List.mem_map.mp image
    have asked : .ok form ∈ declaration.methodForms := by
      rw [documents.methodForms options, formed]
      exact List.mem_map_of_mem among
    rw [← secured, Declaration.forms_unsecured asked]
  simp +contextual [Description.overallSecurity, unsecured]

/-- Of documents that agree the same is built: both fail, for the same reason, or both give a view. The
views have the same methods, enumerations and models, and differ at most in what is said of the document as
a whole; only defined schemes make the one of the description secure. -/
theorem dialects_agree {declaration : Declaration} {description : Description}
    (documents : declaration.Agrees description) (options : Options) :
    (∃ error, build (.declaration declaration) options = .error error ∧
      build (.description description) options = .error error) ∨
    ∃ older newer, build (.declaration declaration) options = .ok older ∧
      build (.description description) options = .ok newer ∧
      older.methods = newer.methods ∧ older.enumerations = newer.enumerations ∧ older.models = newer.models ∧
      newer.security = { older.security with secure := description.securityDefinitions.isSome } ∧
      older = { newer with
        title := older.title, description := older.description, version := older.version
        domain := older.domain, security := older.security } := by
  have same : declaration.buildMethods = description.buildMethods options := by
    rw [Declaration.buildMethods_eq, Description.buildMethods_eq, documents.methodForms options,
      documents.noDefinitions]
  have noModels : description.buildModels = pure [] := by
    rw [Description.buildModels, documents.noDefinitions]
    rfl
  simp only [build, Declaration.buildView, Description.buildView, same, noModels, run_bind]
  rcases ran : (description.buildMethods options).run {} with ⟨error | methods, after⟩
  · exact .inl ⟨error, rfl, rfl⟩
  · exact .inr ⟨_, _, rfl, rfl, rfl, rfl, rfl, documents.overallSecurity ran, rfl⟩

/-- A path with two operations that name one enumeration. Nothing is left of the nickname of the first, so
both are named after their route. -/
def statusDeclaration : Declaration where
  apis := [{
    path := "/pets"
    operations := [
      { method := "GET", nickname := some "-"
        parameters := [{
          name := "status", paramType := .query, type := some .string
          enumValues := [.string "free", .string "sold"] }] },
      { method := "POST"
        parameters := [{
          name := "status", paramType := .form, required := true
          enumValues := [.string "free", .string "sold"] }] }] }]

def findValue : Value :=
  .mapping [(.string "operationId", .string "-"), (.string "parameters", .list
    [.mapping [(.string "name", .string "status"), (.string "in", .string "query"),
      (.string "type", .string "string"),
      (.string "enum", .list [.string "free", .string "sold"])]])]

def addValue : Value :=
  .mapping [(.string "parameters", .list
    [.mapping [(.string "name", .string "status"), (.string "in", .string "formData"),
      (.string "required", .bool true),
      (.string "enum", .list [.string "free", .string "sold"])]])]

def statusDescription : Description where
  paths := [("/pets", { entries := [("get", findValue), ("x-note", .null), ("post", addValue)] })]

theorem status_dialects_agree :
    statusDeclaration.Agrees statusDescription ∧
    ∃ older newer, build (.declaration statusDeclaration) {} = .ok older ∧
      build (.description statusDescription) {} = .ok newer ∧
      newer.methods.map Method.name = ["getPets", "postPets"] ∧
      older.methods = newer.methods ∧ older.enumerations = newer.enumerations := by
  have find : Operation.ofValue findValue = .ok
      { operationId := some "-", parameters := [.inline {
          name := "status", location := .query
          inline := { type := some .string, enumValues := [.string "free", .string "sold"] } }] } := by cbv
  have add : Operation.ofValue addValue = .ok
      { parameters := [.inline {
          name := "status", location := .formData, required := true
          inline := { enumValues := [.string "free", .string "sold"] } }] } := by cbv
  have names : (build (.declaration statusDeclaration) {}).toOption.map
      (fun view => view.methods.map Method.name) = some ["getPets", "postPets"] := by cbv
  have kept : ([("get", findValue), ("x-note", .null), ("post", addValue)].filter
      fun entry => (Verb.ofText? entry.1).isSome) = [("get", findValue), ("post", addValue)] := by cbv
  have get : Verb.ofText? "GET" = some .get ∧ Verb.ofText? "get" = some .get := by constructor <;> cbv
  have post : Verb.ofText? "POST" = some .post ∧ Verb.ofText? "post" = some .post := by constructor <;> cbv
  have documents : statusDeclaration.Agrees statusDescription := by
    refine ⟨.cons ⟨rfl, rfl, ?_⟩ .nil, rfl, rfl, rfl, rfl⟩
    refine kept ▸ .cons ?_ (.cons ?_ .nil)
    · refine ⟨.get, _, by decide, get.1, get.2, find, ⟨rfl, ?_, rfl, rfl, .cons ?_ .nil, rfl, rfl, rfl, rfl⟩⟩
      · rintro _ ⟨⟩
        decide
      · exact ⟨_, rfl, rfl, rfl, rfl, rfl, rfl, by rintro _ ⟨⟩, rfl, rfl, rfl⟩
    · refine ⟨.post, _, by decide, post.1, post.2, add, ⟨rfl, by rintro _ ⟨⟩, rfl, rfl, .cons ?_ .nil, rfl, rfl, rfl, rfl⟩⟩
      exact ⟨_, rfl, rfl, rfl, rfl, rfl, rfl, by rintro _ ⟨⟩, rfl, rfl, rfl⟩
  refine ⟨documents, ?_⟩
  obtain ⟨view, built, names⟩ := view_of_evaluated names
  rcases dialects_agree documents {} with ⟨error, failed, _⟩ | ⟨older, newer, first, second, methods, enums, _⟩
  · simp [built] at failed
  · obtain rfl : view = older := Except.ok.inj (built.symm.trans first)
    exact ⟨view, newer, built, second, methods ▸ names, methods, enums⟩

end ClientGen
