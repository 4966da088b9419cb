import ClientGen.Proofs.MethodNames
import ClientGen.Proofs.RouteNames
import ClientGen.TypeScript.PathTemplate
import Mathlib

/-! Which names can be written as identifiers. A name in camel case starts with the first letter or digit of
what it is made from. So the names that start with a digit, and no others, are no identifiers: no method could
be declared under such a name, and no argument be read by it. -/

namespace ClientGen.Text

/-- The text is ASCII, and this is the first letter or digit in it. -/
structure LedBy (text : List Char) (first : Char) : Prop where
  ascii : ∀ c ∈ text, c.toNat < 128
  found : text.find? Char.isAlphanum = some first

private theorem lowerWord_ascii {c : Char} (ascii : c.toNat < 128) (rest : List Char) :
    lowerWord (c :: rest) = c.toLower :: lowerWord rest := by
  have lower : lowerForm c = [c.toLower] := if_pos ascii
  rw [lowerWord, lower, List.singleton_append]
  rintro rfl _
  exact absurd ascii (by decide)

/-- Casing puts nothing in front of what leads the text. -/
theorem LedBy.lowerCamel {text : List Char} {first : Char} (led : LedBy text first) :
    first.isAlphanum = true ∧ ∃ rest, Text.lowerCamel text = first.toLower :: rest := by
  have alphanumeric : text.filter isAlphanumeric = text.filter Char.isAlphanum :=
    List.filter_congr fun c member => if_pos (led.ascii c member)
  have head : (words text).flatten.head? = some first := by
    rw [flatten_words, alphanumeric, List.head?_filter, led.found]
  refine ⟨List.find?_some led.found, ?_⟩
  unfold Text.lowerCamel
  split
  next none => simp [none] at head
  next word others split =>
    obtain ⟨c, rest, rfl⟩ := List.exists_cons_of_ne_nil (words_nonempty (split ▸ List.mem_cons_self))
    obtain rfl : c = first := by simpa [split] using head
    rw [lowerWord_ascii (led.ascii c (List.mem_of_find?_eq_some led.found)), List.cons_append]
    exact ⟨_, rfl⟩

end ClientGen.Text

namespace ClientGen.TypeScript
open Text

/-- A name in camel case is an identifier, and its own key, just if it does not start with a digit. -/
theorem lowerCamel_isIdentifier_iff {text : List Char} {first : Char} (led : LedBy text first) :
    (isIdentifier (lowerCamel text) = true ↔ first.isDigit = false) ∧
      (keyChars (lowerCamel text) = lowerCamel text ↔ first.isDigit = false) := by
  obtain ⟨letter, rest, cased⟩ := led.lowerCamel
  have alphanumeric := lowerCamel_isAlphanum led.ascii
  have digits : ∀ c : Char, c.toNat < 128 → c.toLower.isDigit = c.isDigit := forall_ascii (by decide)
  rw [cased] at alphanumeric ⊢
  have identifier : isIdentifier (first.toLower :: rest) = true ↔ first.isDigit = false := by
    rw [isIdentifier_iff alphanumeric, digits first (ascii_of_isAlphanum letter)]
  have quoted : Json.quoted (first.toLower :: rest) ≠ first.toLower :: rest := by
    intro same
    have mark := alphanumeric _ (.head _)
    rw [← (List.cons.inj same).1] at mark
    exact absurd mark (by decide)
  refine ⟨identifier, ?_⟩
  rw [← identifier, keyChars]
  split
  next whole => simp [whole]
  next other => simp [other, quoted]

/-- An argument is read as the field that its type has just if the name is its own key. -/
theorem argumentChars_eq_iff (name : String) :
    argumentChars name = "parameters.".toList ++ keyChars name.toList ↔ keyChars name.toList = name.toList := by
  unfold argumentChars
  exact (List.append_right_inj _).trans eq_comm

end ClientGen.TypeScript

namespace ClientGen.Naming
open Text TypeScript

theorem camelName_isIdentifier_iff {id : String} {first : Char} (led : LedBy id.toList first) :
    isIdentifier (camelName id).toList = true ↔ first.isDigit = false := by
  rw [camelName_eq_lowerCamel, String.toList_ofList]
  exact (lowerCamel_isIdentifier_iff led).1

theorem camelName_nonempty {id : String} {first : Char} (led : LedBy id.toList first) :
    (camelName id).isEmpty = false := by
  obtain ⟨_, rest, cased⟩ := led.lowerCamel
  simp [camelName_eq_lowerCamel, cased]

/-- A numeral behind a name does not make an identifier of it, nor of an identifier something else. -/
theorem Grants.isIdentifier_eq {earlier : List String} {name granted : String} (grants : Grants earlier name granted)
    (nonempty : name ≠ "") : isIdentifier granted.toList = isIdentifier name.toList := by
  cases grants with
  | asked _ => rfl
  | suffixed suffix _ _ _ _ _ =>
    have digits : (toString suffix).toList.all isIdentifierPart = true :=
      List.all_eq_true.mpr fun c member => by simp [isIdentifierPart, numeral_isAlphanum suffix c member]
    obtain ⟨c, rest, split⟩ := List.exists_cons_of_ne_nil (String.toList_eq_nil_iff.not.mpr nonempty)
    rw [String.toList_append, split, List.cons_append, isIdentifier, isIdentifier, List.all_append, digits,
      Bool.and_true]

/-- What a name has in common with all that can be granted for it, a run of claims keeps. -/
theorem Claims.history_related {related : String → String → Prop} {names : List String}
    (each : ∀ name ∈ names, ∀ earlier granted, Grants earlier name granted → related name granted)
    (claims : Claims) : List.Forall₂ related names ((claims.history names).1.map Prod.snd) := by
  induction names generalizing claims with
  | nil => exact .nil
  | cons name names ih =>
    obtain ⟨first, others⟩ := List.forall_mem_cons.mp each
    exact .cons (first _ _ (claims.claim_grants name)) (ih others _)

end ClientGen.Naming

namespace ClientGen
open Naming Text TypeScript

/-- A method is an identifier just if the name its document asks for is one. -/
theorem methods_isIdentifier {document : Document} {options : Options} {view : View}
    (built : build document options = .ok view) :
    ∃ forms : List MethodForm, document.methodForms options = forms.map .ok ∧
      List.Forall₂ (fun form method => isIdentifier method.name.toList = isIdentifier form.name.toList) forms
        view.methods := by
  obtain ⟨forms, formed, _, names⟩ := build_methods built
  have asked : ∀ name ∈ forms.map MethodForm.name, name ≠ "" := by
    intro name member
    obtain ⟨form, among, rfl⟩ := List.mem_map.mp member
    exact document.asks_names (formed ▸ List.mem_map_of_mem among)
  have granted := Claims.history_related
    (fun name member _ _ grants => grants.isIdentifier_eq (asked name member)) {}
  rw [← names, List.forall₂_map_left_iff, List.forall₂_map_right_iff] at granted
  exact ⟨forms, formed, granted⟩

/-- A name made from an id is an identifier just if the first letter or digit of the id is no digit. So it is where
an operation is named by the id, for the method that gets the name, and for an argument. An argument is read by
its name, and the field that its type has is another one if the name is no identifier: it is in quotation marks. -/
theorem id_isIdentifier_iff {id : String} {first : Char} (led : LedBy id.toList first) :
    (isIdentifier (camelName id).toList = true ↔ first.isDigit = false) ∧
    (∀ verb path (operation : Operation) tagged, operation.operationId = some tagged →
      (splitOperationId tagged).1 = id → (Description.nameAndModel verb path operation).1 = camelName id) ∧
    (∀ verb path (operation : DeclaredOperation), operation.nickname = some id →
      Declaration.methodName verb path operation = camelName id) ∧
    ∀ document options view, build document options = .ok view →
      (∃ forms : List MethodForm, document.methodForms options = forms.map .ok ∧
        List.Forall₂ (fun form method => form.name = camelName id →
          (isIdentifier method.name.toList = true ↔ first.isDigit = false)) forms view.methods) ∧
      ∀ method ∈ view.methods, ∀ parameter ∈ method.parameters, parameter.name = id →
        (isIdentifier parameter.camelCaseName.toList = true ↔ first.isDigit = false) ∧
        (argumentChars parameter.camelCaseName =
          "parameters.".toList ++ keyChars parameter.camelCaseName.toList ↔ first.isDigit = false) := by
  have identifier := camelName_isIdentifier_iff led
  refine ⟨identifier, ?_, ?_, ?_⟩
  · intro verb path operation tagged identified base
    simp [Description.nameAndModel, identified, base, camelName_nonempty led]
  · intro verb path operation identified
    simp [Declaration.methodName, identified, camelName_nonempty led]
  · intro document options view built
    constructor
    · obtain ⟨forms, formed, methods⟩ := methods_isIdentifier built
      refine ⟨forms, formed, methods.imp ?_⟩
      intro form method same named
      rw [same, named, identifier]
    · intro method member parameter inside named
      rw [argumentChars_eq_iff, camelCase_of_build built member inside, named]
      exact lowerCamel_isIdentifier_iff led

def codesDeclaration : Declaration where
  apis := [{ path := "/codes", operations := [{
    method := "GET"
    parameters := [{ name := "page-size", paramType := .query }, { name := "2fa", paramType := .query }] }] }]

theorem codes_isIdentifier :
    LedBy "list.2fa-codes".toList 'l' ∧ LedBy "page-size".toList 'p' ∧ LedBy "2fa".toList '2' ∧
    Declaration.methodName .get "/codes" { method := "GET", nickname := some "list.2fa-codes" } = "list2faCodes" ∧
    isIdentifier "list2faCodes".toList = true ∧
    ∃ view, build (.declaration codesDeclaration) {} = .ok view ∧
      view.methods.map (fun method => method.parameters.map ViewParameter.camelCaseName) = [["pageSize", "2fa"]] ∧
      ∀ method ∈ view.methods, ∀ parameter ∈ method.parameters,
        (parameter.name = "page-size" → isIdentifier parameter.camelCaseName.toList = true) ∧
        (parameter.name = "2fa" → argumentChars parameter.camelCaseName ≠
          "parameters.".toList ++ keyChars parameter.camelCaseName.toList) := by
  have names : (build (.declaration codesDeclaration) {}).toOption.map
      (fun view => view.methods.map fun method => method.parameters.map ViewParameter.camelCaseName) =
        some [["pageSize", "2fa"]] := by cbv
  obtain ⟨view, built, names⟩ := view_of_evaluated names
  have codes : LedBy "list.2fa-codes".toList 'l' := ⟨by simp, by decide⟩
  have size : LedBy "page-size".toList 'p' := ⟨by simp, by decide⟩
  have factor : LedBy "2fa".toList '2' := ⟨by simp, by decide⟩
  have cased : camelName "list.2fa-codes" = "list2faCodes" := by decide +kernel
  obtain ⟨identifier, _, nickname, _⟩ := id_isIdentifier_iff codes
  rw [cased] at identifier nickname
  refine ⟨codes, size, factor, nickname _ _ _ rfl, identifier.mpr (by decide), view, built, names, ?_⟩
  intro method member parameter inside
  constructor
  · intro named
    have read := (id_isIdentifier_iff size).2.2.2 _ _ view built
    exact (read.2 method member parameter inside named).1.mpr (by decide)
  · intro named same
    have read := (id_isIdentifier_iff factor).2.2.2 _ _ view built
    exact absurd ((read.2 method member parameter inside named).2.mp same) (by decide)

/-- An id may start with a digit, and then its name does. -/
theorem camelName_starts_with_digit :
    ¬ ∀ id : String, (∀ c ∈ id.toList, c.toNat < 128) → (∃ c ∈ id.toList, c.isAlphanum = true) →
      isIdentifier (camelName id).toList = true := by
  intro identifier
  exact absurd (identifier "2fa" (by simp) ⟨'2', by simp, by decide⟩) (by decide +kernel)

end ClientGen
