import ClientGen.Proofs.MethodCode
import ClientGen.Proofs.PathCode

/-! What a method reads of its arguments. All that its statements read is an argument, but for a body that is
sent whole though it has only one value. The path reads nothing else either, if its literal is read as what
the path stands for; the text of a path in which a substitution comes about may read anything. -/

namespace ClientGen.TypeScript

section
variable {document : Document} {options : Options} {view : View} (built : build document options = .ok view)
  {method : Method} (member : method ∈ view.methods)
include built member

theorem named_of_build {parameter : ViewParameter} (among : parameter ∈ method.parameters) :
    Named parameter.camelCaseName := by
  intro c inside
  rw [camelCase_of_build built member among] at inside
  exact wordChar_of_name (Text.lowerCamel_isNameChar _ c inside)

theorem named_of_asks {name : String} (asks : Asks method name) : Named name := by
  obtain ⟨parameter, argument, rfl⟩ := asks
  exact named_of_build built member (List.mem_filter.mp argument).1

theorem names_named : ∀ name ∈ (clientMethod method).names, Named name := by
  intro name named
  rcases names_asked named with asks | ⟨body, whole, rfl⟩
  · exact named_of_asks built member asks
  · exact named_of_build built member (wholeBody_mem whole)

theorem path_named : ∀ part ∈ pathLiteral method, ∀ name ∈ part.names, Named name :=
  fun _ among _ named => named_of_asks built member (asks_of_path among named)

/-- The statements of a method read arguments, and a body that is sent whole although it has only one value.
So does the path, if its literal is read as what the path stands for. Hence a method reads nothing but
arguments just where such a body, if there is one, has the name of an argument, and the path reads no others. -/
theorem reads_arguments_iff :
    (∀ name, Reads (clientMethod method).statements.text ["parameters", name] → ¬ Asks method name →
      ∃ body, wholeBody? method = some body ∧ body.singleton.isSome ∧ body.camelCaseName = name) ∧
    (Faithful method → ∀ name, Reads (clientMethod method).literal ["parameters", name] → Asks method name) ∧
    ((∀ name, (clientMethod method).Reads ["parameters", name] → Asks method name) ↔
      (∀ body, wholeBody? method = some body → body.singleton.isSome → Asks method body.camelCaseName) ∧
      ∀ name, Reads (clientMethod method).literal ["parameters", name] → Asks method name) := by
  have named := names_named built member
  have unasked : ∀ name, Reads (clientMethod method).statements.text ["parameters", name] → ¬ Asks method name →
      ∃ body, wholeBody? method = some body ∧ body.singleton.isSome ∧ body.camelCaseName = name := by
    intro name read missing
    have made := (reads_argument_iff named).mp read
    obtain ⟨body, whole, rfl⟩ := (names_asked made).resolve_left missing
    cases only : body.singleton with
    | some value => exact ⟨body, whole, by simp [only], rfl⟩
    | none =>
      have asked : body ∈ arguments method := List.mem_filter.mpr ⟨wholeBody_mem whole, by simp [only]⟩
      exact absurd ⟨body, asked, rfl⟩ missing
  refine ⟨unasked, fun faithful name read => ?_, ?_, ?_⟩
  · obtain ⟨part, among, inside⟩ := (literal_reads_argument_iff faithful (path_named built member)).mp read
    exact asks_of_path among inside
  · intro asked
    refine ⟨fun body whole _ => asked _ (.inl ?_), fun name read => asked name (.inr read)⟩
    exact (reads_argument_iff named).mpr (whole_named whole)
  · rintro ⟨bodies, path⟩ name (statement | literal)
    · refine Classical.byContradiction fun missing => ?_
      obtain ⟨body, whole, single, rfl⟩ := unasked name statement missing
      exact missing (bodies body whole single)
    · exact path name literal

end

example : Reads ('\x60' :: (([.text "/a/$".toList, .text "\x7bparameters.foo\x7d".toList] : List LiteralPart).flatMap
    LiteralPart.chars ++ ['\x60'])) ["parameters", "foo"] := by decide +kernel

/-- A method with arguments in its path, its query and its body, and a header that has only one value. -/
def noteDocument : ClientGen.Declaration where
  apis := [{
    path := "/pets/\x7bpet-id\x7d"
    operations := [{
      method := "POST"
      parameters :=
        [{ name := "pet-id", paramType := .path, type := some .string },
          { name := "limit", paramType := .query, type := some .integer },
          { name := "mode", paramType := .header, type := some .string, enumValues := [.string "fast"] },
          { name := "note", paramType := .body, type := some .string }] }] }]

theorem note_reads_arguments :
    ∃ view method, build (.declaration noteDocument) {} = .ok view ∧ view.methods = [method] ∧
      (clientMethod method).Reads ["parameters", "petId"] ∧ (clientMethod method).Reads ["parameters", "note"] ∧
      ∀ name, (clientMethod method).Reads ["parameters", name] → name ∈ ["petId", "limit", "note"] := by
  have facts : (build (.declaration noteDocument) {}).toOption.map (fun view => view.methods.map fun method =>
      (pathLiteral method, (wholeBody? method).map fun body => (body.camelCaseName, body.singleton),
        (arguments method).map ViewParameter.camelCaseName)) =
      some [([.text "/pets/".toList, .argument "petId", .text []], some ("note", none),
        ["petId", "limit", "note"])] := by cbv
  obtain ⟨view, built, facts⟩ := view_of_evaluated facts
  obtain ⟨method, methods, facts⟩ := List.map_eq_singleton_iff.mp facts
  obtain ⟨path, rest⟩ := Prod.mk.inj facts
  obtain ⟨given, names⟩ := Prod.mk.inj rest
  obtain ⟨body, whole, form⟩ := Option.map_eq_some_iff.mp given
  obtain ⟨note, only⟩ := Prod.mk.inj form
  have member : method ∈ view.methods := by simp [methods]
  have faithful : Faithful method := by
    simp [Faithful, path, straddles_cons, not_straddles_nil, LiteralPart.pieces, LiteralPart.Kept]
  obtain ⟨_, literal, exact⟩ := reads_arguments_iff built member
  have asked := exact.mpr ⟨fun other known single => ?_, literal faithful⟩
  · refine ⟨view, method, built, methods, .inr ?_, .inl ?_, fun name read => ?_⟩
    · refine (literal_reads_argument_iff faithful (path_named built member)).mpr ⟨.argument "petId", ?_, ?_⟩
      · simp [path]
      · simp [LiteralPart.names]
    · exact note ▸ (reads_argument_iff (names_named built member)).mpr (whole_named whole)
    · obtain ⟨parameter, argument, rfl⟩ := asked name read
      exact names ▸ List.mem_map_of_mem argument
  · obtain rfl := Option.some.inj (whole.symm.trans known)
    simp [only] at single

def pingDocument : ClientGen.Declaration where
  apis := [{
    path := "/ping"
    operations := [{
      method := "POST"
      parameters :=
        [{ name := "state", paramType := .body, type := some .string, enumValues := [.string "ping"] }] }] }]

/-- The body is read as an argument, and the method has no arguments. -/
theorem fixed_body_read :
    ¬ ∀ document options view, build document options = .ok view → ∀ method ∈ view.methods,
      ∀ name, (clientMethod method).Reads ["parameters", name] → Asks method name := by
  intro asked
  have only : (build (.declaration pingDocument) {}).toOption.map
      (fun view => view.methods.map fun method =>
        ((wholeBody? method).map ViewParameter.camelCaseName, (arguments method).length)) =
      some [(some "state", 0)] := by cbv
  obtain ⟨view, built, fields⟩ := view_of_evaluated only
  obtain ⟨method, methods, facts⟩ := List.map_eq_singleton_iff.mp fields
  obtain ⟨given, empty⟩ := Prod.mk.inj facts
  obtain ⟨body, whole, _⟩ := Option.map_eq_some_iff.mp given
  have member : method ∈ view.methods := by simp [methods]
  have read := (reads_argument_iff (names_named built member)).mpr (whole_named whole)
  obtain ⟨argument, among, _⟩ := asked _ _ view built method member body.camelCaseName (.inl read)
  exact absurd (List.length_pos_of_mem among) (by omega)

end ClientGen.TypeScript
