import ClientGen.Proofs.CamelWords
import ClientGen.Proofs.MethodForms
import ClientGen.TypeScript.Client.Assembly
import ClientGen.TypeScript.Client.Printer
import Mathlib

/-! Where comments end. A text of the document that goes into a comment is escaped, so that it cannot end
the comment, alone or together with what stands around it. The version of the document is not: if there is
an end of a comment in it, the comment at the start of the module ends there, and what follows is code. -/

namespace ClientGen.TypeScript

def commentEnd : List Char := ['*', '/']

def EndsComment (text : List Char) : Prop := commentEnd <:+: text

instance (text : List Char) : Decidable (EndsComment text) := inferInstanceAs (Decidable (_ <:+: _))

/-- The text is that of a comment that ends with its last line, and not before. -/
def ClosesOnce (text : List Char) : Prop :=
  commentEnd ++ ['\n'] <:+ text ∧ ∀ before after, text = before ++ commentEnd ++ after → after = ['\n']

section
variable {before text after : List Char}

/-- A text that starts with the end of a comment can be cut in front of it, in it or behind it. -/
private theorem cut_commentEnd {start rest : List Char} (parts : commentEnd ++ after = start ++ rest) :
    start = [] ∨ start = ['*'] ∨ commentEnd <+: start := by
  match start with
  | [] => exact .inl rfl
  | [c] =>
    obtain ⟨star, _⟩ := List.cons.inj parts
    exact .inr (.inl (star ▸ rfl))
  | c :: d :: others =>
    obtain ⟨star, parts⟩ := List.cons.inj parts
    obtain ⟨slash, _⟩ := List.cons.inj parts
    subst star slash
    exact .inr (.inr (List.prefix_append commentEnd others))

theorem endsComment_append :
    EndsComment (before ++ after) ↔
      EndsComment before ∨ EndsComment after ∨ (['*'] <:+ before ∧ ['/'] <+: after) := by
  rw [EndsComment, List.infix_append_iff]
  constructor
  · rintro (inside | inside | ⟨start, rest, parts, ending, beginning⟩)
    · exact .inl inside
    · exact .inr (.inl inside)
    -- The end has a part on each side, if an empty one counts: only a cut in its middle is new.
    have joined : commentEnd ++ [] = start ++ rest := by simpa using parts
    rcases cut_commentEnd joined with rfl | rfl | whole
    · obtain rfl : commentEnd = rest := parts
      exact .inr (.inl beginning.isInfix)
    · obtain rfl : ['/'] = rest := List.cons.inj parts |>.2
      exact .inr (.inr ⟨ending, beginning⟩)
    · exact .inl (whole.isInfix.trans ending.isInfix)
  · rintro (inside | inside | ⟨ending, beginning⟩)
    · exact .inl inside
    · exact .inr (.inl inside)
    · exact .inr (.inr ⟨_, _, rfl, ending, beginning⟩)

/-- Behind a text that neither ends the comment nor leaves a star, only what follows can end it. -/
theorem endsComment_behind (open_ : ¬ EndsComment before) (unstarred : ¬ ['*'] <:+ before) :
    EndsComment (before ++ text) ↔ EndsComment text := by
  rw [endsComment_append]
  simp only [open_, unstarred, false_and, or_false, false_or]

theorem endsComment_ahead (open_ : ¬ EndsComment after) (unslashed : ¬ ['/'] <+: after) :
    EndsComment (text ++ after) ↔ EndsComment text := by
  rw [endsComment_append]
  simp only [open_, unslashed, and_false, or_false]

theorem unstarred_concat {c : Char} (other : c ≠ '*') : ¬ ['*'] <:+ before ++ [c] := by
  rintro ⟨start, same⟩
  obtain ⟨_, last⟩ := List.append_inj' same rfl
  exact other (List.cons.inj last).1.symm

theorem endsComment_indented (depth : Nat) :
    EndsComment (List.replicate depth ' ' ++ text) ↔ EndsComment text := by
  have starless : '*' ∉ List.replicate depth ' ' := fun star => absurd (List.eq_of_mem_replicate star) (by decide)
  exact endsComment_behind (fun ends => starless (ends.subset (.head _)))
    fun ending => starless (ending.subset (.head _))

/-- Lines do not end a comment together, as there is a break between them. -/
theorem endsComment_text {lines : Lines} :
    EndsComment (Lines.text lines) ↔ ∃ line ∈ lines, EndsComment line := by
  induction lines with
  | nil => simp [Lines.text, EndsComment, commentEnd]
  | cons line lines ih =>
    have text : Lines.text (line :: lines) = line ++ (['\n'] ++ Lines.text lines) := by simp [Lines.text]
    have broken : EndsComment (['\n'] ++ Lines.text lines) ↔ EndsComment (Lines.text lines) :=
      endsComment_behind (by decide) (by decide)
    have apart : ¬ ['/'] <+: ['\n'] ++ Lines.text lines := by simp
    rw [text, endsComment_append, broken, ih]
    simp only [apart, and_false, or_false, List.mem_cons, or_and_right, exists_or, exists_eq_left]

theorem closesOnce_append (unstarred : ¬ ['*'] <:+ before) :
    ClosesOnce (before ++ commentEnd ++ ['\n']) ↔ ¬ EndsComment before := by
  constructor
  · rintro ⟨_, once⟩ ⟨start, rest, rfl⟩
    have last := congrArg List.length (once start (rest ++ commentEnd ++ ['\n']) (by simp))
    simp [commentEnd] at last
  · intro open_
    refine ⟨⟨before, by simp⟩, fun start rest parts => ?_⟩
    rw [List.append_assoc, List.append_assoc] at parts
    -- Another end starts in the last one, where there is room for that one only, or else in the text.
    rcases List.append_eq_append_iff.mp parts with ⟨more, rfl, cut⟩ | ⟨more, rfl, cut⟩
    · rcases cut_commentEnd cut with rfl | rfl | ⟨others, rfl⟩
      · exact (List.append_cancel_left cut).symm
      · simp [commentEnd] at cut
      · have lengths := congrArg List.length cut
        simp only [commentEnd, List.length_append, List.length_cons, List.length_nil] at lengths
        omega
    · rcases cut_commentEnd cut with rfl | rfl | whole
      · exact List.append_cancel_left cut
      · exact absurd (List.suffix_append start ['*']) unstarred
      · exact absurd (whole.isInfix.trans (List.suffix_append start more).isInfix) open_

end

/-- An escaped text starts as the text does. -/
private theorem head_escaped (text : List Char) :
    (Text.replaceAll commentEnd ['*', '\\', '/'] text).head? = text.head? := by
  cases text with
  | nil => simp [Text.replaceAll]
  | cons c rest =>
    rw [Text.replaceAll]
    split
    next ends =>
      obtain ⟨star, _⟩ := List.cons_prefix_cons.mp (List.isPrefixOf_iff_prefix.mp ends)
      rw [List.head?_cons, ← star]
      rfl
    next => rfl

private theorem escaped_open (text : List Char) :
    ¬ EndsComment (Text.replaceAll commentEnd ['*', '\\', '/'] text) := by
  induction text using Text.replaceAll.induct commentEnd with
  | case1 => simp [Text.replaceAll, EndsComment, commentEnd]
  | case2 c rest ends ih =>
    rw [Text.replaceAll, if_pos ends, endsComment_behind (by decide) (by decide)]
    exact ih
  | case3 c rest stays ih =>
    rw [Text.replaceAll, if_neg stays]
    intro ends
    have split : EndsComment ([c] ++ Text.replaceAll commentEnd ['*', '\\', '/'] rest) := ends
    rcases endsComment_append.mp split with alone | later | ⟨ending, beginning⟩
    · exact absurd alone.length_le (by simp [commentEnd])
    · exact ih later
    · -- A star in front of a slash would have been escaped.
      have alone : ['*'] <:+ [] ++ [c] := ending
      obtain rfl : c = '*' := by_contra fun other => unstarred_concat other alone
      have slash : rest.head? = some '/' := by
        obtain ⟨others, same⟩ := beginning
        rw [← head_escaped, ← same]
        rfl
      cases rest with
      | nil => cases slash
      | cons d others =>
        obtain rfl := Option.some.inj slash
        exact stays (List.isPrefixOf_iff_prefix.mpr (List.prefix_append commentEnd others))

/-- An escaped text ends no comment. -/
theorem escapeComment_open (text : String) : ¬ EndsComment (escapeComment text) := escaped_open text.toList

private theorem spaced_open (text : String) : ¬ EndsComment (' ' :: escapeComment text) := by
  have behind : EndsComment ([' '] ++ escapeComment text) ↔ EndsComment (escapeComment text) :=
    endsComment_behind (by decide) (by decide)
  exact behind.not.mpr (escapeComment_open text)

def DocComment.texts : DocComment → List (List Char)
  | line text => [text]
  | block lines => lines.filterMap id

/-- A comment where it stands in a module, and how far it is indented. -/
structure PlacedComment where
  depth : Nat
  comment : DocComment

def PlacedComment.lines (placed : PlacedComment) : Lines :=
  placed.comment.lines (List.replicate placed.depth ' ')

def InterfaceMember.comments (member : InterfaceMember) : List PlacedComment :=
  (member.comment.map fun text => ⟨2, .line text⟩).toList

def Declaration.comments (declaration : Declaration) : List PlacedComment :=
  (declaration.comment.map fun comment => ⟨0, comment⟩).toList ++
    match declaration.type with
    | .alias _ => []
    | .interface members => members.flatMap InterfaceMember.comments

def ClientMethod.placedComment (method : ClientMethod) : PlacedComment :=
  ⟨2, .block (method.comment.map some)⟩

def ClientModule.comments (module : ClientModule) : List PlacedComment :=
  ⟨0, module.comment⟩ :: (module.declarations.flatMap Declaration.comments ++
    module.client.methods.map ClientMethod.placedComment)

section
variable {placed : PlacedComment}

private theorem infix_flatMap {α : Type} {items : List α} {item : α} {linesOf : α → Lines} {part : Lines}
    (member : item ∈ items) (inside : part <:+: linesOf item) : part <:+: items.flatMap linesOf := by
  obtain ⟨before, after, rfl⟩ := List.append_of_mem member
  rw [List.flatMap_append, List.flatMap_cons]
  exact inside.trans (List.infix_append' _ _ _)

theorem InterfaceMember.comments_printed {member : InterfaceMember} (among : placed ∈ member.comments) :
    placed.lines <:+: member.lines := by
  obtain ⟨text, given, rfl⟩ := Option.map_eq_some_iff.mp (Option.mem_toList.mp among)
  rw [lines, given]
  exact (List.prefix_append _ _).isInfix

theorem Declaration.comments_printed {declaration : Declaration} (among : placed ∈ declaration.comments) :
    placed.lines <:+: declaration.lines := by
  obtain ⟨apart, comment, name, type⟩ := declaration
  rcases List.mem_append.mp among with own | inner
  · obtain ⟨_, rfl, rfl⟩ := Option.map_eq_some_iff.mp (Option.mem_toList.mp own)
    exact List.infix_append _ _ _
  · refine List.IsInfix.trans ?_ (List.suffix_append _ _).isInfix
    cases type with
    | «alias» _ => cases inner
    | interface members =>
      obtain ⟨member, inside, within⟩ := List.mem_flatMap.mp inner
      have printed : placed.lines <:+: members.flatMap InterfaceMember.lines :=
        infix_flatMap inside (member.comments_printed within)
      exact printed.trans ((List.prefix_append _ _).isInfix.trans (List.suffix_cons _ _).isInfix)

theorem ClientMethod.comment_printed (method : ClientMethod) : method.placedComment.lines <:+: method.lines := by
  unfold lines
  simp only [List.append_assoc]
  exact (List.prefix_append _ _).isInfix

/-- Every comment stands in the text of its module. -/
theorem ClientModule.comments_printed {module : ClientModule} (among : placed ∈ module.comments) :
    placed.lines <:+: module.lines := by
  obtain ⟨opening, closing, whole⟩ : ∃ opening closing : Lines, module.lines =
      ["/* eslint-disable */".toList] ++ module.comment.lines [] ++ opening ++
        module.declarations.flatMap Declaration.lines ++ module.client.lines ++ closing := by
    cases named : module.moduleName with
    | none => exact ⟨module.imports.map String.toList ++ [[]], [], by simp [lines, named]⟩
    | some name =>
      refine ⟨module.imports.map String.toList ++
        [[], "export namespace ".toList ++ name.toList ++ " \x7b".toList] ++ [[]], [['\x7d']], ?_⟩
      simp [lines, named]
  rw [whole]
  rcases List.mem_cons.mp among with rfl | among
  · simp only [List.append_assoc]
    exact List.infix_append' _ _ _
  refine List.IsInfix.trans ?_ (List.prefix_append _ closing).isInfix
  rcases List.mem_append.mp among with declared | commented
  · obtain ⟨declaration, member, within⟩ := List.mem_flatMap.mp declared
    exact (infix_flatMap member (declaration.comments_printed within)).trans (List.infix_append _ _ _)
  · obtain ⟨method, member, rfl⟩ := List.mem_map.mp commented
    have inside : Member.method method ∈ module.client.members :=
      List.mem_append_right _ (List.mem_map_of_mem member)
    have printed : method.placedComment.lines <:+: module.client.memberLines (.method method) :=
      method.comment_printed.trans (List.suffix_cons _ _).isInfix
    have listed : method.placedComment.lines <:+: module.client.lines :=
      (infix_flatMap inside printed).trans (List.infix_append _ _ _)
    exact listed.trans (List.suffix_append _ _).isInfix

end

private theorem endsComment_blockLine (depth : Nat) (line : Option (List Char)) :
    EndsComment (DocComment.blockLine (List.replicate depth ' ') line) ↔ ∃ text, line = some text ∧ EndsComment text := by
  cases line with
  | none =>
    rw [DocComment.blockLine, endsComment_indented]
    exact iff_of_false (by decide) (by simp)
  | some text =>
    have star : EndsComment ([' ', '*', ' '] ++ text) ↔ EndsComment text := endsComment_behind (by decide) (by decide)
    rw [DocComment.blockLine, endsComment_indented]
    simpa using star

/-- A comment closes at its end, and not before, exactly if no text in it ends a comment. -/
theorem PlacedComment.closesOnce_iff (placed : PlacedComment) :
    ClosesOnce (Lines.text placed.lines) ↔ ∀ text ∈ placed.comment.texts, ¬ EndsComment text := by
  obtain ⟨depth, comment⟩ := placed
  cases comment with
  | line text =>
    have printed : Lines.text (PlacedComment.lines ⟨depth, .line text⟩) =
        (List.replicate depth ' ' ++ ("/** ".toList ++ (text ++ [' ']))) ++ commentEnd ++ ['\n'] := by
      simp [PlacedComment.lines, DocComment.lines, Lines.text, commentEnd]
    have unstarred : ¬ ['*'] <:+ List.replicate depth ' ' ++ ("/** ".toList ++ (text ++ [' '])) := by
      rw [← List.append_assoc, ← List.append_assoc]
      exact unstarred_concat (by decide)
    rw [printed, closesOnce_append unstarred, endsComment_indented,
      endsComment_behind (by decide) (by decide), endsComment_ahead (by decide) (by decide)]
    simp [DocComment.texts]
  | block lines =>
    have printed : Lines.text (PlacedComment.lines ⟨depth, .block lines⟩) =
        (Lines.text ((List.replicate depth ' ' ++ "/**".toList) ::
            lines.map (DocComment.blockLine (List.replicate depth ' '))) ++ (List.replicate depth ' ' ++ [' '])) ++
          commentEnd ++ ['\n'] := by
      simp [PlacedComment.lines, DocComment.lines, Lines.text, commentEnd]
    have unstarred : ∀ before : List Char, ¬ ['*'] <:+ before ++ (List.replicate depth ' ' ++ [' ']) := by
      intro before
      rw [← List.append_assoc]
      exact unstarred_concat (by decide)
    have closing : ¬ EndsComment (List.replicate depth ' ' ++ [' ']) := by
      rw [endsComment_indented]
      decide
    have unslashed : ¬ ['/'] <+: List.replicate depth ' ' ++ [' '] := by
      cases depth <;> simp [List.replicate_succ]
    have opening : ¬ EndsComment (List.replicate depth ' ' ++ "/**".toList) := by
      rw [endsComment_indented]
      decide
    rw [printed, closesOnce_append (unstarred _), endsComment_ahead closing unslashed, endsComment_text]
    simp only [List.mem_cons, exists_eq_or_imp, opening, false_or, List.mem_map, exists_exists_and_eq_and,
      endsComment_blockLine, DocComment.texts, List.mem_filterMap, id]
    grind

def PlacedComment.Open (placed : PlacedComment) : Prop := ∀ text ∈ placed.comment.texts, ¬ EndsComment text

section
variable {placed : PlacedComment}

theorem open_member {member : InterfaceMember} (among : placed ∈ member.comments)
    (open_ : ∀ text, member.comment = some text → ¬ EndsComment text) : placed.Open := by
  obtain ⟨text, given, rfl⟩ := Option.map_eq_some_iff.mp (Option.mem_toList.mp among)
  intro other inside
  obtain rfl := List.mem_singleton.mp inside
  exact open_ other given

theorem enumDeclaration_open {definition : EnumDefinition}
    (among : placed ∈ (enumDeclaration definition).comments) : placed.Open := by
  have own : placed ∈ ((enumDeclaration definition).comment.map fun comment => ⟨0, comment⟩).toList := by
    simpa [Declaration.comments, enumDeclaration] using among
  obtain ⟨comment, given, rfl⟩ := Option.map_eq_some_iff.mp (Option.mem_toList.mp own)
  obtain ⟨description, _, rfl⟩ := Option.map_eq_some_iff.mp given
  intro text inside
  obtain rfl := List.mem_singleton.mp inside
  exact escapeComment_open description

theorem modelDeclaration_open {model : Model} (among : placed ∈ (modelDeclaration model).comments) :
    placed.Open := by
  rcases List.mem_append.mp among with own | inner
  · obtain rfl := List.mem_singleton.mp own
    intro text inside
    obtain rfl := List.mem_singleton.mp inside
    exact escapeComment_open _
  · by_cases object : model.type.isObject = true
    · have typed : (modelDeclaration model).type = .interface
          (model.type.properties.map propertyMember ++ model.includes.map relationMember) := if_pos object
      rw [typed] at inner
      obtain ⟨member, listed, within⟩ := List.mem_flatMap.mp inner
      refine open_member within fun text given => ?_
      rcases List.mem_append.mp listed with property | relation
      · obtain ⟨property, _, rfl⟩ := List.mem_map.mp property
        obtain ⟨description, _, rfl⟩ := Option.map_eq_some_iff.mp given
        exact escapeComment_open description
      · obtain ⟨relation, _, rfl⟩ := List.mem_map.mp relation
        cases given
    · have typed : (modelDeclaration model).type = .alias (typeChars model.type) := if_neg object
      rw [typed] at inner
      cases inner

theorem optionsDeclaration_open {client : ClientClass} (among : placed ∈ (optionsDeclaration client).comments) :
    placed.Open := by
  obtain ⟨member, listed, within⟩ := List.mem_flatMap.mp among
  have static : member.comment = none ∨
      member.comment = some "Overrides the base URL requests are issued against.".toList := by
    unfold optionMembers at listed
    grind [optionMember]
  refine open_member within fun text given => ?_
  rcases static with bare | fixed
  · rw [bare] at given
    cases given
  · obtain rfl := Option.some.inj (fixed.symm.trans given)
    decide

theorem titleComment_open {view : View} :
    PlacedComment.Open ⟨0, titleComment view⟩ ↔ ¬ EndsComment view.version.toList := by
  have line : EndsComment ("API version " ++ view.version ++ ". Generated by swaggen, do not edit.").toList ↔
      EndsComment view.version.toList := by
    rw [String.toList_append, String.toList_append, endsComment_ahead (by decide) (by decide),
      endsComment_behind (by decide) (by decide)]
  rw [← line]
  unfold titleComment PlacedComment.Open
  cases nonempty? view.description <;> simp [DocComment.texts, escapeComment_open]

theorem argumentComment_ends {parameter : ViewParameter} {text : List Char}
    (given : argumentComment? parameter = some text) :
    EndsComment text ↔ EndsComment parameter.camelCaseName.toList := by
  obtain ⟨description, _, rest⟩ := Option.bind_eq_some_iff.mp given
  split at rest
  next => cases rest
  next =>
    obtain rfl := Option.some.inj rest
    have name : EndsComment (argumentChars parameter.camelCaseName) ↔ EndsComment parameter.camelCaseName.toList :=
      endsComment_behind (by decide) (by decide)
    rw [List.append_assoc, endsComment_behind (by decide) (by decide),
      endsComment_ahead (spaced_open description) (by simp), name]

theorem methodComment_open {method : Method} :
    (clientMethod method).placedComment.Open ↔ ∀ parameter ∈ method.parameters,
      (argumentComment? parameter).isSome → ¬ EndsComment parameter.camelCaseName.toList := by
  have texts : (clientMethod method).placedComment.comment.texts = methodComment method := by
    simp [ClientMethod.placedComment, DocComment.texts, clientMethod]
  rw [PlacedComment.Open, texts]
  constructor
  · intro open_ parameter member described ends
    obtain ⟨text, given⟩ := Option.isSome_iff_exists.mp described
    refine open_ text ?_ ((argumentComment_ends given).mpr ends)
    exact .tail _ (List.mem_append_left _ (List.mem_filterMap.mpr ⟨parameter, member, given⟩))
  · intro named text member
    rcases List.mem_cons.mp member with rfl | member
    · split
      next summary _ => exact escapeComment_open summary
      next =>
        have verb : ¬ EndsComment method.verb.text.toList ∧ ¬ ['*'] <:+ method.verb.text.toList := by
          cases method.verb <;> decide
        rw [endsComment_behind verb.1 verb.2]
        exact spaced_open method.path
    rcases List.mem_append.mp member with argument | documentation
    · obtain ⟨parameter, inside, given⟩ := List.mem_filterMap.mp argument
      rw [argumentComment_ends given]
      exact named parameter inside (Option.isSome_of_eq_some given)
    · obtain ⟨url, _, rfl⟩ := Option.map_eq_some_iff.mp (Option.mem_toList.mp documentation)
      rw [endsComment_behind (by decide) (by decide)]
      exact escapeComment_open url

end

end ClientGen.TypeScript

namespace ClientGen
open TypeScript

theorem comments_open_iff (view : View) :
    (∀ placed ∈ (clientModule view).comments, placed.Open) ↔ ¬ EndsComment view.version.toList ∧
      ∀ method ∈ view.methods, ∀ parameter ∈ method.parameters, (argumentComment? parameter).isSome →
        ¬ EndsComment parameter.camelCaseName.toList := by
  constructor
  · intro open_
    refine ⟨titleComment_open.mp (open_ _ (.head _)), fun method member => methodComment_open.mp (open_ _ ?_)⟩
    have given : clientMethod method ∈ (clientModule view).client.methods := List.mem_map_of_mem member
    exact .tail _ (List.mem_append_right _ (List.mem_map_of_mem given))
  · rintro ⟨version, names⟩ placed among
    rcases List.mem_cons.mp among with rfl | among
    · exact titleComment_open.mpr version
    rcases List.mem_append.mp among with declared | commented
    · obtain ⟨declaration, member, within⟩ := List.mem_flatMap.mp declared
      simp only [clientModule, List.mem_append, List.mem_map, List.mem_singleton] at member
      rcases member with ((⟨definition, _, rfl⟩ | ⟨name, _, rfl⟩) | ⟨model, _, rfl⟩) | rfl
      · exact enumDeclaration_open within
      · cases within
      · exact modelDeclaration_open within
      · exact optionsDeclaration_open within
    · obtain ⟨printed, given, rfl⟩ := List.mem_map.mp commented
      obtain ⟨method, member, rfl⟩ := List.mem_map.mp given
      exact methodComment_open.mpr (names method member)

/-- Arguments are named in camel case, so there is no star in the name of one. -/
theorem argument_names_open {document : Document} {options : Options} {view : View}
    (built : build document options = .ok view) {method : Method} (member : method ∈ view.methods)
    {parameter : ViewParameter} (inside : parameter ∈ method.parameters) :
    ¬ EndsComment parameter.camelCaseName.toList := by
  intro ends
  rw [camelCase_of_build built member inside] at ends
  have star : '*' ∈ Text.lowerCamel parameter.name.toList := ends.subset (.head _)
  exact Text.not_isNameChar_star (Text.lowerCamel_isNameChar _ '*' star)

theorem closesOnce_iff_open (view : View) :
    (∀ placed ∈ (clientModule view).comments, ClosesOnce (Lines.text placed.lines)) ↔
      ∀ placed ∈ (clientModule view).comments, placed.Open :=
  forall₂_congr fun placed _ => placed.closesOnce_iff

/-- An escaped text ends no comment. All comments of a module stand in its text, and they close at their end
and not before exactly if there is no end of a comment in the version nor in the name of an argument that is
described. A build gives no such names, so for its views the version alone decides. -/
theorem comments_close_once_iff (view : View) :
    (∀ text, ¬ EndsComment (escapeComment text)) ∧
    (∀ placed ∈ (clientModule view).comments, placed.lines <:+: (clientModule view).lines) ∧
    ((∀ placed ∈ (clientModule view).comments, ClosesOnce (Lines.text placed.lines)) ↔
      ¬ EndsComment view.version.toList ∧ ∀ method ∈ view.methods, ∀ parameter ∈ method.parameters,
        (argumentComment? parameter).isSome → ¬ EndsComment parameter.camelCaseName.toList) ∧
    ∀ document options, build document options = .ok view →
      ((∀ placed ∈ (clientModule view).comments, ClosesOnce (Lines.text placed.lines)) ↔
        ¬ EndsComment view.version.toList) := by
  refine ⟨escapeComment_open, fun placed => ClientModule.comments_printed, ?_, ?_⟩
  · rw [closesOnce_iff_open, comments_open_iff]
  · intro document options built
    rw [closesOnce_iff_open, comments_open_iff]
    exact and_iff_left fun method member parameter inside _ => argument_names_open built member inside

def starredDocument (version : String) : Description where
  info := { title := "Pets */", version }
  paths := [("/pets", { entries := [("get", .mapping [(.string "summary", .string "All */ pets")])] })]

theorem summary_closes_once :
    ∃ view, build (.description (starredDocument "1.0")) {} = .ok view ∧
      view.title = "Pets */" ∧ view.methods.map Method.summary = [some "All */ pets"] ∧
      ∀ placed ∈ (clientModule view).comments, ClosesOnce (Lines.text placed.lines) := by
  have evaluated : (build (.description (starredDocument "1.0")) {}).toOption.map
      (fun view => (view.version, view.title, view.methods.map Method.summary)) =
        some ("1.0", "Pets */", [some "All */ pets"]) := by decide +kernel
  obtain ⟨view, built, facts⟩ := view_of_evaluated evaluated
  simp only [Prod.mk.injEq] at facts
  obtain ⟨version, title, summaries⟩ := facts
  obtain ⟨_, _, _, ofBuild⟩ := comments_close_once_iff view
  refine ⟨view, built, title, summaries, (ofBuild _ _ built).mpr ?_⟩
  rw [version]
  decide

/-- With the end of a comment in its version, a document has the first comment end in the middle. -/
theorem version_closes_comment :
    ¬ ∀ (document : Document) (options : Options) (view : View), build document options = .ok view →
      ∀ placed ∈ (clientModule view).comments, ClosesOnce (Lines.text placed.lines) := by
  intro once
  have evaluated : (build (.description (starredDocument "1 */ alert(1); /*")) {}).toOption.map View.version =
      some "1 */ alert(1); /*" := by decide +kernel
  obtain ⟨view, built, version⟩ := view_of_evaluated evaluated
  have closes := (closesOnce_iff_open view).mp (once _ _ view built)
  have ended := titleComment_open.mp (closes _ (.head _))
  rw [version] at ended
  exact absurd (by decide) ended

end ClientGen
