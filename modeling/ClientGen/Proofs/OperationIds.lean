import ClientGen.Proofs.ModelEntries

/-! Operation ids with tags behind them. The last tag binds the operation to a model, and those before it are
dropped. The name of the operation comes from what is left, as if there had been no tag: its pieces are joined
in another way than they were, but all that joins them separates words alike. -/

namespace ClientGen.Text

theorem splitWhere_afterLast (isSeparator : Char → Bool) (text : List Char) :
    ∃ before, splitWhere isSeparator text = before ++ [afterLast isSeparator text] := by
  have whole : ∀ c ∈ afterLast isSeparator text, isSeparator c = false := by
    intro c member
    have inside := List.mem_takeWhile_imp (List.mem_reverse.mp member)
    simpa using inside
  have single := List.splitOnP_eq_singleton whole
  have same : text = (text.reverse.dropWhile fun c => !isSeparator c).reverse ++ afterLast isSeparator text := by
    rw [afterLast, ← List.reverse_append, List.takeWhile_append_dropWhile, List.reverse_reverse]
  rw [splitWhere_eq_splitOnP]
  cases front : text.reverse.dropWhile fun c => !isSeparator c with
  | nil =>
    rw [front, List.reverse_nil, List.nil_append] at same
    exact ⟨[], by rw [List.nil_append, ← single, ← same]⟩
  | cons c front =>
    have separates : isSeparator c = true := by
      simpa [front] using List.head?_dropWhile_not (fun c => !isSeparator c) text.reverse
    rw [front, List.reverse_cons, List.append_assoc, List.singleton_append] at same
    exact ⟨_, by rw [← single, ← List.splitOnP_append_cons _ _ separates, ← same]⟩

theorem splitWhere_of_not_mem {separator : Char} {text : List Char} (absent : separator ∉ text) :
    splitWhere (· = separator) text = [text] :=
  splitWhere_whole fun _ member => decide_eq_false fun same => absent (same ▸ member)

/-- Between the pieces, the separators can be replaced by others. -/
theorem intercalate_splitWhere (separator replacement : Char) (text : List Char) :
    [replacement].intercalate (splitWhere (· = separator) text) =
      text.map fun c => if c = separator then replacement else c := by
  rw [splitWhere_eq_splitOnP]
  induction text with
  | nil => rfl
  | cons c rest ih =>
    rw [List.splitOnP_cons_eq_if_modifyHead, List.map_cons, ← ih]
    cases split : rest.splitOnP (decide <| · = separator) with
    | nil => exact absurd split (List.splitOnP_ne_nil _ rest)
    | cons piece pieces =>
      by_cases separates : c = separator
      · simp [separates, List.intercalate_cons_cons]
      · cases pieces <;> simp [separates, List.intercalate_cons_cons]

theorem prefix_of_prefix_append {pattern front rest : List Char} {c : Char}
    (starts : pattern <+: front ++ c :: rest) (absent : c ∉ pattern) : pattern <+: front := by
  rcases List.prefix_or_prefix_of_prefix starts (List.prefix_append front (c :: rest)) with within | ⟨more, same⟩
  · exact within
  rw [← same, List.prefix_append_right_inj] at starts
  cases more with
  | nil => simp [← same]
  | cons d more =>
    obtain ⟨rfl, _⟩ := List.cons_prefix_cons.mp starts
    exact absurd (same ▸ by simp) absent

end ClientGen.Text

namespace ClientGen.Naming
open Text

def tagged (base : String) (tags : List String) : String :=
  "-".intercalate (base :: tags)

/-- A piece of an operation id that can stand for a model. -/
def IsModelTag (piece : String) : Prop :=
  '-' ∉ piece.toList ∧ marker.toList <:+ piece.toList

instance (piece : String) : Decidable (IsModelTag piece) :=
  inferInstanceAs (Decidable (_ ∧ _))

theorem dropMarked_append {fillers kept : List (List Char)} (marked : ∀ filler ∈ fillers, marker.toList <:+ filler)
    (nonempty : kept ≠ []) : dropMarked (fillers ++ kept) = dropMarked kept := by
  induction fillers with
  | nil => rfl
  | cons filler fillers ih =>
    obtain ⟨first, rest⟩ := List.forall_mem_cons.mp marked
    obtain ⟨next, others, same⟩ := List.exists_cons_of_ne_nil (List.append_ne_nil_of_right_ne_nil fillers nonempty)
    rw [List.cons_append, same, dropMarked, if_pos (List.isSuffixOf_iff_suffix.mpr first), ← same, ih rest]
    nofun

theorem toList_tagged (base tag : String) (tags : List String) :
    (tagged base (tag :: tags)).toList = base.toList ++ '-' :: (tagged tag tags).toList := by
  simp [tagged]

theorem splitWhere_tagged (base : String) {tags : List String} (whole : ∀ tag ∈ tags, '-' ∉ tag.toList) :
    splitWhere (· = '-') (tagged base tags).toList =
      splitWhere (· = '-') base.toList ++ tags.map String.toList := by
  induction tags generalizing base with
  | nil => simp [tagged]
  | cons tag tags ih =>
    obtain ⟨first, rest⟩ := List.forall_mem_cons.mp whole
    have later := ih tag rest
    rw [splitWhere_of_not_mem first] at later
    rw [toList_tagged, splitWhere_append rfl, later]
    rfl

theorem base_prefix_tagged (base : String) (tags : List String) :
    base.toList <+: (tagged base tags).toList := by
  cases tags with
  | nil => simp [tagged]
  | cons tag tags => exact ⟨_, (toList_tagged base tag tags).symm⟩

/-- An id is marked by its tags, unless it starts with the marker. -/
theorem hasMarker_tagged {base : String} {tags : List String} (nonempty : tags ≠ [])
    (marked : ∀ tag ∈ tags, IsModelTag tag) (unmarked : ¬ marker.toList <+: base.toList) :
    hasMarker (tagged base tags) = true := by
  obtain ⟨tag, tags, rfl⟩ := List.exists_cons_of_ne_nil nonempty
  refine occursInside_iff.mpr ⟨?_, ?_⟩
  · obtain ⟨⟨_, front, last⟩, _⟩ := List.forall_mem_cons.mp marked
    obtain ⟨rest, whole⟩ := base_prefix_tagged tag tags
    refine ⟨base.toList ++ '-' :: front, rest, by simp, ?_⟩
    rw [toList_tagged, ← whole, ← last]
    simp
  · rw [toList_tagged]
    exact fun starts => unmarked (prefix_of_prefix_append starts (by decide))

variable {base model : String} {fillers : List String}

theorem dropMarked_base
    (apart : '-' ∉ base.toList ∨ ¬ marker.toList <:+ afterLast (· = '-') base.toList) :
    dropMarked (splitWhere (· = '-') base.toList).reverse = (splitWhere (· = '-') base.toList).reverse := by
  rcases apart with absent | unmarked
  · rw [splitWhere_of_not_mem absent]
    rfl
  · obtain ⟨before, split⟩ := splitWhere_afterLast (· = '-') base.toList
    rw [split, List.reverse_append, List.reverse_singleton, List.singleton_append]
    cases before.reverse with
    | nil => rfl
    | cons other others =>
      rw [dropMarked, if_neg (List.isSuffixOf_iff_suffix.not.mpr unmarked)]
      nofun

/-- The base of an id, with its pieces joined as those of a split id are. -/
def dotted (base : String) : String :=
  String.ofList (base.toList.map fun c => if c = '-' then '.' else c)

theorem camelName_dotted (base : String) : camelName (dotted base) = camelName base := by
  rw [camelName, camelName, dotted, String.toList_ofList, List.map_map]
  congr 2
  refine List.map_congr_left fun c _ => ?_
  by_cases dash : c = '-' <;> simp [dash]

theorem splitOperationId_tagged (unmarked : ¬ marker.toList <+: base.toList)
    (apart : '-' ∉ base.toList ∨ ¬ marker.toList <:+ afterLast (· = '-') base.toList)
    (tags : ∀ tag ∈ fillers ++ [model], IsModelTag tag) :
    splitOperationId (tagged base (fillers ++ [model])) = (dotted base, some ⟨model, modelRawName model⟩) := by
  have marked := hasMarker_tagged (by simp) tags unmarked
  have split := splitWhere_tagged base fun tag among => (tags tag among).1
  have fillers_marked : ∀ filler ∈ (fillers.map String.toList).reverse, marker.toList <:+ filler := by
    intro filler among
    obtain ⟨name, member, rfl⟩ := List.mem_map.mp (List.mem_reverse.mp among)
    exact (tags name (List.mem_append_left _ member)).2
  have pieces : (splitWhere (· = '-') base.toList).reverse ≠ [] := by
    simp [splitWhere_eq_splitOnP]
  obtain ⟨other, others, kept⟩ := List.exists_cons_of_ne_nil
    (List.append_ne_nil_of_right_ne_nil (fillers.map String.toList).reverse pieces)
  -- From the end, there are the model, the fillers, and then the pieces of the id, of which none is dropped.
  have dropped : (dropMarked (other :: others)).reverse = splitWhere (· = '-') base.toList := by
    rw [← kept, dropMarked_append fillers_marked pieces, dropMarked_base apart, List.reverse_reverse]
  have order : (splitWhere (· = '-') (tagged base (fillers ++ [model])).toList).reverse =
      model.toList :: other :: others := by
    rw [split, ← kept]
    simp
  simp only [splitOperationId, if_pos marked, order, dropped, intercalate_splitWhere, String.ofList_toList]
  rfl

end ClientGen.Naming

namespace ClientGen
open Naming

/-- The tags behind an operation id, the last of them the model, leave the name that the id would give,
whatever pieces and markers the id itself has. So an operation with an id that has no marker of its own asks for
the same name with tags as without. -/
theorem tagged_id_keeps_name {base model : String} {fillers : List String}
    (unmarked : ¬ marker.toList <+: base.toList)
    (apart : '-' ∉ base.toList ∨ ¬ marker.toList <:+ Text.afterLast (· = '-') base.toList)
    (tags : ∀ tag ∈ fillers ++ [model], IsModelTag tag) :
    (∃ id, splitOperationId (tagged base (fillers ++ [model])) = (id, some ⟨model, modelRawName model⟩) ∧
      camelName id = camelName base) ∧
    ∀ verb path (operation : Operation),
      let bound := { operation with operationId := some (tagged base (fillers ++ [model])) }
      Description.nameAndModel verb path bound =
        (if (camelName base).isEmpty then routeName verb.text path else camelName base,
          some ⟨model, modelRawName model⟩) ∧
      (hasMarker base = false → (Description.nameAndModel verb path bound).1 =
        (Description.nameAndModel verb path { operation with operationId := some base }).1) := by
  have split := splitOperationId_tagged unmarked apart tags
  have named : ∀ verb path (operation : Operation),
      Description.nameAndModel verb path
          { operation with operationId := some (tagged base (fillers ++ [model])) } =
        (if (camelName base).isEmpty then routeName verb.text path else camelName base,
          some ⟨model, modelRawName model⟩) := by
    intro verb path operation
    simp only [Description.nameAndModel, split, camelName_dotted]
  refine ⟨⟨_, split, camelName_dotted base⟩, ?_⟩
  intro verb path operation bound
  refine ⟨named verb path operation, ?_⟩
  intro bare
  rw [named verb path operation]
  simp only [Description.nameAndModel, splitOperationId_unmarked bare]

/-- The id has pieces and a marker of its own, and one of the fillers is nothing but the marker. -/
theorem list_items_keeps_name :
    let base := "list.items-OrderResponseModel-by\x7bday\x7d"
    let fillers := ["ItemResponseModel", "ResponseModel"]
    ¬ marker.toList <+: base.toList ∧
    ('-' ∉ base.toList ∨ ¬ marker.toList <:+ Text.afterLast (· = '-') base.toList) ∧
    (∀ tag ∈ fillers ++ ["LineResponseModel"], IsModelTag tag) ∧
    ∃ id, splitOperationId
          "list.items-OrderResponseModel-by\x7bday\x7d-ItemResponseModel-ResponseModel-LineResponseModel" =
        (id, some ⟨"LineResponseModel", "Line"⟩) ∧
      camelName id = "listItemsOrderResponseModelByDay" := by
  intro base fillers
  have unmarked : ¬ marker.toList <+: base.toList := by decide +kernel
  have apart : '-' ∉ base.toList ∨ ¬ marker.toList <:+ Text.afterLast (· = '-') base.toList := by decide +kernel
  have tags : ∀ tag ∈ fillers ++ ["LineResponseModel"], IsModelTag tag := by decide +kernel
  obtain ⟨⟨id, split, named⟩, _⟩ := tagged_id_keeps_name unmarked apart tags
  have raw : modelRawName "LineResponseModel" = "Line" := by decide +kernel
  refine ⟨unmarked, apart, tags, id, raw ▸ split, named.trans ?_⟩
  decide +kernel

end ClientGen
