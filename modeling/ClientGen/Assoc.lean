/-! Association lists with string keys, in the order in which the keys were first set. -/

namespace ClientGen

abbrev Assoc (α : Type) := List (String × α)

namespace Assoc
variable {α : Type}

def get? (key : String) (entries : Assoc α) : Option α := entries.lookup key

/-- A new key goes to the end, a known one keeps its place. -/
def set (key : String) (value : α) : Assoc α → Assoc α
  | [] => [(key, value)]
  | (other, old) :: rest =>
    if other = key then (key, value) :: rest else (other, old) :: set key value rest

def ofList (entries : List (String × α)) : Assoc α :=
  entries.foldl (fun known (key, value) => set key value known) []

def erase (key : String) (entries : Assoc α) : Assoc α :=
  entries.filter fun entry => entry.1 != key

variable {key other : String} {value : α} {entries : Assoc α}

@[simp] theorem get?_nil : get? key ([] : Assoc α) = none := rfl

theorem get?_cons (entry : String × α) (rest : Assoc α) :
    get? key (entry :: rest) = if key = entry.1 then some entry.2 else get? key rest := by
  obtain ⟨name, value⟩ := entry
  by_cases same : key = name
  · subst same
    rw [get?, List.lookup_cons_self, if_pos rfl]
  · rw [get?, List.lookup_cons, beq_eq_false_iff_ne.mpr same, if_neg same]
    rfl

theorem get?_set : get? other (set key value entries) =
    if other = key then some value else get? other entries := by
  induction entries with
  | nil => simp [set, get?_cons]
  | cons entry rest ih =>
    by_cases known : entry.1 = key
    · by_cases same : other = key <;> simp [set, get?_cons, known, same]
    · by_cases same : other = entry.1
      · subst same
        simp [set, get?_cons, known]
      · simp [set, get?_cons, known, same, ih]

/-- Setting a key moves no other one. -/
theorem keys_set : (set key value entries).map Prod.fst =
    if key ∈ entries.map Prod.fst then entries.map Prod.fst
    else entries.map Prod.fst ++ [key] := by
  induction entries with
  | nil => simp [set]
  | cons entry rest ih =>
    by_cases known : entry.1 = key
    · simp [set, known]
    · simp only [set, known, if_false, List.map_cons, ih, List.mem_cons, Ne.symm known, false_or]
      split <;> rfl

theorem get?_erase : get? other (erase key entries) =
    if other = key then none else get? other entries := by
  induction entries with
  | nil => simp [erase]
  | cons entry rest ih =>
    simp only [erase] at ih ⊢
    by_cases same : other = key
    · subst same
      by_cases known : entry.1 = other
      · simp [known, ih]
      · simp [get?_cons, known, ih, Ne.symm known]
    · by_cases known : entry.1 = key <;> simp [get?_cons, known, same, ih]

/-- A key that is there is lost by erasing it. -/
theorem length_erase_lt (found : get? key entries = some value) :
    (erase key entries).length < entries.length := by
  induction entries with
  | nil => simp at found
  | cons entry rest ih =>
    by_cases known : entry.1 = key
    · have bound := List.length_filter_le (fun entry : String × α => entry.1 != key) rest
      simp [erase, known]
      omega
    · rw [get?_cons, if_neg (Ne.symm known)] at found
      have bound := ih found
      simp [erase, known] at bound ⊢
      omega

theorem lookup_eq_none (absent : key ∉ entries.map Prod.fst) : entries.lookup key = none := by
  rw [List.lookup_eq_none_iff]
  intro entry among
  simpa using fun same : key = entry.1 => absent (same ▸ List.mem_map_of_mem (f := Prod.fst) among)

theorem mem_of_lookup (found : entries.lookup key = some value) : (key, value) ∈ entries := by
  obtain ⟨before, after, rfl, _⟩ := List.lookup_eq_some_iff.mp found
  simp

theorem lookup_of_mem (distinct : (entries.map Prod.fst).Nodup) (among : (key, value) ∈ entries) :
    entries.lookup key = some value := by
  obtain ⟨before, after, rfl⟩ := List.append_of_mem among
  rw [List.map_append, List.map_cons] at distinct
  refine List.lookup_eq_some_iff.mpr ⟨before, after, rfl, fun other earlier => ?_⟩
  have different := (List.nodup_append.mp distinct).2.2 _ (List.mem_map_of_mem earlier) _ List.mem_cons_self
  simpa using different.symm

theorem set_new (new : key ∉ entries.map Prod.fst) : set key value entries = entries ++ [(key, value)] := by
  induction entries with
  | nil => rfl
  | cons entry rest ih =>
    rw [List.map_cons, List.mem_cons, not_or] at new
    rw [set, if_neg (Ne.symm new.1), ih new.2, List.cons_append]

/-- Entries that have different keys stay as they are. -/
theorem ofList_of_nodup (distinct : (entries.map Prod.fst).Nodup) : ofList entries = entries := by
  suffices appended : ∀ known : Assoc α, ((known ++ entries).map Prod.fst).Nodup →
      entries.foldl (fun known (key, value) => set key value known) known = known ++ entries from
    appended [] distinct
  clear distinct
  induction entries with
  | nil => simp
  | cons entry rest ih =>
    intro known distinct
    rw [List.map_append, List.map_cons] at distinct
    have new : entry.1 ∉ known.map Prod.fst := fun earlier =>
      (List.nodup_append.mp distinct).2.2 _ earlier _ List.mem_cons_self rfl
    have put : known ++ entry :: rest = set entry.1 entry.2 known ++ rest := by
      rw [set_new new, List.append_assoc]
      rfl
    rw [List.foldl_cons, put]
    exact ih _ (by rw [← put, List.map_append, List.map_cons]; exact distinct)

end Assoc

end ClientGen
