/-!
# Dictionaries in the order of their keys

A dictionary holds one value per key and lists its entries by increasing key, code
point by code point.  The order is part of the type, so that two dictionaries with
the same look-ups are equal and have one written form.
-/

namespace SignIn

/-- A finite map from texts, sorted by key. -/
structure Dictionary (α : Type) where
  toList : List (String × α)
  sorted : toList.Pairwise (fun first second => first.1 < second.1)

namespace Dictionary

variable {α : Type}

@[ext]
theorem ext {first second : Dictionary α} (lists : first.toList = second.toList) :
    first = second := by
  cases first
  cases second
  simpa using lists

instance [DecidableEq α] : DecidableEq (Dictionary α) := fun first second =>
  decidable_of_iff (first.toList = second.toList) ⟨ext, fun same => same ▸ rfl⟩

instance [Repr α] : Repr (Dictionary α) where
  reprPrec dictionary := reprPrec dictionary.toList

def empty : Dictionary α :=
  ⟨[], .nil⟩

instance : Inhabited (Dictionary α) :=
  ⟨empty⟩

/-- A sorted list with a value put under a key. -/
def insertSorted (key : String) (value : α) : List (String × α) → List (String × α)
  | [] => [(key, value)]
  | entry :: entries =>
    if key < entry.1 then (key, value) :: entry :: entries
    else if key = entry.1 then (key, value) :: entries
    else entry :: insertSorted key value entries

private theorem mem_insertSorted {key : String} {value : α} {entry : String × α}
    {entries : List (String × α)} (member : entry ∈ insertSorted key value entries) :
    entry = (key, value) ∨ entry ∈ entries := by
  induction entries with
  | nil => simpa [insertSorted] using member
  | cons head tail ih =>
    simp only [insertSorted] at member
    split at member
    · simpa using member
    · split at member
      · rcases List.mem_cons.mp member with same | later
        · exact .inl same
        · exact .inr (List.mem_cons_of_mem _ later)
      · rcases List.mem_cons.mp member with same | later
        · exact .inr (by simp [same])
        · rcases ih later with same | old
          · exact .inl same
          · exact .inr (List.mem_cons_of_mem _ old)

private theorem pairwise_insertSorted {key : String} {value : α}
    {entries : List (String × α)}
    (sorted : entries.Pairwise (fun first second => first.1 < second.1)) :
    (insertSorted key value entries).Pairwise
      (fun first second => first.1 < second.1) := by
  induction entries with
  | nil => simp [insertSorted]
  | cons head tail ih =>
    obtain ⟨headLess, tailSorted⟩ := List.pairwise_cons.mp sorted
    simp only [insertSorted]
    split
    · rename_i less
      refine List.pairwise_cons.mpr ⟨?_, sorted⟩
      intro entry member
      rcases List.mem_cons.mp member with rfl | later
      · exact less
      · exact String.lt_trans less (headLess entry later)
    · rename_i notLess
      split
      · rename_i same
        refine List.pairwise_cons.mpr ⟨?_, tailSorted⟩
        intro entry member
        simpa [same] using headLess entry member
      · rename_i different
        refine List.pairwise_cons.mpr ⟨?_, ih tailSorted⟩
        intro entry member
        rcases mem_insertSorted member with rfl | old
        · exact Decidable.byContradiction fun notGreater =>
            different (String.le_antisymm
              (String.not_lt.mp notGreater) (String.not_lt.mp notLess))
        · exact headLess entry old

/-- The dictionary with a value put under a key, in place of any earlier one. -/
def insert (dictionary : Dictionary α) (key : String) (value : α) : Dictionary α :=
  ⟨insertSorted key value dictionary.toList, pairwise_insertSorted dictionary.sorted⟩

def erase (dictionary : Dictionary α) (key : String) : Dictionary α :=
  ⟨dictionary.toList.filter (·.1 != key), dictionary.sorted.filter _⟩

def get? (dictionary : Dictionary α) (key : String) : Option α :=
  (dictionary.toList.find? (·.1 == key)).map Prod.snd

/-- The dictionary of a list of entries; of several values for a key the last
stays. -/
def ofList (entries : List (String × α)) : Dictionary α :=
  entries.foldl (fun dictionary entry => dictionary.insert entry.1 entry.2) empty

end Dictionary

end SignIn
