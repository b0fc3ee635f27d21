import SignIn.Dictionary

/-!
# Looking up what was put in a dictionary

A dictionary gives back what was last put under a key and leaves every other key alone.
Keys that come in increasing order are put at the end, so that a dictionary is built
again from its own list of entries.  Look-ups tell dictionaries apart, so that it does not
matter in which order values are put under different keys.
-/

namespace SignIn

namespace Dictionary

variable {α : Type}

@[simp]
theorem get?_empty (key : String) : (empty : Dictionary α).get? key = none :=
  rfl

private theorem find?_insertSorted (key other : String) (value : α)
    (entries : List (String × α)) :
    (insertSorted key value entries).find? (·.1 == other) =
      if other = key then some (key, value) else entries.find? (·.1 == other) := by
  induction entries with
  | nil =>
      by_cases same : other = key
      · simp [insertSorted, same]
      · simp [insertSorted, same, Ne.symm same]
  | cons entry entries ih =>
      unfold insertSorted
      by_cases same : other = key
      · subst same
        rw [if_pos rfl] at ih ⊢
        split
        · simp
        · split
          · simp
          · rename_i different
            rw [List.find?_cons_of_neg (by simpa using Ne.symm different), ih]
      · rw [if_neg same] at ih ⊢
        split
        · rw [List.find?_cons_of_neg (by simpa using Ne.symm same)]
        · split
          · rename_i found
            have notFirst : entry.1 ≠ other := found ▸ Ne.symm same
            rw [List.find?_cons_of_neg (by simpa using Ne.symm same),
              List.find?_cons_of_neg (by simpa using notFirst)]
          · rw [List.find?_cons, List.find?_cons, ih]

@[simp]
theorem get?_insert_same (dictionary : Dictionary α) (key : String) (value : α) :
    (dictionary.insert key value).get? key = some value := by
  simp [get?, insert, find?_insertSorted]

@[simp]
theorem get?_insert_of_ne (dictionary : Dictionary α) {key other : String} (value : α)
    (different : other ≠ key) :
    (dictionary.insert key value).get? other = dictionary.get? other := by
  simp [get?, insert, find?_insertSorted, different]

@[simp]
theorem get?_erase_same (dictionary : Dictionary α) (key : String) :
    (dictionary.erase key).get? key = none := by
  simp [get?, erase, List.find?_filter]

@[simp]
theorem get?_erase_of_ne (dictionary : Dictionary α) {key other : String}
    (different : other ≠ key) :
    (dictionary.erase key).get? other = dictionary.get? other := by
  unfold get? erase
  rw [List.find?_filter]
  congr 2
  ext entry
  by_cases found : entry.1 = other
  · simp [found, different]
  · simp [found]

theorem toList_insert_of_forall_lt {dictionary : Dictionary α} {key : String} (value : α)
    (above : ∀ entry ∈ dictionary.toList, entry.1 < key) :
    (dictionary.insert key value).toList = dictionary.toList ++ [(key, value)] := by
  obtain ⟨entries, sorted⟩ := dictionary
  show insertSorted key value entries = entries ++ [(key, value)]
  replace above : ∀ entry ∈ entries, entry.1 < key := above
  clear sorted
  induction entries with
  | nil => rfl
  | cons entry entries ih =>
      have first : entry.1 < key := above entry (by simp)
      have notBefore : ¬ key < entry.1 := String.lt_asymm first
      have different : key ≠ entry.1 := fun same => String.lt_irrefl key (same ▸ first)
      rw [insertSorted, if_neg notBefore, if_neg different,
        ih fun other member => above other (List.mem_cons_of_mem entry member)]
      rfl

private theorem toList_foldl_insert {dictionary : Dictionary α}
    {entries : List (String × α)}
    (sorted : (dictionary.toList ++ entries).Pairwise
      fun first second => first.1 < second.1) :
    (entries.foldl (fun gathered entry => gathered.insert entry.1 entry.2)
      dictionary).toList = dictionary.toList ++ entries := by
  induction entries generalizing dictionary with
  | nil => simp
  | cons entry entries ih =>
      have above : ∀ earlier ∈ dictionary.toList, earlier.1 < entry.1 := fun earlier member =>
        (List.pairwise_append.mp sorted).2.2 earlier member entry (by simp)
      have inserted := toList_insert_of_forall_lt entry.2 above
      have appended : (dictionary.insert entry.1 entry.2).toList ++ entries =
          dictionary.toList ++ entry :: entries := by
        rw [inserted]
        simp
      rw [List.foldl_cons, ih (by rw [appended]; exact sorted), appended]

@[simp]
theorem ofList_toList (dictionary : Dictionary α) : ofList dictionary.toList = dictionary := by
  ext1
  exact toList_foldl_insert (by simpa [empty] using dictionary.sorted)

private theorem find?_of_forall_lt {key : String} {entries : List (String × α)}
    (above : ∀ entry ∈ entries, key < entry.1) : entries.find? (·.1 == key) = none := by
  rw [List.find?_eq_none]
  intro entry member same
  exact String.lt_irrefl key (beq_iff_eq.mp same ▸ above entry member)

private theorem eq_of_find? {first second : List (String × α)}
    (sortedFirst : first.Pairwise fun earlier later => earlier.1 < later.1)
    (sortedSecond : second.Pairwise fun earlier later => earlier.1 < later.1)
    (same : ∀ key, (first.find? (·.1 == key)).map Prod.snd =
      (second.find? (·.1 == key)).map Prod.snd) : first = second := by
  induction first generalizing second with
  | nil =>
      cases second with
      | nil => rfl
      | cons other others => simpa using same other.1
  | cons entry entries ih =>
      cases second with
      | nil => simpa using same entry.1
      | cons other others =>
          obtain ⟨aboveEntry, sortedEntries⟩ := List.pairwise_cons.mp sortedFirst
          obtain ⟨aboveOther, sortedOthers⟩ := List.pairwise_cons.mp sortedSecond
          -- The smaller of two different first keys would be found in one list only.
          have notBelow : ¬ entry.1 < other.1 := by
            intro below
            have absent : (other :: others).find? (·.1 == entry.1) = none :=
              find?_of_forall_lt fun found member => by
                rcases List.mem_cons.mp member with rfl | later
                · exact below
                · exact String.lt_trans below (aboveOther found later)
            simpa [absent] using same entry.1
          have notAbove : ¬ other.1 < entry.1 := by
            intro below
            have absent : (entry :: entries).find? (·.1 == other.1) = none :=
              find?_of_forall_lt fun found member => by
                rcases List.mem_cons.mp member with rfl | later
                · exact below
                · exact String.lt_trans below (aboveEntry found later)
            simpa [absent] using same other.1
          have sameKey : entry.1 = other.1 :=
            String.le_antisymm (String.not_lt.mp notAbove) (String.not_lt.mp notBelow)
          have sameValue : entry.2 = other.2 := by simpa [sameKey] using same entry.1
          have rest : entries = others := by
            refine ih sortedEntries sortedOthers fun key => ?_
            by_cases here : entry.1 = key
            · rw [find?_of_forall_lt (here ▸ aboveEntry),
                find?_of_forall_lt (here ▸ sameKey ▸ aboveOther)]
            · have there : other.1 ≠ key := sameKey ▸ here
              simpa [here, there] using same key
          rw [rest, Prod.ext sameKey sameValue]

/-- Dictionaries with the same look-ups are equal. -/
theorem eq_of_forall_get? {first second : Dictionary α}
    (same : ∀ key, first.get? key = second.get? key) : first = second :=
  ext (eq_of_find? first.sorted second.sorted same)

theorem insert_comm (dictionary : Dictionary α) {key other : String} (different : key ≠ other)
    (value later : α) :
    (dictionary.insert key value).insert other later =
      (dictionary.insert other later).insert key value := by
  apply eq_of_forall_get?
  intro found
  by_cases first : found = key
  · have notOther : found ≠ other := first ▸ different
    rw [get?_insert_of_ne _ _ notOther, first, get?_insert_same, get?_insert_same]
  · rw [get?_insert_of_ne _ _ first]
    by_cases second : found = other
    · rw [second, get?_insert_same, get?_insert_same]
    · rw [get?_insert_of_ne _ _ second, get?_insert_of_ne _ _ second, get?_insert_of_ne _ _ first]

end Dictionary

end SignIn
