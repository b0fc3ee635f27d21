import SignIn.Proofs.Json.Judging
import SignIn.Proofs.Json.Skipping

/-!
# What lists, dictionaries and records make of their parts

A list is taken if all its items are, and an object of values of one type if all of these are and
every name has a meaning.  A record is an object that fills a draft member by member: a member for
a field that is not filled yet is taken by the field, and one for no field is passed over, whatever
its value is.  A record may also be a list that fills its fields in their order.
-/

namespace SignIn

namespace Json

open Utf8 Json.Tree

section Items

variable {α : Type} {reader : Reader α}

theorem readItems_refused {first : Bool} {octets before : Octets} {fault : Fault}
    (scanned : scanItem first octets = .ok (true, before))
    (failed : reader.run before = .error fault) :
    readItems reader first octets = .error fault := by
  rw [readItems]
  split
  · simp_all
  · simp_all
  · rename_i scanned'
    rw [scanned] at scanned'
    obtain rfl : before = _ := by simpa using scanned'
    split <;> simp_all

theorem readItems_later_refused {first : Bool} {octets before after : Octets} {item : α}
    {fault : Fault} (scanned : scanItem first octets = .ok (true, before))
    (read : reader.run before = .ok (item, after))
    (failed : readItems reader false after = .error fault) :
    readItems reader first octets = .error fault := by
  rw [readItems]
  split
  · simp_all
  · simp_all
  · rename_i scanned'
    rw [scanned] at scanned'
    obtain rfl : before = _ := by simpa using scanned'
    split
    · simp_all
    · rename_i read'
      rw [read] at read'
      obtain ⟨rfl, rfl⟩ : item = _ ∧ after = _ := by simpa using read'
      rw [failed]

theorem scanItem_item {tree : Tree} {first : Bool} {lead form : Octets} (leads : Leads first lead)
    (spells : tree.Spells form) (rest : Octets) :
    scanItem first (lead ++ (form ++ rest)) = .ok (true, form ++ rest) := by
  obtain ⟨octet, more, rfl, opens⟩ := spells.opens
  obtain ⟨visible, notEnd, _⟩ := opens.visible
  exact scanItem_lead leads visible notEnd

/-- The items of a list are all taken, or one of them is declined. -/
theorem readItems_judged (judges : ∀ tree, reader.Judges tree) (items : List Tree) :
    (∃ values, ∀ {first octets} (rest : Octets), SpellsItems items first octets →
        readItems reader first (octets ++ rest) = .ok (values, rest)) ∨
      ∀ {first octets} (rest : Octets), SpellsItems items first octets →
        ∃ fault, readItems reader first (octets ++ rest) = .error fault := by
  induction items with
  | nil =>
      refine .inl ⟨[], fun {first octets} rest spells => ?_⟩
      obtain ⟨blanks, blank, rfl⟩ := spells
      rw [List.append_assoc]
      exact readItems_end (scanItem_close blank)
  | cons item items ih =>
      rcases judges item with ⟨value, takes⟩ | declines
      · rcases ih with ⟨values, taken⟩ | declined
        · refine .inl ⟨value :: values, fun {first octets} rest spells => ?_⟩
          obtain ⟨lead, form, later, leads, written, others, rfl⟩ := spells
          rw [List.append_assoc, List.append_assoc]
          exact readItems_item (scanItem_item leads written _)
            (takes.bare written (ends_items others rest)) (taken rest others)
        · refine .inr fun {first octets} rest spells => ?_
          obtain ⟨lead, form, later, leads, written, others, rfl⟩ := spells
          obtain ⟨fault, failed⟩ := declined rest others
          rw [List.append_assoc, List.append_assoc]
          exact ⟨fault, readItems_later_refused (scanItem_item leads written _)
            (takes.bare written (ends_items others rest)) failed⟩
      · refine .inr fun {first octets} rest spells => ?_
        obtain ⟨lead, form, later, leads, written, others, rfl⟩ := spells
        obtain ⟨fault, failed⟩ := declines.bare written (ends_items others rest)
        rw [List.append_assoc, List.append_assoc]
        exact ⟨fault, readItems_refused (scanItem_item leads written _) failed⟩

theorem Reader.run_list {blanks : Octets} (blank : Blank blanks) (within rest : Octets) :
    (Reader.list reader).run (blanks ++ (0x5B :: within ++ rest)) =
      readItems reader true (within ++ rest) := by
  show readBracketed .sequence 0x5B (readItems reader true) _ = _
  rw [List.cons_append, readBracketed, skipBlanks_blank_append blank rfl]
  rfl

theorem Reader.judges_list (judges : ∀ tree, reader.Judges tree) (tree : Tree) :
    (Reader.list reader).Judges tree := by
  have other {tree : Tree} (notList : ¬ tree.Opens 0x5B) : (Reader.list reader).Judges tree := by
    refine .inr (Reader.declines_of_opens fun {document rest first} opens found => ?_)
    refine ⟨mismatch .sequence first rest, ?_⟩
    show readBracketed .sequence 0x5B (readItems reader true) document = _
    simp [readBracketed, found, opens.ne notList]
  cases tree with
  | list items =>
      rcases readItems_judged judges items with ⟨values, taken⟩ | declined
      · refine .inl ⟨values, fun octets blanks rest spells blank _ => ?_⟩
        obtain ⟨within, rfl, written⟩ := spells
        rw [Reader.run_list blank]
        exact taken rest written
      · refine .inr fun octets blanks rest spells blank _ => ?_
        obtain ⟨within, rfl, written⟩ := spells
        rw [Reader.run_list blank]
        exact declined rest written
  | _ => exact other (by simp [Tree.Opens, isDigit])

end Items

section Entries

variable {α : Type} {reader : Reader α}

/-- Members put into a dictionary one after the other. -/
inductive Enters (reader : Reader α) :
    Dictionary α → List Member → Dictionary α → Prop where
  | done (entries : Dictionary α) : Enters reader entries [] entries
  | entry {entries found : Dictionary α} {name : List Piece} {text : String} {tree : Tree}
      {value : α} {members : List Member} (spells : text? name = some text)
      (takes : reader.Takes tree value)
      (later : Enters reader (entries.insert text value) members found) :
      Enters reader entries ((name, tree) :: members) found

theorem readEntries_enters {entries found : Dictionary α} {members : List Member}
    (enters : Enters reader entries members found) {first : Bool} {octets : Octets}
    (spells : SpellsMembers members first octets) (rest : Octets) :
    readEntries reader first entries (octets ++ rest) = .ok (found, rest) := by
  induction enters generalizing first octets with
  | done entries =>
      obtain ⟨blanks, blank, rfl⟩ := spells
      rw [List.append_assoc]
      exact readEntries_end (scanName_blank_close blank)
  | entry named takes _ ih =>
      obtain ⟨lead, before, behind, form, later, leads, blankBefore, blankBehind, written, others,
        rfl⟩ := spells
      rw [members_append, readEntries_entry (scanName_named leads named)
        (scanColon_blank blankBefore) (takes written blankBehind (ends_members others rest))]
      exact ih others

theorem readEntries_refused {first : Bool} {entries : Dictionary α}
    {octets behindName behindColon : Octets} {name : String} {fault : Fault}
    (scanned : scanName first octets = .ok (some name, behindName))
    (coloned : scanColon behindName = .ok behindColon)
    (refused : reader.run behindColon = .error fault) :
    readEntries reader first entries octets = .error fault := by
  rw [readEntries]
  split
  · simp_all
  · simp_all
  · rename_i scanned'
    rw [scanned] at scanned'
    obtain ⟨rfl, rfl⟩ : name = _ ∧ behindName = _ := by simpa using scanned'
    split
    · simp_all
    · rename_i coloned'
      rw [coloned] at coloned'
      obtain rfl : behindColon = _ := by simpa using coloned'
      split <;> simp_all

theorem readEntries_nameless {first : Bool} {entries : Dictionary α} {octets : Octets}
    {fault : Fault} (failed : scanName first octets = .error fault) :
    readEntries reader first entries octets = .error fault := by
  rw [readEntries]
  split <;> simp_all

/-- Members are all put into the dictionary, or one of them is not. -/
theorem enters_or_declines (judges : ∀ tree, reader.Judges tree)
    (members : List Member) (entries : Dictionary α) :
    (∃ found, Enters reader entries members found) ∨
      ∀ {first octets} (rest : Octets), SpellsMembers members first octets →
        ∃ fault, readEntries reader first entries (octets ++ rest) = .error fault := by
  induction members generalizing entries with
  | nil => exact .inl ⟨entries, .done entries⟩
  | cons member members ih =>
      obtain ⟨name, tree⟩ := member
      cases named : text? name with
      | none =>
          refine .inr fun {first octets} rest spells => ?_
          obtain ⟨lead, before, behind, form, later, leads, _, _, _, _, rfl⟩ := spells
          rw [members_append]
          obtain ⟨fault, failed⟩ := scanName_nameless leads named
          exact ⟨fault, readEntries_nameless failed⟩
      | some text =>
          rcases judges tree with ⟨value, takes⟩ | declines
          · rcases ih (entries.insert text value) with ⟨found, enters⟩ | declined
            · exact .inl ⟨found, .entry named takes enters⟩
            · refine .inr fun {first octets} rest spells => ?_
              obtain ⟨lead, before, behind, form, later, leads, blankBefore, blankBehind, written,
                others, rfl⟩ := spells
              rw [members_append, readEntries_entry (scanName_named leads named)
                (scanColon_blank blankBefore)
                (takes written blankBehind (ends_members others rest))]
              exact declined rest others
          · refine .inr fun {first octets} rest spells => ?_
            obtain ⟨lead, before, behind, form, later, leads, blankBefore, blankBehind, written,
              others, rfl⟩ := spells
            obtain ⟨fault, failed⟩ := declines written blankBehind (ends_members others rest)
            rw [members_append]
            exact ⟨fault, readEntries_refused (scanName_named leads named)
              (scanColon_blank blankBefore) failed⟩

theorem Reader.run_dictionary {blanks : Octets} (blank : Blank blanks) (within rest : Octets) :
    (Reader.dictionary reader).run (blanks ++ (0x7B :: within ++ rest)) =
      readEntries reader true .empty (within ++ rest) := by
  show readBracketed .map 0x7B (readEntries reader true .empty) _ = _
  rw [List.cons_append, readBracketed, skipBlanks_blank_append blank rfl]
  rfl

/-- An object is taken as the dictionary that its members are put into. -/
theorem Reader.takes_dictionary {members : List Member} {found : Dictionary α}
    (enters : Enters reader .empty members found) :
    (Reader.dictionary reader).Takes (.object members) found := by
  intro octets blanks rest spells blank _
  obtain ⟨within, rfl, written⟩ := spells
  rw [Reader.run_dictionary blank]
  exact readEntries_enters enters written rest

/-- An object that is taken is put into a dictionary member by member; nothing else is taken. -/
theorem Reader.dictionary_cases (judges : ∀ tree, reader.Judges tree) (tree : Tree) :
    (∃ members found, tree = .object members ∧ Enters reader .empty members found) ∨
      (Reader.dictionary reader).Declines tree := by
  have other {tree : Tree} (notObject : ¬ tree.Opens 0x7B) :
      (Reader.dictionary reader).Declines tree := by
    refine Reader.declines_of_opens fun {document rest first} opens found => ?_
    refine ⟨mismatch .map first rest, ?_⟩
    show readBracketed .map 0x7B (readEntries reader true .empty) document = _
    simp [readBracketed, found, opens.ne notObject]
  cases tree with
  | object members =>
      rcases enters_or_declines judges members .empty with ⟨found, enters⟩ | declined
      · exact .inl ⟨members, found, rfl, enters⟩
      · refine .inr fun octets blanks rest spells blank _ => ?_
        obtain ⟨within, rfl, written⟩ := spells
        rw [Reader.run_dictionary blank]
        exact declined rest written
  | _ => exact .inr (other (by simp [Tree.Opens, isDigit]))

theorem Reader.judges_dictionary (judges : ∀ tree, reader.Judges tree) (tree : Tree) :
    (Reader.dictionary reader).Judges tree := by
  rcases Reader.dictionary_cases judges tree with ⟨members, found, rfl, enters⟩ | declines
  · exact .inl ⟨found, Reader.takes_dictionary enters⟩
  · exact .inr declines

end Entries

section Members

variable {draft value : Type} {fields : List (Field draft)}

/-- A draft filled by members one after the other: each for a field that is not filled yet, or for
none. -/
inductive Fills (fields : List (Field draft)) :
    draft → List Member → draft → Prop where
  | done (filled : draft) : Fills fields filled [] filled
  | passed {filled finished : draft} {name : List Piece} {text : String} {tree : Tree}
      {members : List Member} (spells : text? name = some text)
      (unknown : fields.find? (·.name == text) = none)
      (later : Fills fields filled members finished) :
      Fills fields filled ((name, tree) :: members) finished
  | member {filled finished : draft} {name : List Piece} {text : String} {tree : Tree}
      {members : List Member} {field : Field draft} {update : draft → draft}
      (spells : text? name = some text) (known : fields.find? (·.name == text) = some field)
      (free : field.filled filled = false) (takes : field.reader.Takes tree update)
      (later : Fills fields (update filled) members finished) :
      Fills fields filled ((name, tree) :: members) finished

theorem readMembers_fills {filled finished : draft} {members : List Member}
    (fills : Fills fields filled members finished) {first : Bool} {octets : Octets}
    (spells : SpellsMembers members first octets) (rest : Octets) :
    readMembers fields first filled (octets ++ rest) = .ok (finished, rest) := by
  induction fills generalizing first octets with
  | done filled =>
      obtain ⟨blanks, blank, rfl⟩ := spells
      rw [List.append_assoc]
      exact readMembers_end (scanName_blank_close blank)
  | passed named unknown _ ih =>
      obtain ⟨lead, before, behind, form, later, leads, blankBefore, blankBehind, written, others,
        rfl⟩ := spells
      rw [members_append, readMembers_skipped (scanName_named leads named) unknown
        (scanColon_blank blankBefore)
        (skipValue_of_spells written blankBehind (ends_members others rest))]
      exact ih others
  | member named known free takes _ ih =>
      obtain ⟨lead, before, behind, form, later, leads, blankBefore, blankBehind, written, others,
        rfl⟩ := spells
      rw [members_append, readMembers_member (scanName_named leads named) known free
        (scanColon_blank blankBefore) (takes written blankBehind (ends_members others rest))]
      exact ih others

theorem readMembers_refused {first : Bool} {gathered : draft}
    {octets behindName behindColon : Octets} {name : String} {field : Field draft} {fault : Fault}
    (scanned : scanName first octets = .ok (some name, behindName))
    (known : fields.find? (·.name == name) = some field)
    (free : field.filled gathered = false)
    (coloned : scanColon behindName = .ok behindColon)
    (refused : field.reader.run behindColon = .error fault) :
    readMembers fields first gathered octets = .error fault := by
  rw [readMembers]
  split
  · simp_all
  · simp_all
  · rename_i scanned'
    rw [scanned] at scanned'
    obtain ⟨rfl, rfl⟩ : name = _ ∧ behindName = _ := by simpa using scanned'
    rw [known]
    simp only [free, Bool.false_eq_true, if_false]
    split
    · simp_all
    · rename_i coloned'
      rw [coloned] at coloned'
      obtain rfl : behindColon = _ := by simpa using coloned'
      split <;> simp_all

theorem readMembers_duplicate {first : Bool} {gathered : draft} {octets behindName : Octets}
    {name : String} {field : Field draft}
    (scanned : scanName first octets = .ok (some name, behindName))
    (known : fields.find? (·.name == name) = some field)
    (filled : field.filled gathered = true) :
    readMembers fields first gathered octets =
      .error (.before (.duplicateField name) (duplicatePoint behindName)) := by
  rw [readMembers]
  split
  · simp_all
  · simp_all
  · rename_i scanned'
    rw [scanned] at scanned'
    obtain ⟨rfl, rfl⟩ : name = _ ∧ behindName = _ := by simpa using scanned'
    rw [known]
    simp [filled]

theorem readMembers_nameless {first : Bool} {filled : draft} {octets : Octets} {fault : Fault}
    (failed : scanName first octets = .error fault) :
    readMembers fields first filled octets = .error fault := by
  rw [readMembers]
  split <;> simp_all

/-- Members of which one stops the filling of a draft: its name has no meaning, or its field is
filled already or declines its value. -/
inductive Stalls (fields : List (Field draft)) : draft → List Member → Prop where
  | nameless {filled : draft} {name : List Piece} {tree : Tree} {members : List Member}
      (nothing : text? name = none) : Stalls fields filled ((name, tree) :: members)
  | again {filled : draft} {name : List Piece} {text : String} {tree : Tree}
      {members : List Member} {field : Field draft} (spells : text? name = some text)
      (known : fields.find? (·.name == text) = some field)
      (taken : field.filled filled = true) : Stalls fields filled ((name, tree) :: members)
  | declined {filled : draft} {name : List Piece} {text : String} {tree : Tree}
      {members : List Member} {field : Field draft} (spells : text? name = some text)
      (known : fields.find? (·.name == text) = some field) (free : field.filled filled = false)
      (declines : field.reader.Declines tree) : Stalls fields filled ((name, tree) :: members)
  | passed {filled : draft} {name : List Piece} {text : String} {tree : Tree}
      {members : List Member} (spells : text? name = some text)
      (unknown : fields.find? (·.name == text) = none) (later : Stalls fields filled members) :
      Stalls fields filled ((name, tree) :: members)
  | member {filled : draft} {name : List Piece} {text : String} {tree : Tree}
      {members : List Member} {field : Field draft} {update : draft → draft}
      (spells : text? name = some text) (known : fields.find? (·.name == text) = some field)
      (free : field.filled filled = false) (takes : field.reader.Takes tree update)
      (later : Stalls fields (update filled) members) :
      Stalls fields filled ((name, tree) :: members)

theorem readMembers_stalls {filled : draft} {members : List Member}
    (stalls : Stalls fields filled members) {first : Bool} {octets : Octets}
    (spells : SpellsMembers members first octets) (rest : Octets) :
    ∃ fault, readMembers fields first filled (octets ++ rest) = .error fault := by
  induction stalls generalizing first octets with
  | nameless nothing =>
      obtain ⟨lead, before, behind, form, later, leads, _, _, _, _, rfl⟩ := spells
      obtain ⟨fault, failed⟩ := scanName_nameless leads nothing
      rw [members_append]
      exact ⟨fault, readMembers_nameless failed⟩
  | again named known taken =>
      obtain ⟨lead, before, behind, form, later, leads, _, _, _, _, rfl⟩ := spells
      rw [members_append]
      exact ⟨_, readMembers_duplicate (scanName_named leads named) known taken⟩
  | declined named known free declines =>
      obtain ⟨lead, before, behind, form, later, leads, blankBefore, blankBehind, written, others,
        rfl⟩ := spells
      obtain ⟨fault, failed⟩ := declines written blankBehind (ends_members others rest)
      rw [members_append]
      exact ⟨fault, readMembers_refused (scanName_named leads named) known free
        (scanColon_blank blankBefore) failed⟩
  | passed named unknown _ ih =>
      obtain ⟨lead, before, behind, form, later, leads, blankBefore, blankBehind, written, others,
        rfl⟩ := spells
      rw [members_append, readMembers_skipped (scanName_named leads named) unknown
        (scanColon_blank blankBefore)
        (skipValue_of_spells written blankBehind (ends_members others rest))]
      exact ih others
  | member named known free takes _ ih =>
      obtain ⟨lead, before, behind, form, later, leads, blankBefore, blankBehind, written, others,
        rfl⟩ := spells
      rw [members_append, readMembers_member (scanName_named leads named) known free
        (scanColon_blank blankBefore) (takes written blankBehind (ends_members others rest))]
      exact ih others

/-- If every field judges every value, members fill a draft or one of them stops that. -/
theorem fills_or_stalls (judges : ∀ field ∈ fields, ∀ tree, field.reader.Judges tree)
    (members : List Member) (filled : draft) :
    (∃ finished, Fills fields filled members finished) ∨ Stalls fields filled members := by
  induction members generalizing filled with
  | nil => exact .inl ⟨filled, .done filled⟩
  | cons member members ih =>
      obtain ⟨name, tree⟩ := member
      cases named : text? name with
      | none => exact .inr (.nameless named)
      | some text =>
          cases known : fields.find? (·.name == text) with
          | none =>
              rcases ih filled with ⟨finished, fills⟩ | stalls
              · exact .inl ⟨finished, .passed named known fills⟩
              · exact .inr (.passed named known stalls)
          | some field =>
              cases free : field.filled filled with
              | true => exact .inr (.again named known free)
              | false =>
                  rcases judges field (List.mem_of_find?_eq_some known) tree with
                    ⟨update, takes⟩ | declines
                  · rcases ih (update filled) with ⟨finished, fills⟩ | stalls
                    · exact .inl ⟨finished, .member named known free takes fills⟩
                    · exact .inr (.member named known free takes stalls)
                  · exact .inr (.declined named known free declines)

theorem scanListEnd_item {items : List Tree} {item : Tree} {first : Bool} {octets : Octets}
    (spells : SpellsItems (item :: items) first octets) (rest : Octets) :
    ∃ fault, scanListEnd (octets ++ rest) = .error fault := by
  obtain ⟨lead, form, later, leads, written, _, rfl⟩ := spells
  obtain ⟨octet, more, rfl, opens⟩ := written.opens
  obtain ⟨visible, notEnd, notComma⟩ := opens.visible
  rw [List.append_assoc, List.append_assoc, List.cons_append]
  cases leads with
  | first blank =>
      rw [scanListEnd, skipBlanks_blank_append blank visible]
      simp only [if_neg notEnd, if_neg notComma]
      exact ⟨_, rfl⟩
  | later blankBefore _ =>
      rw [List.append_assoc, List.cons_append, scanListEnd,
        skipBlanks_blank_append blankBefore rfl]
      exact ⟨_, rfl⟩

/-- Items fill the fields in their order, or one of them is declined or too many. -/
theorem readFields_judged (judges : ∀ field ∈ fields, ∀ tree, field.reader.Judges tree)
    (items : List Tree) (filled : draft) :
    (∃ finished, ∀ {first octets} (rest : Octets), SpellsItems items first octets →
        readFields fields first filled (octets ++ rest) = .ok (finished, rest)) ∨
      ∀ {first octets} (rest : Octets), SpellsItems items first octets →
        ∃ fault, readFields fields first filled (octets ++ rest) = .error fault := by
  induction fields generalizing items filled with
  | nil =>
      cases items with
      | nil =>
          refine .inl ⟨filled, fun {first octets} rest spells => ?_⟩
          obtain ⟨blanks, blank, rfl⟩ := spells
          rw [List.append_assoc, List.singleton_append, readFields, scanListEnd,
            skipBlanks_blank_append blank rfl]
          rfl
      | cons item items =>
          refine .inr fun {first octets} rest spells => ?_
          obtain ⟨fault, failed⟩ := scanListEnd_item spells rest
          exact ⟨fault, by rw [readFields, failed]⟩
  | cons field fields ih =>
      cases items with
      | nil =>
          refine .inl ⟨filled, fun {first octets} rest spells => ?_⟩
          obtain ⟨blanks, blank, rfl⟩ := spells
          rw [List.append_assoc, List.singleton_append, readFields, scanItem_close blank]
      | cons item items =>
          rcases judges field (by simp) item with ⟨update, takes⟩ | declines
          · rcases ih (fun other member => judges other (by simp [member])) items (update filled)
              with ⟨finished, taken⟩ | declined
            · refine .inl ⟨finished, fun {first octets} rest spells => ?_⟩
              obtain ⟨lead, form, later, leads, written, others, rfl⟩ := spells
              rw [List.append_assoc, List.append_assoc, readFields,
                scanItem_item leads written]
              simp only [takes.bare written (ends_items others rest)]
              exact taken rest others
            · refine .inr fun {first octets} rest spells => ?_
              obtain ⟨lead, form, later, leads, written, others, rfl⟩ := spells
              rw [List.append_assoc, List.append_assoc, readFields,
                scanItem_item leads written]
              simp only [takes.bare written (ends_items others rest)]
              exact declined rest others
          · refine .inr fun {first octets} rest spells => ?_
            obtain ⟨lead, form, later, leads, written, others, rfl⟩ := spells
            obtain ⟨fault, failed⟩ := declines.bare written (ends_items others rest)
            rw [List.append_assoc, List.append_assoc, readFields, scanItem_item leads written]
            simp only [failed]
            exact ⟨fault, rfl⟩

section Shapes

variable {shape : Shape draft value}

theorem Shape.run_members {blanks : Octets} (blank : Blank blanks) (within rest : Octets) :
    shape.reader.run (blanks ++ (0x7B :: within ++ rest)) =
      match readMembers shape.fields true shape.blank (within ++ rest) with
      | .error fault => .error fault
      | .ok (filled, left) =>
        match shape.finish filled with
        | .ok value => .ok (value, left)
        | .error name => .error (.before (.missingField name) left) := by
  show shape.read _ = _
  rw [List.cons_append, Shape.read, skipBlanks_blank_append blank rfl]
  rfl

theorem Shape.run_items {blanks : Octets} (blank : Blank blanks) (within rest : Octets) :
    shape.reader.run (blanks ++ (0x5B :: within ++ rest)) =
      match readFields shape.fields true shape.blank (within ++ rest) with
      | .error fault => .error fault
      | .ok (filled, left) =>
        match shape.finish filled with
        | .ok value => .ok (value, left)
        | .error name => .error (.before
            (.wrongLength (shape.fields.findIdx (·.name == name)) shape.name shape.fields.length)
            left) := by
  show shape.read _ = _
  rw [List.cons_append, Shape.read, skipBlanks_blank_append blank rfl]
  rfl

theorem Shape.takes_object {members : List Member} {finished : draft} {record : value}
    (fills : Fills shape.fields shape.blank members finished)
    (done : shape.finish finished = .ok record) :
    shape.reader.Takes (.object members) record := by
  intro octets blanks rest spells blank _
  obtain ⟨within, rfl, written⟩ := spells
  rw [Shape.run_members blank, readMembers_fills fills written]
  simp only [done]

theorem Shape.declines_unfinished {members : List Member} {finished : draft}
    {name : String} (fills : Fills shape.fields shape.blank members finished)
    (unfinished : shape.finish finished = .error name) :
    shape.reader.Declines (.object members) := by
  intro octets blanks rest spells blank _
  obtain ⟨within, rfl, written⟩ := spells
  refine ⟨.before (.missingField name) rest, ?_⟩
  rw [Shape.run_members blank, readMembers_fills fills written]
  simp only [unfinished]

/-- A record that is an object is finished from a draft, or declined. -/
theorem Shape.object_cases (judges : ∀ field ∈ shape.fields, ∀ tree, field.reader.Judges tree)
    (members : List Member) :
    (∃ finished record, Fills shape.fields shape.blank members finished ∧
        shape.finish finished = .ok record) ∨
      shape.reader.Declines (.object members) := by
  rcases fills_or_stalls judges members shape.blank with ⟨finished, fills⟩ | stalls
  · cases done : shape.finish finished with
    | ok record => exact .inl ⟨finished, record, fills, done⟩
    | error name => exact .inr (Shape.declines_unfinished fills done)
  · refine .inr fun octets blanks rest spells blank _ => ?_
    obtain ⟨within, rfl, written⟩ := spells
    obtain ⟨fault, failed⟩ := readMembers_stalls stalls written rest
    exact ⟨fault, by rw [Shape.run_members blank, failed]⟩

theorem Shape.judges_list (judges : ∀ field ∈ shape.fields, ∀ tree, field.reader.Judges tree)
    (items : List Tree) : shape.reader.Judges (.list items) := by
  rcases readFields_judged judges items shape.blank with ⟨finished, taken⟩ | declined
  · cases done : shape.finish finished with
    | ok record =>
        refine .inl ⟨record, fun octets blanks rest spells blank _ => ?_⟩
        obtain ⟨within, rfl, written⟩ := spells
        rw [Shape.run_items blank, taken rest written]
        simp only [done]
    | error name =>
        refine .inr fun octets blanks rest spells blank _ => ?_
        obtain ⟨within, rfl, written⟩ := spells
        rw [Shape.run_items blank, taken rest written]
        simp only [done]
        exact ⟨_, rfl⟩
  · refine .inr fun octets blanks rest spells blank _ => ?_
    obtain ⟨within, rfl, written⟩ := spells
    obtain ⟨fault, failed⟩ := declined rest written
    exact ⟨fault, by rw [Shape.run_items blank, failed]⟩

/-- A record judges every value if its fields do. -/
theorem Shape.judges (judges : ∀ field ∈ shape.fields, ∀ tree, field.reader.Judges tree)
    (tree : Tree) : shape.reader.Judges tree := by
  have other {tree : Tree} (notObject : ¬ tree.Opens 0x7B) (notList : ¬ tree.Opens 0x5B) :
      shape.reader.Judges tree := by
    refine .inr (Reader.declines_of_opens fun {document rest first} opens found => ?_)
    refine ⟨mismatch (.record shape.name) first rest, ?_⟩
    show shape.read document = _
    simp [Shape.read, found, opens.ne notObject, opens.ne notList]
  cases tree with
  | object members =>
      rcases Shape.object_cases judges members with ⟨finished, record, fills, done⟩ | declines
      · exact .inl ⟨record, Shape.takes_object fills done⟩
      · exact .inr declines
  | list items => exact Shape.judges_list judges items
  | _ => exact other (by simp [Tree.Opens, isDigit]) (by simp [Tree.Opens, isDigit])

/-- A record that is an object is taken as what its members fill. -/
theorem Shape.takes_object_iff (judges : ∀ field ∈ shape.fields, ∀ tree, field.reader.Judges tree)
    {members : List Member} {record : value} :
    shape.reader.Takes (.object members) record ↔
      ∃ finished, Fills shape.fields shape.blank members finished ∧
        shape.finish finished = .ok record := by
  constructor
  · intro takes
    rcases Shape.object_cases judges members with ⟨finished, found, fills, done⟩ | declines
    · obtain rfl := takes.unique (Shape.takes_object fills done)
      exact ⟨finished, fills, done⟩
    · exact absurd declines takes.not_declines
  · rintro ⟨finished, fills, done⟩
    exact Shape.takes_object fills done

end Shapes

end Members

end Json

end SignIn
