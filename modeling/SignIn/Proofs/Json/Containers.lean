import SignIn.Proofs.Json.Reading

/-!
# Reading back lists, dictionaries and records

A list or an object is read part by part.  How an object is laid out on lines makes no
difference: blanks may stand before a name, before a value and before the closing
bracket.  A record comes back from its members in the order in which they were gathered.
-/

namespace SignIn

namespace Json

open Utf8

theorem encode_intercalate_cons (separator form : String) (forms : List String) :
    encode (separator.intercalate (form :: forms)) =
      encode form ++ forms.flatMap fun later => encode separator ++ encode later := by
  induction forms generalizing form with
  | nil => simp
  | cons second forms ih =>
      rw [String.intercalate_cons_cons, encode_append, encode_append, ih second]
      simp

/-- The items of a list as they stand behind the opening bracket, or behind an earlier
item, up to the closing bracket. -/
def itemOctets : Bool → List String → Octets
  | _, [] => [0x5D]
  | first, form :: forms =>
    (if first then [] else [0x2C]) ++ (encode form ++ itemOctets false forms)

theorem itemOctets_false (forms : List String) :
    itemOctets false forms = (forms.flatMap fun form => 0x2C :: encode form) ++ [0x5D] := by
  induction forms with
  | nil => rfl
  | cons form forms ih => simp [itemOctets, ih]

theorem encode_printList (forms : List String) :
    encode (printList forms) = 0x5B :: itemOctets true forms := by
  have comma : encode "," = [0x2C] := rfl
  have opening : encode "[" = [0x5B] := rfl
  have closing : encode "]" = [0x5D] := rfl
  unfold printList
  rw [encode_append, encode_append, opening, closing]
  cases forms with
  | nil => rfl
  | cons form forms =>
      rw [encode_intercalate_cons, comma, itemOctets, itemOctets_false]
      simp

theorem ends_itemOctets (forms : List String) (rest : Octets) :
    Ends (itemOctets false forms ++ rest) := by
  cases forms with
  | nil => exact ends_cons rfl rest
  | cons form forms => exact ends_cons rfl _

section Items

variable {α : Type} {reader : Reader α}

theorem readItems_end {first : Bool} {octets rest : Octets}
    (scanned : scanItem first octets = .ok (false, rest)) :
    readItems reader first octets = .ok ([], rest) := by
  rw [readItems]
  split <;> simp_all

theorem readItems_item {first : Bool} {octets before after rest : Octets} {item : α}
    {items : List α} (scanned : scanItem first octets = .ok (true, before))
    (read : reader.run before = .ok (item, after))
    (later : readItems reader false after = .ok (items, rest)) :
    readItems reader first octets = .ok (item :: items, rest) := by
  rw [readItems]
  split
  · simp_all
  · simp_all
  · rename_i scanned'
    rw [scanned] at scanned'
    obtain rfl : before = _ := by simpa using scanned'
    split
    · simp_all
    · rename_i read'
      rw [read] at read'
      obtain ⟨rfl, rfl⟩ : item = _ ∧ after = _ := by simpa using read'
      rw [later]

theorem scanItem_itemOctets {form : String}
    (begins : ∃ first rest, encode form = first :: rest ∧ isBlank first = false ∧ first ≠ 0x5D)
    (first : Bool) (rest : Octets) :
    scanItem first ((if first then [] else [0x2C]) ++ (encode form ++ rest)) =
      .ok (true, encode form ++ rest) := by
  obtain ⟨octet, octets, written, visible, notEnd⟩ := begins
  rw [written]
  cases first with
  | true =>
      rw [if_pos rfl, List.nil_append, List.cons_append, scanItem,
        skipBlanks_cons_of_not visible]
      simp [notEnd]
  | false =>
      have comma : skipBlanks (0x2C :: octet :: (octets ++ rest)) =
          0x2C :: octet :: (octets ++ rest) := skipBlanks_cons_of_not rfl _
      have next : skipBlanks (octet :: (octets ++ rest)) = octet :: (octets ++ rest) :=
        skipBlanks_cons_of_not visible _
      rw [if_neg (by decide), List.singleton_append, List.cons_append, scanItem, comma]
      simp [next, notEnd]

theorem readItems_itemOctets {print : α → String} {items : List α}
    (reads : ∀ item ∈ items, reader.Reads (print item) item) (first : Bool)
    (rest : Octets) :
    readItems reader first (itemOctets first (items.map print) ++ rest) =
      .ok (items, rest) := by
  induction items generalizing first with
  | nil =>
      apply readItems_end
      cases first <;> rfl
  | cons item items ih =>
      have readsFirst := reads item (by simp)
      have later := ih (fun other member => reads other (by simp [member])) false
      have scanned := scanItem_itemOctets readsFirst.begins first
        (itemOctets false (items.map print) ++ rest)
      have read := readsFirst.run blank_nil (ends_itemOctets (items.map print) rest)
      have split : itemOctets first ((item :: items).map print) ++ rest =
          (if first then [] else [0x2C]) ++
            (encode (print item) ++ (itemOctets false (items.map print) ++ rest)) := by
        simp [itemOctets]
      rw [split]
      exact readItems_item scanned read later

theorem Reader.Reads.list {print : α → String} {items : List α}
    (reads : ∀ item ∈ items, reader.Reads (print item) item) :
    (Reader.list reader).Reads (printList (items.map print)) items where
  begins := ⟨0x5B, _, encode_printList _, rfl, by decide⟩
  run {blanks rest} blank _ := by
    show readBracketed .sequence 0x5B (readItems reader true) _ = _
    rw [encode_printList, List.cons_append, readBracketed,
      skipBlanks_blank_append blank rfl]
    exact readItems_itemOctets reads true rest

end Items

/-- How an object is laid out: the blanks before a name, before a value and before the
closing bracket. -/
structure Layout where
  name : Octets
  value : Octets
  close : Octets
  name_blank : Blank name
  value_blank : Blank value
  close_blank : Blank close

namespace Layout

def compact : Layout :=
  ⟨[], [], [], blank_nil, blank_nil, blank_nil⟩

def lines : Layout where
  name := [0x0A, 0x20, 0x20]
  value := [0x20]
  close := [0x0A]
  name_blank := by simp [Blank, isBlank]
  value_blank := by simp [Blank, isBlank]
  close_blank := by simp [Blank, isBlank]

def member (layout : Layout) (name form : String) : Octets :=
  layout.name ++ (encode (printText name) ++ (0x3A :: (layout.value ++ encode form)))

/-- The members of an object as they stand behind the opening bracket, or behind an
earlier member, up to the closing bracket. -/
def members (layout : Layout) : Bool → List (String × String) → Octets
  | _, [] => layout.close ++ [0x7D]
  | first, (name, form) :: members =>
    (if first then [] else [0x2C]) ++ (layout.member name form ++ layout.members false members)

theorem members_false (layout : Layout) (members : List (String × String)) :
    layout.members false members =
      (members.flatMap fun member => 0x2C :: layout.member member.1 member.2) ++
        (layout.close ++ [0x7D]) := by
  induction members with
  | nil => rfl
  | cons member members ih => simp [Layout.members, ih]

theorem ends_members (layout : Layout) (members : List (String × String))
    (rest : Octets) : Ends (layout.members false members ++ rest) := by
  cases members with
  | nil =>
      rw [Layout.members, List.append_assoc]
      exact ends_append layout.close_blank (ends_cons rfl rest)
  | cons member members => exact ends_cons rfl _

theorem scanName_member (layout : Layout) (first : Bool) (name : String) (rest : Octets) :
    scanName first ((if first then [] else [0x2C]) ++
        (layout.name ++ (encode (printText name) ++ rest))) = .ok (some name, rest) := by
  rw [encode_printText_append]
  have opened : skipBlanks (layout.name ++
        0x22 :: (encodeChars (name.toList.flatMap escape) ++ 0x22 :: rest)) =
      0x22 :: (encodeChars (name.toList.flatMap escape) ++ 0x22 :: rest) :=
    skipBlanks_blank_append layout.name_blank rfl
  cases first with
  | true =>
      rw [if_pos rfl, List.nil_append, scanName, opened]
      simp [scanText_escaped]
  | false =>
      have comma (octets : Octets) : skipBlanks (0x2C :: octets) = 0x2C :: octets :=
        skipBlanks_cons_of_not rfl octets
      rw [if_neg (by decide), List.singleton_append, scanName, comma]
      simp [opened, scanText_escaped]

theorem scanName_close (layout : Layout) (first : Bool) (rest : Octets) :
    scanName first (layout.close ++ (0x7D :: rest)) = .ok (none, rest) := by
  rw [scanName, skipBlanks_blank_append layout.close_blank rfl]
  rfl

theorem members_cons_append (layout : Layout) (first : Bool) (name form : String)
    (members : List (String × String)) (rest : Octets) :
    layout.members first ((name, form) :: members) ++ rest =
      (if first then [] else [0x2C]) ++ (layout.name ++ (encode (printText name) ++
        (0x3A :: (layout.value ++ (encode form ++
          (layout.members false members ++ rest)))))) := by
  simp [Layout.members, Layout.member]

end Layout

theorem encode_printObject (members : List (String × String)) :
    encode (printObject members) = 0x7B :: Layout.compact.members true members := by
  have comma : encode "," = [0x2C] := rfl
  have colon : encode ":" = [0x3A] := rfl
  have opening : encode "\x7b" = [0x7B] := rfl
  have closing : encode "\x7d" = [0x7D] := rfl
  unfold printObject
  rw [encode_append, encode_append, opening, closing]
  cases members with
  | nil => rfl
  | cons member members =>
      rw [List.map_cons, encode_intercalate_cons, comma, Layout.members,
        Layout.members_false]
      simp [Layout.member, Layout.compact, List.flatMap_map, colon]

theorem encode_printLines (members : List (String × String)) :
    encode (printLines members) =
      0x7B :: (if members = [] then Layout.compact else .lines).members true members := by
  have comma : encode ",\n" = [0x2C, 0x0A] := rfl
  have colon : encode ": " = [0x3A, 0x20] := rfl
  have indent : encode "  " = [0x20, 0x20] := rfl
  have opening : encode "\x7b\n" = [0x7B, 0x0A] := rfl
  have closing : encode "\n\x7d" = [0x0A, 0x7D] := rfl
  cases members with
  | nil => rfl
  | cons member members =>
      rw [if_neg (by simp), printLines, if_neg (by simp), encode_append, encode_append,
        opening, closing, List.map_cons, encode_intercalate_cons, comma, Layout.members,
        Layout.members_false]
      simp [Layout.member, Layout.lines, List.flatMap_map, colon, indent]

theorem scanColon_colon (rest : Octets) : scanColon (0x3A :: rest) = .ok rest :=
  rfl

section Entries

variable {α : Type} {reader : Reader α}

theorem readEntries_end {first : Bool} {entries : Dictionary α} {octets rest : Octets}
    (scanned : scanName first octets = .ok (none, rest)) :
    readEntries reader first entries octets = .ok (entries, rest) := by
  rw [readEntries]
  split <;> simp_all

theorem readEntries_entry {first : Bool} {entries : Dictionary α}
    {octets behindName behindColon rest : Octets} {name : String} {value : α}
    (scanned : scanName first octets = .ok (some name, behindName))
    (coloned : scanColon behindName = .ok behindColon)
    (read : reader.run behindColon = .ok (value, rest)) :
    readEntries reader first entries octets =
      readEntries reader false (entries.insert name value) rest := by
  rw [readEntries]
  split
  · simp_all
  · simp_all
  · rename_i scanned'
    rw [scanned] at scanned'
    obtain ⟨rfl, rfl⟩ : name = _ ∧ behindName = _ := by simpa using scanned'
    split
    · simp_all
    · rename_i coloned'
      rw [coloned] at coloned'
      obtain rfl : behindColon = _ := by simpa using coloned'
      split
      · simp_all
      · rename_i read'
        rw [read] at read'
        obtain ⟨rfl, rfl⟩ : value = _ ∧ rest = _ := by simpa using read'
        rfl

/-- Entries are put into the dictionary one after the other, in whatever layout they are
written. -/
theorem readEntries_members {print : α → String}
    (reads : ∀ value, reader.Reads (print value) value) (layout : Layout)
    (entries : List (String × α)) (first : Bool) (gathered : Dictionary α)
    (rest : Octets) :
    readEntries reader first gathered
        (layout.members first (entries.map fun entry => (entry.1, print entry.2)) ++ rest) =
      .ok (entries.foldl (fun gathered entry => gathered.insert entry.1 entry.2) gathered,
        rest) := by
  induction entries generalizing first gathered with
  | nil =>
      apply readEntries_end
      rw [List.map_nil, Layout.members, List.append_assoc]
      exact layout.scanName_close first rest
  | cons entry entries ih =>
      have read := (reads entry.2).run layout.value_blank
        (layout.ends_members (entries.map fun entry => (entry.1, print entry.2)) rest)
      rw [List.map_cons, layout.members_cons_append,
        readEntries_entry (layout.scanName_member first entry.1 _) (scanColon_colon _) read, ih]
      rfl

theorem Reader.Reads.dictionary {print : α → String} {text : String} {layout : Layout}
    {dictionary : Dictionary α} (reads : ∀ value, reader.Reads (print value) value)
    (written : encode text = 0x7B :: layout.members true
      (dictionary.toList.map fun entry => (entry.1, print entry.2))) :
    (Reader.dictionary reader).Reads text dictionary where
  begins := ⟨0x7B, _, written, rfl, by decide⟩
  run {blanks rest} blank _ := by
    have read := readEntries_members reads layout dictionary.toList true .empty rest
    show readBracketed .map 0x7B (readEntries reader true .empty) _ = _
    rw [written, List.cons_append, readBracketed, skipBlanks_blank_append blank rfl]
    simp only [if_true, read]
    exact congrArg (fun found => Except.ok (found, rest)) dictionary.ofList_toList

end Entries

section Members

variable {draft value : Type}

/-- The members of an object gathered one by one, each for a field that is not yet
filled; those for no field are skipped. -/
inductive Gathers (fields : List (Field draft)) :
    draft → List (String × String) → draft → Prop where
  | done (gathered : draft) : Gathers fields gathered [] gathered
  | skipped {gathered finished : draft} {name form : String}
      {members : List (String × String)} (unknown : fields.find? (·.name == name) = none)
      (skips : Skips form) (later : Gathers fields gathered members finished) :
      Gathers fields gathered ((name, form) :: members) finished
  | member {gathered finished : draft} {name form : String}
      {members : List (String × String)} {field : Field draft} {update : draft → draft}
      (known : fields.find? (·.name == name) = some field)
      (free : field.filled gathered = false)
      (reads : field.reader.Reads form update)
      (later : Gathers fields (update gathered) members finished) :
      Gathers fields gathered ((name, form) :: members) finished

theorem readMembers_end {fields : List (Field draft)} {first : Bool} {gathered : draft}
    {octets rest : Octets} (scanned : scanName first octets = .ok (none, rest)) :
    readMembers fields first gathered octets = .ok (gathered, rest) := by
  rw [readMembers]
  split <;> simp_all

theorem readMembers_member {fields : List (Field draft)} {first : Bool} {gathered : draft}
    {octets behindName behindColon rest : Octets} {name : String} {field : Field draft}
    {update : draft → draft} (scanned : scanName first octets = .ok (some name, behindName))
    (known : fields.find? (·.name == name) = some field)
    (free : field.filled gathered = false)
    (coloned : scanColon behindName = .ok behindColon)
    (read : field.reader.run behindColon = .ok (update, rest)) :
    readMembers fields first gathered octets =
      readMembers fields false (update gathered) rest := by
  rw [readMembers]
  split
  · simp_all
  · simp_all
  · rename_i scanned'
    rw [scanned] at scanned'
    obtain ⟨rfl, rfl⟩ : name = _ ∧ behindName = _ := by simpa using scanned'
    rw [known]
    simp only [free, Bool.false_eq_true, if_false]
    split
    · simp_all
    · rename_i coloned'
      rw [coloned] at coloned'
      obtain rfl : behindColon = _ := by simpa using coloned'
      split
      · simp_all
      · rename_i read'
        rw [read] at read'
        obtain ⟨rfl, rfl⟩ : update = _ ∧ rest = _ := by simpa using read'
        rfl

theorem readMembers_skipped {fields : List (Field draft)} {first : Bool} {gathered : draft}
    {octets behindName behindColon rest : Octets} {name : String}
    (scanned : scanName first octets = .ok (some name, behindName))
    (unknown : fields.find? (·.name == name) = none)
    (coloned : scanColon behindName = .ok behindColon)
    (skipped : skipValue behindColon = .ok rest) :
    readMembers fields first gathered octets = readMembers fields false gathered rest := by
  rw [readMembers]
  split
  · simp_all
  · simp_all
  · rename_i scanned'
    rw [scanned] at scanned'
    obtain ⟨rfl, rfl⟩ : name = _ ∧ behindName = _ := by simpa using scanned'
    rw [unknown]
    simp only
    split
    · simp_all
    · rename_i coloned'
      rw [coloned] at coloned'
      obtain rfl : behindColon = _ := by simpa using coloned'
      split
      · simp_all
      · rename_i skipped'
        rw [skipped] at skipped'
        obtain rfl : rest = _ := by simpa using skipped'
        rfl

theorem readMembers_members {fields : List (Field draft)} {gathered finished : draft}
    {members : List (String × String)} (gathers : Gathers fields gathered members finished)
    (layout : Layout) (first : Bool) (rest : Octets) :
    readMembers fields first gathered (layout.members first members ++ rest) =
      .ok (finished, rest) := by
  induction gathers generalizing first with
  | done gathered =>
      apply readMembers_end
      rw [Layout.members, List.append_assoc]
      exact layout.scanName_close first rest
  | @skipped gathered finished name form members unknown skips later ih =>
      have skipped : skipValue _ = skipAfter [] true _ :=
        skips.run [] layout.value_blank (layout.ends_members members rest)
      rw [skipAfter] at skipped
      rw [layout.members_cons_append, readMembers_skipped (layout.scanName_member first name _)
        unknown (scanColon_colon _) skipped, ih]
  | @member gathered finished name form members field update known free reads later ih =>
      have read := reads.run layout.value_blank (layout.ends_members members rest)
      rw [layout.members_cons_append, readMembers_member (layout.scanName_member first name _)
        known free (scanColon_colon _) read, ih]

theorem Shape.run_object (shape : Shape draft value) (members : List (String × String))
    {blanks : Octets} (blank : Blank blanks) (rest : Octets) :
    shape.reader.run (blanks ++ (encode (printObject members) ++ rest)) =
      match readMembers shape.fields true shape.blank
        (Layout.compact.members true members ++ rest) with
      | .error fault => .error fault
      | .ok (gathered, left) =>
        match shape.finish gathered with
        | .ok value => .ok (value, left)
        | .error name => .error (.before (.missingField name) left) := by
  show shape.read _ = _
  rw [encode_printObject, List.cons_append, Shape.read, skipBlanks_blank_append blank rfl]
  rfl

/-- A record is read back when its members gather into a draft that finishes as it. -/
theorem Reader.Reads.record {shape : Shape draft value} {members : List (String × String)}
    {finished : draft} {record : value}
    (gathers : Gathers shape.fields shape.blank members finished)
    (done : shape.finish finished = .ok record) :
    shape.reader.Reads (printObject members) record where
  begins := ⟨0x7B, _, encode_printObject members, rfl, by decide⟩
  run {blanks rest} blank _ := by
    rw [shape.run_object members blank, readMembers_members gathers .compact true rest]
    simp only [done]

end Members

end Json

end SignIn
