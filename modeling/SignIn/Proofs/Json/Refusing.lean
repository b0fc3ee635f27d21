import SignIn.Proofs.Json.Filling
import SignIn.Json.Value

/-!
# What a reader refuses

A reader may be handed any value.  It reads the written form of the value back as something
or it refuses it, and which of the two depends on that form alone, not on what stands before
or behind it.
-/

namespace SignIn

namespace Json

open Utf8

theorem hexDigit_mem : ∀ value < 16, hexDigit value ∈ hexDigits := by
  decide

theorem exists_piece (character : Char) :
    ∃ piece : Piece, piece.octets = encodeChars (escape character) := by
  unfold escape
  split
  case h_8 notQuote notEscape _ _ _ _ _ =>
    split
    case isTrue control =>
      have high := hexDigit_mem (character.toNat / 16) (by omega)
      have low := hexDigit_mem (character.toNat % 16) (by omega)
      have zero : '0' ∈ hexDigits := by decide
      exact ⟨.number ⟨'0', '0', hexDigit (character.toNat / 16), hexDigit (character.toNat % 16),
        by simp [zero, high, low]⟩, rfl⟩
    case isFalse visible =>
      refine ⟨.plain character ⟨notQuote, notEscape, Nat.le_of_not_lt visible⟩, ?_⟩
      rw [encodeChars_cons, encodeChars_nil, List.append_nil]
      rfl
  -- The escapes of one letter.
  case h_1 => exact ⟨.letter ('"', '"') (by decide), rfl⟩
  case h_2 => exact ⟨.letter ('\\', '\\') (by decide), rfl⟩
  case h_3 => exact ⟨.letter ('b', '\x08') (by decide), rfl⟩
  case h_4 => exact ⟨.letter ('t', '\t') (by decide), rfl⟩
  case h_5 => exact ⟨.letter ('n', '\n') (by decide), rfl⟩
  case h_6 => exact ⟨.letter ('f', '\x0C') (by decide), rfl⟩
  case h_7 => exact ⟨.letter ('r', '\x0D') (by decide), rfl⟩

theorem exists_spelled (characters : List Char) :
    ∃ pieces, spelled pieces = encodeChars (characters.flatMap escape) := by
  induction characters with
  | nil => exact ⟨[], rfl⟩
  | cons character characters ih =>
      obtain ⟨piece, one⟩ := exists_piece character
      obtain ⟨pieces, others⟩ := ih
      refine ⟨piece :: pieces, ?_⟩
      rw [spelled, List.flatMap_cons, one, List.flatMap_cons, encodeChars_append, ← others, spelled]

theorem exists_quoted (text : String) : ∃ pieces, quoted pieces = encode (printText text) := by
  obtain ⟨pieces, written⟩ := exists_spelled text.toList
  refine ⟨pieces, ?_⟩
  rw [quoted, written, encode_printText, List.cons_append]

namespace Value

theorem printItems_eq (items : List Value) : printItems items = items.map print := by
  induction items with
  | nil => rfl
  | cons item items ih => rw [printItems, ih, List.map_cons]

mutual

theorem exists_tree : ∀ value : Value, ∃ tree : Tree, tree.Spells (encode value.print)
  | null => ⟨.null, rfl⟩
  | boolean value => ⟨.boolean value, rfl⟩
  | number value => by
      obtain ⟨spelling, plain | signed⟩ := value.exists_spelling
      · exact ⟨.number false spelling, plain⟩
      · exact ⟨.number true spelling, signed⟩
  | text value => by
      obtain ⟨pieces, written⟩ := exists_quoted value
      exact ⟨.text pieces, written.symm⟩
  | list items => by
      obtain ⟨trees, written⟩ := exists_items items true
      exact ⟨.list trees, _, encode_printList _, written⟩
  | object members => by
      obtain ⟨trees, written⟩ := exists_members members true
      exact ⟨.object trees, _, encode_printObject _, written⟩

theorem exists_items : ∀ (items : List Value) (first : Bool),
    ∃ trees, Tree.SpellsItems trees first (itemOctets first (printItems items))
  | [], _ => ⟨[], [], blank_nil, rfl⟩
  | item :: items, first => by
      obtain ⟨tree, written⟩ := exists_tree item
      obtain ⟨trees, others⟩ := exists_items items false
      exact ⟨tree :: trees, _, _, _, Tree.leads_comma first, written, others, rfl⟩

theorem exists_members : ∀ (members : List (String × Value)) (first : Bool),
    ∃ trees, Tree.SpellsMembers trees first (Layout.compact.members first (printMembers members))
  | [], _ => ⟨[], [], blank_nil, rfl⟩
  | (name, value) :: members, first => by
      obtain ⟨pieces, named⟩ := exists_quoted name
      obtain ⟨tree, written⟩ := exists_tree value
      obtain ⟨trees, others⟩ := exists_members members false
      refine ⟨(pieces, tree) :: trees, _, [], [], _, _, Tree.leads_comma first, blank_nil,
        blank_nil, written, others, ?_⟩
      have form := Layout.compact.members_cons_append first name value.print
        (printMembers members) []
      rw [List.append_nil, List.append_nil] at form
      rw [printMembers, form, named]
      rfl

end

end Value

theorem Tree.Spells.begins {tree : Tree} {text : String} (spells : tree.Spells (encode text)) :
    ∃ first rest, encode text = first :: rest ∧ isBlank first = false ∧ first ≠ 0x5D := by
  obtain ⟨first, rest, written, opens⟩ := Tree.Spells.opens spells
  obtain ⟨visible, notEnd, _⟩ := opens.visible
  exact ⟨first, rest, written, visible, notEnd⟩

/-- Every value can be skipped in its written form. -/
theorem Value.skips (value : Value) : Skips value.print := by
  obtain ⟨tree, written⟩ := value.exists_tree
  exact ⟨written.begins, fun brackets _ _ blank ends => tree.skips written brackets blank ends⟩

namespace Reader

variable {α β : Type}

/-- A reader refuses a written form wherever it stands. -/
def Refuses (reader : Reader α) (text : String) : Prop :=
  ∀ {blanks rest : Octets}, Blank blanks → Ends rest →
    ∃ fault, reader.run (blanks ++ (encode text ++ rest)) = .error fault

/-- A written form is read back as something, or refused. -/
def Decides (reader : Reader α) (text : String) : Prop :=
  (∃ value, reader.Reads text value) ∨ reader.Refuses text

/-- Every value is decided by its written form. -/
def Decisive (reader : Reader α) : Prop :=
  ∀ value : Value, reader.Decides value.print

theorem Refuses.decode {reader : Reader α} {text : String} (refuses : reader.Refuses text) :
    ∃ error, reader.decode (encode text) = .error error := by
  obtain ⟨fault, ran⟩ := refuses blank_nil ends_nil
  rw [List.nil_append, List.append_nil] at ran
  exact ⟨fault.place (encode text), by rw [Reader.decode, ran]⟩

theorem Decides.reads_of_decode {reader : Reader α} {text : String} {value : α}
    (decides : reader.Decides text) (decoded : reader.decode (encode text) = .ok value) :
    reader.Reads text value := by
  rcases decides with ⟨found, reads⟩ | refuses
  · obtain rfl := Except.ok.inj (reads.decode.symm.trans decoded)
    exact reads
  · obtain ⟨error, failed⟩ := refuses.decode
    cases failed.symm.trans decoded

theorem Refuses.map {reader : Reader α} {text : String} (change : α → β)
    (refuses : reader.Refuses text) : (reader.map change).Refuses text := by
  intro blanks rest blank ends
  obtain ⟨fault, ran⟩ := refuses blank ends
  exact ⟨fault, by simp only [Reader.map, ran]⟩

/-- What judges every tree decides every written form. -/
theorem decisive_of_judges {reader : Reader α} (judges : ∀ tree, reader.Judges tree) :
    reader.Decisive := by
  intro value
  obtain ⟨tree, written⟩ := value.exists_tree
  rcases judges tree with ⟨found, takes⟩ | declines
  · exact .inl ⟨found, written.begins, fun blank ends => takes written blank ends⟩
  · exact .inr fun blank ends => declines written blank ends

end Reader

section Members

variable {draft value : Type} {fields : List (Field draft)}

/-- The members of an object gathered one by one up to one that is refused, or that comes for
a field which is filled already. -/
inductive Balks (fields : List (Field draft)) : draft → List (String × String) → Prop where
  | refused {gathered : draft} {name form : String} {members : List (String × String)}
      {field : Field draft} (known : fields.find? (·.name == name) = some field)
      (free : field.filled gathered = false) (refuses : field.reader.Refuses form) :
      Balks fields gathered ((name, form) :: members)
  | duplicate {gathered : draft} {name form : String} {members : List (String × String)}
      {field : Field draft} (known : fields.find? (·.name == name) = some field)
      (filled : field.filled gathered = true) :
      Balks fields gathered ((name, form) :: members)
  | skipped {gathered : draft} {name form : String} {members : List (String × String)}
      (unknown : fields.find? (·.name == name) = none) (skips : Skips form)
      (later : Balks fields gathered members) :
      Balks fields gathered ((name, form) :: members)
  | member {gathered : draft} {name form : String} {members : List (String × String)}
      {field : Field draft} {update : draft → draft}
      (known : fields.find? (·.name == name) = some field)
      (free : field.filled gathered = false) (reads : field.reader.Reads form update)
      (later : Balks fields (update gathered) members) :
      Balks fields gathered ((name, form) :: members)

theorem readMembers_balks {gathered : draft} {members : List (String × String)}
    (balks : Balks fields gathered members) (layout : Layout) (first : Bool) (rest : Octets) :
    ∃ fault, readMembers fields first gathered (layout.members first members ++ rest) =
      .error fault := by
  induction balks generalizing first with
  | @refused gathered name form members field known free refuses =>
      obtain ⟨fault, refused⟩ :=
        refuses layout.value_blank (layout.ends_members members rest)
      rw [layout.members_cons_append]
      exact ⟨fault, readMembers_refused (layout.scanName_member first name _) known free
        (scanColon_colon _) refused⟩
  | @duplicate gathered name form members field known filled =>
      rw [layout.members_cons_append]
      exact ⟨_, readMembers_duplicate (layout.scanName_member first name _) known filled⟩
  | @skipped gathered name form members unknown skips later ih =>
      have skipped : skipValue _ = skipAfter [] true _ :=
        skips.run [] layout.value_blank (layout.ends_members members rest)
      rw [skipAfter] at skipped
      rw [layout.members_cons_append, readMembers_skipped (layout.scanName_member first name _)
        unknown (scanColon_colon _) skipped]
      exact ih false
  | @member gathered name form members field update known free reads later ih =>
      have read := reads.run layout.value_blank (layout.ends_members members rest)
      rw [layout.members_cons_append, readMembers_member (layout.scanName_member first name _)
        known free (scanColon_colon _) read]
      exact ih false

theorem Reader.Refuses.of_balks {shape : Shape draft value} {members : List (String × String)}
    (balks : Balks shape.fields shape.blank members) :
    shape.reader.Refuses (printObject members) := by
  intro blanks rest blank _
  obtain ⟨fault, failed⟩ := readMembers_balks balks .compact true rest
  exact ⟨fault, by rw [shape.run_object members blank, failed]⟩

end Members

end Json

end SignIn
