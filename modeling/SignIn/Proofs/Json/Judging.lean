import SignIn.Proofs.Json.Grammar

/-!
# What readers make of documents

A reader takes a value or declines it, and which of the two, and as what it takes it, depends on the
value alone: not on the blanks, nor on what stands before or behind it.  So it is of numbers, texts
and truth values, and of what may be absent.
-/

namespace SignIn

namespace Json

open Utf8

section Between

variable {first : Bool} {lead rest : Octets}

theorem scanItem_lead {octet : UInt8} (leads : Leads first lead) (visible : isBlank octet = false)
    (notEnd : octet ≠ 0x5D) :
    scanItem first (lead ++ octet :: rest) = .ok (true, octet :: rest) := by
  cases leads with
  | first blank =>
      rw [scanItem, skipBlanks_blank_append blank visible]
      simp [notEnd]
  | later blankBefore blankBehind =>
      rw [List.append_assoc, List.cons_append, scanItem, skipBlanks_blank_append blankBefore rfl]
      simp [skipBlanks_blank_append blankBehind visible, notEnd]

theorem scanItem_close {blanks : Octets} (blank : Blank blanks) :
    scanItem first (blanks ++ 0x5D :: rest) = .ok (false, rest) := by
  rw [scanItem, skipBlanks_blank_append blank rfl]
  rfl

theorem scanName_named (leads : Leads first lead) {name : List Piece} {text : String}
    (spells : text? name = some text) :
    scanName first (lead ++ (quoted name ++ rest)) = .ok (some text, rest) := by
  have scanned := scanText_spelled spells rest
  rw [quoted_append]
  cases leads with
  | first blank =>
      rw [scanName, skipBlanks_blank_append blank rfl]
      simp [scanned]
  | later blankBefore blankBehind =>
      rw [List.append_assoc, List.cons_append, scanName, skipBlanks_blank_append blankBefore rfl]
      simp [skipBlanks_blank_append blankBehind (show isBlank 0x22 = false from rfl), scanned]

theorem scanName_nameless (leads : Leads first lead) {name : List Piece}
    (nothing : text? name = none) :
    ∃ fault, scanName first (lead ++ (quoted name ++ rest)) = .error fault := by
  obtain ⟨fault, failed⟩ := scanText_meaningless nothing rest
  refine ⟨fault, ?_⟩
  rw [quoted_append]
  cases leads with
  | first blank =>
      rw [scanName, skipBlanks_blank_append blank rfl]
      simp [failed]
  | later blankBefore blankBehind =>
      rw [List.append_assoc, List.cons_append, scanName, skipBlanks_blank_append blankBefore rfl]
      simp [skipBlanks_blank_append blankBehind (show isBlank 0x22 = false from rfl), failed]

theorem scanName_blank_close {blanks : Octets} (blank : Blank blanks) :
    scanName first (blanks ++ 0x7D :: rest) = .ok (none, rest) := by
  rw [scanName, skipBlanks_blank_append blank rfl]
  rfl

theorem scanColon_blank {blanks : Octets} (blank : Blank blanks) :
    scanColon (blanks ++ 0x3A :: rest) = .ok rest := by
  rw [scanColon, skipBlanks_blank_append blank rfl]
  rfl

end Between

theorem Number.below_cases (number : Number) (kind : Kind) (bound : Nat) :
    (∃ value, ∀ left, number.below kind bound left = .ok (value, left)) ∨
      ∀ left, ∃ fault, number.below kind bound left = .error fault := by
  cases number with
  | natural value =>
      by_cases small : value < bound
      · exact .inl ⟨value, fun left => by rw [Number.below, if_pos small]⟩
      · exact .inr fun left => ⟨_, by rw [Number.below, if_neg small]⟩
  | negative magnitude => exact .inr fun left => ⟨_, rfl⟩
  | float bits => exact .inr fun left => ⟨_, rfl⟩

/-- A written number has one value or none, whatever ends it. -/
theorem Spelling.scanNumber_cases (spelling : Spelling) (negative : Bool) :
    (∃ number, ∀ {rest : Octets}, Ends rest →
        scanNumber negative (encodeChars spelling.chars ++ rest) = .ok (number, rest)) ∨
      ∀ {rest : Octets}, Ends rest →
        ∃ fault, scanNumber negative (encodeChars spelling.chars ++ rest) = .error fault := by
  cases judged : (spelling.numeral negative).value with
  | ok number =>
      refine .inl ⟨number, fun ends => ?_⟩
      simp only [scanNumber, spelling.scanNumeral_chars .endOfValue negative ends, judged]
  | error unread =>
      refine .inr fun {rest} ends => ⟨⟨.numberOutOfRange, rest.length + unread⟩, ?_⟩
      simp only [scanNumber, spelling.scanNumeral_chars .endOfValue negative ends, judged]

/-- From where on a number is scanned: from behind its sign, or from its first digit. -/
inductive ScannedFrom : Octets → Bool → Octets → Prop where
  | minus (rest : Octets) : ScannedFrom (0x2D :: rest) true rest
  | digit {first : UInt8} (digit : isDigit first = true) (rest : Octets) :
      ScannedFrom (first :: rest) false (first :: rest)

theorem ScannedFrom.visible {octets inner : Octets} {negative : Bool}
    (scanned : ScannedFrom octets negative inner) :
    ∃ first rest, octets = first :: rest ∧ isBlank first = false := by
  cases scanned with
  | minus rest => exact ⟨0x2D, inner, rfl, rfl⟩
  | digit digit rest => exact ⟨_, rest, rfl, isBlank_of_isDigit digit⟩

theorem readBelow_of_scannedFrom {kind : Kind} {bound : Nat} {document octets inner : Octets}
    {negative : Bool} (found : skipBlanks document = octets)
    (scanned : ScannedFrom octets negative inner) :
    readBelow kind bound document = (scanNumber negative inner).bind fun judged =>
      judged.1.below kind bound judged.2 := by
  cases scanned with
  | minus =>
      simp only [readBelow, found, if_true]
      cases scanNumber true inner <;> rfl
  | @digit first digit rest =>
      have notMinus : first ≠ 0x2D := ne_of_isDigit digit rfl
      simp only [readBelow, found, if_neg notMinus, if_pos digit]
      cases scanNumber false (first :: rest) <;> rfl

theorem readBelow_other {kind : Kind} {bound : Nat} {document rest : Octets} {first : UInt8}
    (found : skipBlanks document = first :: rest) (notMinus : first ≠ 0x2D)
    (notDigit : isDigit first = false) :
    ∃ fault, readBelow kind bound document = .error fault :=
  ⟨mismatch kind first rest, by simp [readBelow, found, notMinus, notDigit]⟩

namespace Reader

variable {α β : Type}

/-- A reader takes a value as something, however and wherever it is written. -/
def Takes (reader : Reader α) (tree : Tree) (value : α) : Prop :=
  ∀ ⦃octets blanks rest : Octets⦄, tree.Spells octets → Blank blanks → Ends rest →
    reader.run (blanks ++ (octets ++ rest)) = .ok (value, rest)

/-- A reader declines a value, however and wherever it is written. -/
def Declines (reader : Reader α) (tree : Tree) : Prop :=
  ∀ ⦃octets blanks rest : Octets⦄, tree.Spells octets → Blank blanks → Ends rest →
    ∃ fault, reader.run (blanks ++ (octets ++ rest)) = .error fault

/-- A reader takes a value or declines it. -/
def Judges (reader : Reader α) (tree : Tree) : Prop :=
  (∃ value, reader.Takes tree value) ∨ reader.Declines tree

section Judged

variable {reader : Reader α} {tree : Tree} {value : α}

theorem Takes.bare {octets rest : Octets} (takes : reader.Takes tree value)
    (spells : tree.Spells octets) (ends : Ends rest) :
    reader.run (octets ++ rest) = .ok (value, rest) := by
  have ran := takes spells blank_nil ends
  rwa [List.nil_append] at ran

theorem Declines.bare {octets rest : Octets} (declines : reader.Declines tree)
    (spells : tree.Spells octets) (ends : Ends rest) :
    ∃ fault, reader.run (octets ++ rest) = .error fault := by
  have ran := declines spells blank_nil ends
  rwa [List.nil_append] at ran

theorem Takes.unique (takes : reader.Takes tree value) {other : α}
    (again : reader.Takes tree other) : value = other := by
  have same := (takes.bare tree.spells_compact ends_nil).symm.trans
    (again.bare tree.spells_compact ends_nil)
  simpa using same

theorem Takes.not_declines (takes : reader.Takes tree value) : ¬ reader.Declines tree := by
  intro declines
  obtain ⟨fault, failed⟩ := declines.bare tree.spells_compact ends_nil
  rw [takes.bare tree.spells_compact ends_nil] at failed
  contradiction

theorem Takes.map (change : α → β) (takes : reader.Takes tree value) :
    (reader.map change).Takes tree (change value) := by
  intro octets blanks rest spells blank ends
  simp only [Reader.map, takes spells blank ends]

theorem Takes.exists_of_map {change : α → β} {changed : β}
    (takes : (reader.map change).Takes tree changed) : ∃ value, changed = change value := by
  have ran := takes.bare tree.spells_compact ends_nil
  simp only [Reader.map] at ran
  split at ran
  · contradiction
  · rename_i value rest _
    exact ⟨value, (congrArg Prod.fst (Except.ok.inj ran)).symm⟩

theorem Declines.map (change : α → β) (declines : reader.Declines tree) :
    (reader.map change).Declines tree := by
  intro octets blanks rest spells blank ends
  obtain ⟨fault, failed⟩ := declines spells blank ends
  exact ⟨fault, by simp only [Reader.map, failed]⟩

theorem Judges.map (change : α → β) (judges : reader.Judges tree) :
    (reader.map change).Judges tree := by
  rcases judges with ⟨value, takes⟩ | declines
  · exact .inl ⟨change value, takes.map change⟩
  · exact .inr (declines.map change)

theorem Judges.of_map {change : α → β} {changed : β} (judges : reader.Judges tree)
    (takes : (reader.map change).Takes tree changed) :
    ∃ value, reader.Takes tree value ∧ changed = change value := by
  rcases judges with ⟨value, taken⟩ | declines
  · exact ⟨value, taken, takes.unique (taken.map change)⟩
  · exact absurd (declines.map change) takes.not_declines

/-- Values that are taken alike are taken alike through a function. -/
theorem Judges.takes_map_of_same {change : α → β} {changed : β} {tree' : Tree}
    (judges : reader.Judges tree)
    (same : ∀ value, reader.Takes tree value → reader.Takes tree' value)
    (takes : (reader.map change).Takes tree changed) : (reader.map change).Takes tree' changed := by
  obtain ⟨value, taken, rfl⟩ := judges.of_map takes
  exact (same value taken).map change

theorem Takes.decode {document : Octets} (takes : reader.Takes tree value)
    (written : tree.Document document) : reader.decode document = .ok value := by
  obtain ⟨before, form, behind, blankBefore, spells, blankBehind, rfl⟩ := written
  have ends : Ends behind := by
    have blanks := ends_append blankBehind ends_nil
    rwa [List.append_nil] at blanks
  have nothing : skipBlanks behind = [] := by
    have skipped := skipBlanks_append blankBehind []
    rwa [List.append_nil] at skipped
  rw [Reader.decode, takes spells blankBefore ends]
  simp only [nothing]

theorem Declines.decode {document : Octets} (declines : reader.Declines tree)
    (written : tree.Document document) : ∃ error, reader.decode document = .error error := by
  obtain ⟨before, form, behind, blankBefore, spells, blankBehind, rfl⟩ := written
  have ends : Ends behind := by
    have blanks := ends_append blankBehind ends_nil
    rwa [List.append_nil] at blanks
  obtain ⟨fault, failed⟩ := declines spells blankBefore ends
  exact ⟨fault.place _, by rw [Reader.decode, failed]⟩

/-- A document that decodes as something is a value that is taken as that. -/
theorem Judges.takes_of_decode {document : Octets} (judges : reader.Judges tree)
    (written : tree.Document document) (decoded : reader.decode document = .ok value) :
    reader.Takes tree value := by
  rcases judges with ⟨found, takes⟩ | declines
  · have same := (takes.decode written).symm.trans decoded
    obtain rfl : found = value := by simpa using same
    exact takes
  · obtain ⟨error, failed⟩ := declines.decode written
    rw [failed] at decoded
    contradiction

/-- A document that is not a value that is taken does not decode. -/
theorem Judges.decode_of_not_takes {document : Octets} (judges : reader.Judges tree)
    (written : tree.Document document) (untaken : ¬ ∃ value, reader.Takes tree value) :
    ∃ error, reader.decode document = .error error := by
  rcases judges with taken | declines
  · exact absurd taken untaken
  · exact declines.decode written

/-- A reader that gives up at the first octet declines the value. -/
theorem declines_of_opens (refused : ∀ {document rest : Octets} {first : UInt8},
    tree.Opens first → skipBlanks document = first :: rest →
      ∃ fault, reader.run document = .error fault) : reader.Declines tree := by
  intro octets blanks rest spells blank _
  obtain ⟨first, more, rfl, opens⟩ := spells.opens
  rw [List.cons_append]
  exact refused opens (skipBlanks_blank_append blank opens.visible.1)

end Judged

theorem scannedFrom_spells {negative : Bool} {spelling : Spelling} {octets : Octets}
    (spells : (Tree.number negative spelling).Spells octets) (rest : Octets) :
    ScannedFrom (octets ++ rest) negative (encodeChars spelling.chars ++ rest) := by
  rw [spells]
  cases negative with
  | true => exact .minus _
  | false =>
      obtain ⟨first, more, written, digit⟩ := spelling.begins
      rw [if_neg (by decide), List.nil_append, written]
      exact .digit digit (more ++ rest)

/-- Where a natural number below a bound is due a number is judged by its value. -/
theorem judges_number {kind : Kind} {bound : Nat} {reader : Reader Nat}
    (run : reader.run = readBelow kind bound) (negative : Bool) (spelling : Spelling) :
    reader.Judges (.number negative spelling) := by
  have ran {octets blanks : Octets} (spells : (Tree.number negative spelling).Spells octets)
      (blank : Blank blanks) (rest : Octets) :
      reader.run (blanks ++ (octets ++ rest)) =
        (scanNumber negative (encodeChars spelling.chars ++ rest)).bind fun judged =>
          judged.1.below kind bound judged.2 := by
    have scanned := scannedFrom_spells spells rest
    obtain ⟨first, more, written, visible⟩ := scanned.visible
    rw [run]
    refine readBelow_of_scannedFrom ?_ scanned
    rw [written, skipBlanks_blank_append blank visible]
  rcases spelling.scanNumber_cases negative with ⟨found, scans⟩ | refuses
  · rcases found.below_cases kind bound with ⟨value, accepted⟩ | refused
    · refine .inl ⟨value, fun octets blanks rest spells blank ends => ?_⟩
      exact (ran spells blank rest).trans (by rw [scans ends]; exact accepted _)
    · refine .inr fun octets blanks rest spells blank ends => ?_
      obtain ⟨fault, failed⟩ := refused rest
      exact ⟨fault, (ran spells blank rest).trans (by rw [scans ends]; exact failed)⟩
  · refine .inr fun octets blanks rest spells blank ends => ?_
    obtain ⟨fault, failed⟩ := refuses ends
    exact ⟨fault, (ran spells blank rest).trans (by rw [failed]; rfl)⟩

theorem judges_readBelow {kind : Kind} {bound : Nat} {reader : Reader Nat}
    (run : reader.run = readBelow kind bound) (tree : Tree) : reader.Judges tree := by
  have other {tree : Tree} (notNumber : ∀ first, tree.Opens first →
      first ≠ 0x2D ∧ isDigit first = false) : reader.Judges tree := by
    refine .inr (declines_of_opens fun opens found => ?_)
    obtain ⟨notMinus, notDigit⟩ := notNumber _ opens
    rw [run]
    exact readBelow_other found notMinus notDigit
  cases tree with
  | number negative spelling => exact judges_number run negative spelling
  | boolean value => exact other (by rintro _ (rfl | rfl) <;> decide)
  | _ => exact other (by rintro _ rfl; decide)

theorem judges_word64 (tree : Tree) : Reader.word64.Judges tree :=
  Judges.map _ (judges_readBelow rfl tree)

theorem judges_word32 (tree : Tree) : Reader.word32.Judges tree :=
  Judges.map _ (judges_readBelow rfl tree)

theorem judges_boolean (tree : Tree) : Reader.boolean.Judges tree := by
  have other {tree : Tree} (notTrue : ¬ tree.Opens 0x74) (notFalse : ¬ tree.Opens 0x66) :
      Reader.boolean.Judges tree := by
    refine .inr (declines_of_opens fun {document rest first} opens found => ?_)
    refine ⟨mismatch .boolean first rest, ?_⟩
    show readBoolean document = _
    simp [readBoolean, found, opens.ne notTrue, opens.ne notFalse]
  cases tree with
  | boolean value =>
      refine .inl ⟨value, fun octets blanks rest spells blank ends => ?_⟩
      rw [spells]
      exact (Reads.boolean value).run blank ends
  | _ => exact other (by simp [Tree.Opens, isDigit]) (by simp [Tree.Opens, isDigit])

theorem takes_text {pieces : List Piece} {text : String} (spells : text? pieces = some text) :
    Reader.text.Takes (.text pieces) text := by
  intro octets blanks rest written blank _
  show readText _ = _
  rw [written, quoted_append, readText, skipBlanks_blank_append blank rfl]
  simp only [if_true, scanText_spelled spells]

theorem judges_text (tree : Tree) : Reader.text.Judges tree := by
  have other {tree : Tree} (notText : ¬ tree.Opens 0x22) : Reader.text.Judges tree := by
    refine .inr (declines_of_opens fun {document rest first} opens found => ?_)
    refine ⟨mismatch .text first rest, ?_⟩
    show readText document = _
    simp [readText, found, opens.ne notText]
  cases tree with
  | text pieces =>
      cases spells : text? pieces with
      | some text => exact .inl ⟨text, takes_text spells⟩
      | none =>
          refine .inr fun octets blanks rest written blank _ => ?_
          obtain ⟨fault, failed⟩ := scanText_meaningless spells rest
          refine ⟨fault, ?_⟩
          show readText _ = _
          rw [written, quoted_append, readText, skipBlanks_blank_append blank rfl]
          simp only [if_true, failed]
  | _ => exact other (by simp [Tree.Opens, isDigit])

/-- What may be absent is absent where nothing is written. -/
theorem takes_null (reader : Reader α) : (Reader.optional reader).Takes .null none := by
  intro octets blanks rest written blank _
  have word : encode "null" = [0x6E, 0x75, 0x6C, 0x6C] := rfl
  show readOptional reader _ = _
  rw [written, word, readOptional, List.cons_append, skipBlanks_blank_append blank rfl]
  rfl

theorem run_optional {reader : Reader α} {tree : Tree} (notNull : ¬ tree.Opens 0x6E)
    {octets blanks : Octets} (spells : tree.Spells octets) (blank : Blank blanks)
    (rest : Octets) :
    (Reader.optional reader).run (blanks ++ (octets ++ rest)) =
      (reader.run (blanks ++ (octets ++ rest))).map fun taken => (some taken.1, taken.2) := by
  obtain ⟨first, more, rfl, opens⟩ := spells.opens
  show readOptional reader _ = _
  rw [readOptional, List.cons_append, skipBlanks_blank_append blank opens.visible.1]
  split
  · rename_i same
    exact absurd (List.cons.inj same).1 (opens.ne notNull)
  · cases reader.run (blanks ++ first :: (more ++ rest)) with
    | error fault => rfl
    | ok taken => rfl

theorem Takes.optional {reader : Reader α} {tree : Tree} {value : α} (notNull : ¬ tree.Opens 0x6E)
    (takes : reader.Takes tree value) : (Reader.optional reader).Takes tree (some value) := by
  intro octets blanks rest spells blank ends
  rw [run_optional notNull spells blank, takes spells blank ends]
  rfl

theorem judges_optional {reader : Reader α} (judges : ∀ tree, reader.Judges tree) (tree : Tree) :
    (Reader.optional reader).Judges tree := by
  have other {tree : Tree} (notNull : ¬ tree.Opens 0x6E) :
      (Reader.optional reader).Judges tree := by
    rcases judges tree with ⟨value, takes⟩ | declines
    · exact .inl ⟨some value, takes.optional notNull⟩
    · refine .inr fun octets blanks rest spells blank ends => ?_
      obtain ⟨fault, failed⟩ := declines spells blank ends
      exact ⟨fault, by rw [run_optional notNull spells blank, failed]; rfl⟩
  cases tree with
  | null => exact .inl ⟨none, takes_null reader⟩
  | _ => exact other (by simp [Tree.Opens, isDigit])

end Reader

end Json

end SignIn
