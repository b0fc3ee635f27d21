import SignIn.Proofs.Json.Grammar

/-!
# Skipping written values

Whatever is written can be skipped: a text by its closing quote, a number by the octet that
ends it, and a list or an object by skipping one after the other what stands inside, however
deep the brackets nest.
-/

namespace SignIn

namespace Json

open Utf8

theorem skipText_quote (rest : Octets) : skipText (0x22 :: rest) = .ok rest := by
  rw [skipText]
  rfl

theorem skipText_plain {octet : UInt8} (plain : isPlain octet = true) (rest : Octets) :
    skipText (octet :: rest) = skipText rest := by
  simp only [isPlain, Bool.and_eq_true, bne_iff_ne, decide_eq_true_eq] at plain
  obtain ⟨⟨notQuote, notEscape⟩, notControl⟩ := plain
  rw [skipText, if_neg notQuote, if_neg notEscape, if_neg (UInt8.not_lt.mpr notControl)]

theorem skipText_escape {rest after : Octets} (skipped : skipEscape rest = .ok after) :
    skipText (0x5C :: rest) = skipText after := by
  rw [skipText, if_neg (by decide), if_pos rfl]
  split
  · simp_all
  · rename_i skipped'
    rw [skipped] at skipped'
    obtain rfl : after = _ := by simpa using skipped'
    rfl

theorem skipText_plain_append {plain : Octets} (all : ∀ octet ∈ plain, isPlain octet = true)
    (rest : Octets) : skipText (plain ++ rest) = skipText rest := by
  induction plain with
  | nil => rfl
  | cons octet plain ih =>
      rw [List.cons_append, skipText_plain (all octet (by simp))]
      exact ih fun other member => all other (by simp [member])

/-- Pieces are skipped whether or not they stand for characters. -/
theorem skipText_spelled (pieces : List Piece) (rest : Octets) :
    skipText (spelled pieces ++ 0x22 :: rest) = .ok rest := by
  induction pieces with
  | nil => exact skipText_quote rest
  | cons piece pieces ih =>
      rw [spelled_cons]
      cases piece with
      | plain character visible =>
          exact (skipText_plain_append (isPlain_of_visible visible) _).trans ih
      | letter escape known =>
          have skipped : skipEscape (UInt8.ofNat escape.1.toNat ::
              (spelled pieces ++ 0x22 :: rest)) = .ok (spelled pieces ++ 0x22 :: rest) := by
            rw [skipEscape, (shortEscape?_letter escape known).2]
            rfl
          exact (skipText_escape skipped).trans ih
      | number quad =>
          have skipped : skipEscape (0x75 :: (quad.octets ++ (spelled pieces ++ 0x22 :: rest))) =
              .ok (spelled pieces ++ 0x22 :: rest) := by
            have notShort : (shortEscape? 0x75).isSome = false := rfl
            rw [skipEscape, notShort, quad.scanHex_octets]
            rfl
          exact (skipText_escape skipped).trans ih

/-- Where a value is due its first octet decides. -/
theorem skipInside_of_found {brackets : List Bracket} {octets rest : Octets} {first : UInt8}
    (found : skipBlanks octets = first :: rest) :
    skipInside brackets octets =
      if first = 0x5B then skipAfter (.list :: brackets) false rest
      else if first = 0x7B then skipAfter (.object :: brackets) false rest
      else
        match skipScalar first rest with
        | .error fault => .error fault
        | .ok rest => skipAfter brackets true rest := by
  rw [skipInside]
  split
  · simp_all
  · rename_i found'
    rw [found] at found'
    obtain ⟨rfl, rfl⟩ := List.cons.inj found'
    split
    · rfl
    · split
      · rfl
      · split <;> simp_all

theorem skipInside_scalar {brackets : List Bracket} {blanks octets rest : Octets} {first : UInt8}
    (blank : Blank blanks) (visible : isBlank first = false) (notList : first ≠ 0x5B)
    (notObject : first ≠ 0x7B) (skipped : skipScalar first octets = .ok rest) :
    skipInside brackets (blanks ++ first :: octets) = skipAfter brackets true rest := by
  rw [skipInside_of_found (skipBlanks_blank_append blank visible), if_neg notList,
    if_neg notObject, skipped]

/-- Behind an opening bracket or a value the next octet decides. -/
theorem skipAfter_of_found {bracket : Bracket} {outer : List Bracket} {value : Bool}
    {octets rest : Octets} {first : UInt8} (found : skipBlanks octets = first :: rest) :
    skipAfter (bracket :: outer) value octets =
      if first = 0x2C && value then
        match skipName bracket rest with
        | .error fault => .error fault
        | .ok rest => skipInside (bracket :: outer) rest
      else if first = bracket.closing then skipAfter outer true rest
      else if value then .error (.onNext bracket.unclosed (first :: rest))
      else
        match skipName bracket (first :: rest) with
        | .error fault => .error fault
        | .ok rest => skipInside (bracket :: outer) rest := by
  rw [skipAfter]
  split
  · simp_all
  · rename_i found'
    rw [found] at found'
    obtain ⟨rfl, rfl⟩ := List.cons.inj found'
    split
    · split <;> simp_all
    · split
      · rfl
      · split
        · rfl
        · split <;> simp_all

theorem skipScalar_minus {octets rest : Octets} {numeral : Numeral}
    (scanned : scanNumeral .invalidNumber true octets = .ok (numeral, rest)) :
    skipScalar 0x2D octets = .ok rest := by
  rw [skipScalar, if_neg (by decide), if_neg (by decide), if_neg (by decide), if_pos rfl, scanned]
  rfl

theorem skipScalar_digit {first : UInt8} {octets rest : Octets} {numeral : Numeral}
    (digit : isDigit first = true)
    (scanned : scanNumeral .invalidNumber false (first :: octets) = .ok (numeral, rest)) :
    skipScalar first octets = .ok rest := by
  rw [skipScalar, if_neg (ne_of_isDigit digit rfl), if_neg (ne_of_isDigit digit rfl),
    if_neg (ne_of_isDigit digit rfl), if_neg (ne_of_isDigit digit rfl), if_pos digit, scanned]
  rfl

namespace Tree

theorem skipAfter_item {outer : List Bracket} {first : Bool} {lead octets : Octets}
    {octet : UInt8} (leads : Leads first lead) (visible : isBlank octet = false)
    (notEnd : octet ≠ 0x5D) {after : Except Fault Octets}
    (inside : ∀ {blanks}, Blank blanks →
      skipInside (.list :: outer) (blanks ++ octet :: octets) = after) :
    skipAfter (.list :: outer) (!first) (lead ++ octet :: octets) = after := by
  cases leads with
  | first blank =>
      rw [skipAfter_of_found (skipBlanks_blank_append blank visible)]
      have there := inside blank_nil
      rw [List.nil_append] at there
      simpa [Bracket.closing, notEnd, skipName] using there
  | later blankBefore blankBehind =>
      rw [List.append_assoc, List.cons_append,
        skipAfter_of_found (skipBlanks_blank_append blankBefore rfl)]
      simpa [skipName] using inside blankBehind

theorem skipName_quoted {blanks before : Octets} (blank : Blank blanks)
    (blankBefore : Blank before) (name : List Piece) (rest : Octets) :
    skipName .object (blanks ++ (quoted name ++ (before ++ 0x3A :: rest))) = .ok rest := by
  rw [quoted_append, skipName, skipBlanks_blank_append blank rfl]
  simp [skipText_spelled, skipBlanks_blank_append blankBefore (show isBlank 0x3A = false from rfl)]

theorem skipAfter_member {outer : List Bracket} {first : Bool} {lead before octets : Octets}
    (leads : Leads first lead) (blankBefore : Blank before) (name : List Piece)
    {after : Except Fault Octets} (inside : skipInside (.object :: outer) octets = after) :
    skipAfter (.object :: outer) (!first)
      (lead ++ (quoted name ++ (before ++ 0x3A :: octets))) = after := by
  cases leads with
  | first blank =>
      have named := skipName_quoted blank_nil blankBefore name octets
      rw [quoted_append, List.nil_append] at named
      rw [quoted_append, skipAfter_of_found (skipBlanks_blank_append blank rfl)]
      simpa [Bracket.closing, named] using inside
  | later blankStart blankBehind =>
      rw [List.append_assoc, List.cons_append,
        skipAfter_of_found (skipBlanks_blank_append blankStart rfl)]
      simpa [skipName_quoted blankBehind blankBefore] using inside

mutual

/-- Every value is skipped as one, whatever brackets are open around it. -/
theorem skips : ∀ (tree : Tree) {octets : Octets}, tree.Spells octets →
    ∀ (brackets : List Bracket) {blanks rest : Octets}, Blank blanks → Ends rest →
      skipInside brackets (blanks ++ (octets ++ rest)) = skipAfter brackets true rest
  | null, _, spells, brackets, _, _, blank, _ => by
      rw [spells]
      exact skipInside_scalar blank rfl (by decide) (by decide) rfl
  | boolean value, _, spells, brackets, _, _, blank, _ => by
      rw [spells]
      cases value with
      | true => exact skipInside_scalar blank rfl (by decide) (by decide) rfl
      | false => exact skipInside_scalar blank rfl (by decide) (by decide) rfl
  | number negative spelling, _, spells, brackets, _, rest, blank, ends => by
      have scanned := spelling.scanNumeral_chars .invalidNumber negative ends
      rw [spells]
      cases negative with
      | true => exact skipInside_scalar blank rfl (by decide) (by decide) (skipScalar_minus scanned)
      | false =>
          obtain ⟨first, octets, written, digit⟩ := spelling.begins
          rw [written] at scanned
          rw [if_neg (by decide), List.nil_append, written]
          exact skipInside_scalar blank (isBlank_of_isDigit digit) (ne_of_isDigit digit rfl)
            (ne_of_isDigit digit rfl) (skipScalar_digit digit scanned)
  | text pieces, _, spells, brackets, _, rest, blank, _ => by
      have skipped : skipScalar 0x22 (spelled pieces ++ 0x22 :: rest) = .ok rest :=
        skipText_spelled pieces rest
      rw [spells, quoted_append]
      exact skipInside_scalar blank rfl (by decide) (by decide) skipped
  | list items, _, spells, brackets, _, rest, blank, _ => by
      obtain ⟨inside, rfl, written⟩ := spells
      rw [List.cons_append, skipInside_of_found (skipBlanks_blank_append blank rfl), if_pos rfl]
      exact skips_items items written brackets rest
  | object members, _, spells, brackets, _, rest, blank, _ => by
      obtain ⟨inside, rfl, written⟩ := spells
      rw [List.cons_append, skipInside_of_found (skipBlanks_blank_append blank rfl),
        if_neg (by decide), if_pos rfl]
      exact skips_members members written brackets rest

theorem skips_items : ∀ (items : List Tree) {first : Bool} {octets : Octets},
    SpellsItems items first octets → ∀ (outer : List Bracket) (rest : Octets),
      skipAfter (.list :: outer) (!first) (octets ++ rest) = skipAfter outer true rest
  | [], _, _, spells, outer, rest => by
      obtain ⟨blanks, blank, rfl⟩ := spells
      rw [List.append_assoc, List.singleton_append,
        skipAfter_of_found (skipBlanks_blank_append blank rfl)]
      rfl
  | item :: items, _, _, spells, outer, rest => by
      obtain ⟨lead, form, later, leads, written, others, rfl⟩ := spells
      obtain ⟨first, more, begins, opens⟩ := written.opens
      obtain ⟨visible, notEnd, _⟩ := opens.visible
      have inside {blanks : Octets} (blank : Blank blanks) :=
        (skips item written (.list :: outer) blank (ends_items others rest)).trans
          (skips_items items others outer rest)
      rw [begins, List.cons_append] at inside
      rw [List.append_assoc, List.append_assoc, begins, List.cons_append]
      exact skipAfter_item leads visible notEnd inside

theorem skips_members : ∀ (members : List Member) {first : Bool} {octets : Octets},
    SpellsMembers members first octets → ∀ (outer : List Bracket) (rest : Octets),
      skipAfter (.object :: outer) (!first) (octets ++ rest) = skipAfter outer true rest
  | [], _, _, spells, outer, rest => by
      obtain ⟨blanks, blank, rfl⟩ := spells
      rw [List.append_assoc, List.singleton_append,
        skipAfter_of_found (skipBlanks_blank_append blank rfl)]
      rfl
  | (name, value) :: members, _, _, spells, outer, rest => by
      obtain ⟨lead, before, behind, form, later, leads, blankBefore, blankBehind, written, others,
        rfl⟩ := spells
      rw [members_append]
      exact skipAfter_member leads blankBefore name
        ((skips value written (.object :: outer) blankBehind (ends_members others rest)).trans
          (skips_members members others outer rest))

end

theorem skipValue_of_spells {tree : Tree} {octets blanks rest : Octets}
    (spells : tree.Spells octets) (blank : Blank blanks) (ends : Ends rest) :
    skipValue (blanks ++ (octets ++ rest)) = .ok rest := by
  have skipped := tree.skips spells [] blank ends
  rwa [skipAfter] at skipped

end Tree

end Json

end SignIn
