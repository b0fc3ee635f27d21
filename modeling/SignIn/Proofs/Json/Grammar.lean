import SignIn.Proofs.Json.Containers
import SignIn.Proofs.Json.Numeral

/-!
# Documents

A document is a value with blanks wherever they may stand.  The value is kept as it is written: its
texts piece by piece, its numbers digit by digit, and the members of its objects in their order;
only the blanks are left out.  A text may be written with escapes that are no characters: one half
of a pair stands alone.  Such a text can be skipped, but it has no meaning.
-/

namespace SignIn

namespace Json

open Utf8

def hexDigits : List Char :=
  "0123456789abcdefABCDEF".toList

def hexOf (digit : Char) : Nat :=
  if digit.isDigit then digit.toNat - 48
  else if digit.toNat < 97 then digit.toNat - 55
  else digit.toNat - 87

theorem hexValue?_digit : ∀ digit ∈ hexDigits,
    digit.toNat < 0x80 ∧ hexValue? (UInt8.ofNat digit.toNat) = some (hexOf digit) := by
  have all : hexDigits.all (fun digit => digit.toNat < 0x80 ∧
      hexValue? (UInt8.ofNat digit.toNat) = some (hexOf digit)) = true := by decide
  simpa only [List.all_eq_true, decide_eq_true_eq] using all

/-- Four digits that make a number. -/
structure Quad where
  first : Char
  second : Char
  third : Char
  fourth : Char
  hex : ∀ digit ∈ [first, second, third, fourth], digit ∈ hexDigits

namespace Quad

def value (quad : Quad) : Nat :=
  ((hexOf quad.first * 16 + hexOf quad.second) * 16 + hexOf quad.third) * 16 + hexOf quad.fourth

def octets (quad : Quad) : Octets :=
  encodeChars [quad.first, quad.second, quad.third, quad.fourth]

theorem scanHex_octets (quad : Quad) (rest : Octets) :
    scanHex (quad.octets ++ rest) = .ok (quad.value, rest) := by
  obtain ⟨first, second, third, fourth, hex⟩ := quad
  obtain ⟨firstSmall, firstValue⟩ := hexValue?_digit first (hex first (by simp))
  obtain ⟨secondSmall, secondValue⟩ := hexValue?_digit second (hex second (by simp))
  obtain ⟨thirdSmall, thirdValue⟩ := hexValue?_digit third (hex third (by simp))
  obtain ⟨fourthSmall, fourthValue⟩ := hexValue?_digit fourth (hex fourth (by simp))
  simp only [octets, encodeChars_cons, encodeChars_nil, encodeChar_of_lt firstSmall,
    encodeChar_of_lt secondSmall, encodeChar_of_lt thirdSmall, encodeChar_of_lt fourthSmall,
    List.cons_append, List.nil_append, scanHex, firstValue, secondValue, thirdValue, fourthValue]
  rfl

end Quad

/-- The letters of an escape and the characters that they stand for. -/
def shortEscapes : List (Char × Char) :=
  [('"', '"'), ('\\', '\\'), ('/', '/'), ('b', '\x08'), ('f', '\x0C'), ('n', '\n'), ('r', '\x0D'),
    ('t', '\t')]

theorem shortEscape?_letter : ∀ escape ∈ shortEscapes,
    escape.2.toNat < 0x80 ∧ shortEscape? (UInt8.ofNat escape.1.toNat) =
      some (UInt8.ofNat escape.2.toNat) := by
  have all : shortEscapes.all (fun escape => escape.2.toNat < 0x80 ∧
      shortEscape? (UInt8.ofNat escape.1.toNat) = some (UInt8.ofNat escape.2.toNat)) = true := by
    decide
  simpa only [List.all_eq_true, decide_eq_true_eq] using all

/-- A piece of a text: a character that stands for itself, an escape by a letter, or an escape by
a number. -/
inductive Piece where
  | plain (character : Char)
      (visible : character ≠ '"' ∧ character ≠ '\\' ∧ 0x20 ≤ character.toNat)
  | letter (escape : Char × Char) (known : escape ∈ shortEscapes)
  | number (quad : Quad)

namespace Piece

def octets : Piece → Octets
  | plain character _ => encodeChar character
  | letter escape _ => [0x5C, UInt8.ofNat escape.1.toNat]
  | number quad => 0x5C :: 0x75 :: quad.octets

end Piece

def spelled (pieces : List Piece) : Octets :=
  pieces.flatMap Piece.octets

/-- The characters that pieces stand for, if they all do.  Two halves of a pair that follow each
other are one character. -/
def meaning? : List Piece → Option (List Char)
  | [] => some []
  | .plain character _ :: pieces => (meaning? pieces).map (character :: ·)
  | .letter escape _ :: pieces => (meaning? pieces).map (escape.2 :: ·)
  | .number quad :: pieces =>
    if isTrailing quad.value then none
    else if isLeading quad.value then
      match pieces with
      | .number second :: pieces =>
        if isTrailing second.value then
          (meaning? pieces).map
            (Char.ofNat (0x10000 + (quad.value - 0xD800) * 0x400 + (second.value - 0xDC00)) :: ·)
        else none
      | _ => none
    else (meaning? pieces).map (Char.ofNat quad.value :: ·)

/-- The text that pieces spell. -/
def text? (pieces : List Piece) : Option String :=
  (meaning? pieces).map String.ofList

/-- Whether a character may stand for itself in a text. -/
def isVerbatim (character : Char) : Bool :=
  character ≠ '"' ∧ character ≠ '\\' ∧ 0x20 ≤ character.toNat

def verbatim (text : String) (plain : text.toList.all isVerbatim = true) : List Piece :=
  text.toList.pmap .plain fun character member => by
    simpa only [isVerbatim, decide_eq_true_eq] using List.all_eq_true.mp plain character member

theorem meaning?_plain {characters : List Char} (plain : ∀ character ∈ characters,
    character ≠ '"' ∧ character ≠ '\\' ∧ 0x20 ≤ character.toNat) :
    meaning? (characters.pmap .plain plain) = some characters := by
  induction characters with
  | nil => rfl
  | cons character characters ih =>
      rw [List.pmap_cons, meaning?, ih, Option.map_some]

theorem text?_verbatim {text : String} (plain : text.toList.all isVerbatim = true) :
    text? (verbatim text plain) = some text := by
  rw [text?, verbatim, meaning?_plain, Option.map_some, String.ofList_toList]

theorem spelled_cons (piece : Piece) (pieces : List Piece) (rest : Octets) :
    spelled (piece :: pieces) ++ rest = piece.octets ++ (spelled pieces ++ rest) := by
  rw [spelled, List.flatMap_cons, List.append_assoc, spelled]

theorem scanSpelled_plain_append_error {plain rest : Octets} {fault : Fault}
    (all : ∀ octet ∈ plain, isPlain octet = true) (failed : scanSpelled rest = .error fault) :
    scanSpelled (plain ++ rest) = .error fault := by
  induction plain with
  | nil => exact failed
  | cons octet plain ih =>
      have later := ih fun other member => all other (List.mem_cons_of_mem octet member)
      have stands := all octet (by simp)
      simp only [isPlain, Bool.and_eq_true, bne_iff_ne, decide_eq_true_eq] at stands
      obtain ⟨⟨notQuote, notEscape⟩, notControl⟩ := stands
      rw [List.cons_append, scanSpelled, if_neg notQuote, if_neg notEscape,
        if_neg (UInt8.not_lt.mpr notControl), later]

theorem scanSpelled_escape_error {rest after escaped : Octets} {fault : Fault}
    (undone : scanEscape rest = .ok (escaped, after)) (failed : scanSpelled after = .error fault) :
    scanSpelled (0x5C :: rest) = .error fault := by
  rw [scanSpelled, if_neg (by decide), if_pos rfl]
  split
  · simp_all
  · rename_i undone'
    rw [undone] at undone'
    obtain ⟨rfl, rfl⟩ : escaped = _ ∧ after = _ := by simpa using undone'
    rw [failed]

theorem scanSpelled_unescaped {rest : Octets} {fault : Fault}
    (failed : scanEscape rest = .error fault) :
    scanSpelled (0x5C :: rest) = .error fault := by
  rw [scanSpelled, if_neg (by decide), if_pos rfl]
  split <;> simp_all

theorem isPlain_of_visible {character : Char}
    (visible : character ≠ '"' ∧ character ≠ '\\' ∧ 0x20 ≤ character.toNat) :
    ∀ octet ∈ encodeChar character, isPlain octet = true := fun _ member =>
  isPlain_of_mem_encodeChar visible.1 visible.2.1 visible.2.2 member

theorem scanEscape_letter {escape : Char × Char} (known : escape ∈ shortEscapes)
    (rest : Octets) :
    scanEscape (UInt8.ofNat escape.1.toNat :: rest) = .ok (encodeChar escape.2, rest) := by
  obtain ⟨small, stands⟩ := shortEscape?_letter escape known
  rw [scanEscape, encodeChar_of_lt small]
  simp only [stands]

theorem scanEscape_number {value : Nat} {octets rest : Octets}
    (scanned : scanCodePoint octets = .ok (value, rest)) :
    scanEscape (0x75 :: octets) = .ok (encodeChar (Char.ofNat value), rest) := by
  have notShort : shortEscape? 0x75 = none := rfl
  simp only [scanEscape, notShort, if_true, scanned]

theorem scanCodePoint_single {quad : Quad} (notTrailing : ¬ isTrailing quad.value = true)
    (notLeading : ¬ isLeading quad.value = true) (rest : Octets) :
    scanCodePoint (quad.octets ++ rest) = .ok (quad.value, rest) := by
  rw [scanCodePoint, quad.scanHex_octets]
  simp only [if_neg notTrailing, if_neg notLeading]

theorem scanCodePoint_pair {quad second : Quad} (notTrailing : ¬ isTrailing quad.value = true)
    (leading : isLeading quad.value = true) (trailing : isTrailing second.value = true)
    (rest : Octets) :
    scanCodePoint (quad.octets ++ 0x5C :: 0x75 :: (second.octets ++ rest)) =
      .ok (0x10000 + (quad.value - 0xD800) * 0x400 + (second.value - 0xDC00), rest) := by
  rw [scanCodePoint, quad.scanHex_octets]
  simp only [if_neg notTrailing, if_pos leading, second.scanHex_octets, if_pos trailing]

theorem scanSpelled_spelled {pieces : List Piece} {characters : List Char}
    (means : meaning? pieces = some characters) (rest : Octets) :
    scanSpelled (spelled pieces ++ 0x22 :: rest) = .ok (encodeChars characters, rest) := by
  fun_induction meaning? pieces generalizing characters with
  | case1 =>
      obtain rfl := Option.some.inj means
      exact scanSpelled_quote rest
  | case2 character visible pieces ih =>
      obtain ⟨later, found, rfl⟩ := Option.map_eq_some_iff.mp means
      rw [spelled_cons, encodeChars_cons]
      exact scanSpelled_plain_append (isPlain_of_visible visible) (ih found)
  | case3 escape known pieces ih =>
      obtain ⟨later, found, rfl⟩ := Option.map_eq_some_iff.mp means
      rw [spelled_cons, encodeChars_cons]
      exact scanSpelled_escape (scanEscape_letter known _) (ih found)
  | case4 => contradiction
  | case5 quad notTrailing leading second pieces trailing ih =>
      obtain ⟨later, found, rfl⟩ := Option.map_eq_some_iff.mp means
      rw [spelled_cons, spelled_cons, encodeChars_cons]
      exact scanSpelled_escape
        (scanEscape_number (scanCodePoint_pair notTrailing leading trailing _)) (ih found)
  | case6 => contradiction
  | case7 => contradiction
  | case8 quad pieces notTrailing notLeading ih =>
      obtain ⟨later, found, rfl⟩ := Option.map_eq_some_iff.mp means
      rw [spelled_cons, encodeChars_cons]
      exact scanSpelled_escape
        (scanEscape_number (scanCodePoint_single notTrailing notLeading _)) (ih found)

/-- The second half of a pair is no character on its own. -/
theorem scanCodePoint_trailing {quad : Quad} (trailing : isTrailing quad.value = true)
    (rest : Octets) : ∃ fault, scanCodePoint (quad.octets ++ rest) = .error fault := by
  rw [scanCodePoint, quad.scanHex_octets]
  exact ⟨_, if_pos trailing⟩

/-- The first half of a pair is no character unless an escape by number follows. -/
theorem scanCodePoint_alone {quad : Quad} (notTrailing : ¬ isTrailing quad.value = true)
    (leading : isLeading quad.value = true) {rest : Octets}
    (alone : ∀ later, rest ≠ 0x5C :: 0x75 :: later) :
    ∃ fault, scanCodePoint (quad.octets ++ rest) = .error fault := by
  rw [scanCodePoint, quad.scanHex_octets]
  simp only [if_neg notTrailing, if_pos leading]
  split
  · exact ⟨_, rfl⟩
  · exact ⟨_, rfl⟩
  · exact absurd rfl (alone _)
  · exact ⟨_, rfl⟩
  · exact ⟨_, rfl⟩

/-- Two escapes by number make no pair unless the second one is a second half. -/
theorem scanCodePoint_unpaired {quad second : Quad} (notTrailing : ¬ isTrailing quad.value = true)
    (leading : isLeading quad.value = true) (unpaired : ¬ isTrailing second.value = true)
    (rest : Octets) :
    ∃ fault, scanCodePoint (quad.octets ++ 0x5C :: 0x75 :: (second.octets ++ rest)) =
      .error fault := by
  rw [scanCodePoint, quad.scanHex_octets]
  simp only [if_neg notTrailing, if_pos leading, second.scanHex_octets, if_neg unpaired]
  exact ⟨_, rfl⟩

theorem scanSpelled_unnumbered {octets : Octets}
    (failed : ∃ fault, scanCodePoint octets = .error fault) :
    ∃ fault, scanSpelled (0x5C :: 0x75 :: octets) = .error fault := by
  obtain ⟨fault, failed⟩ := failed
  have notShort : shortEscape? 0x75 = none := rfl
  refine ⟨fault, scanSpelled_unescaped ?_⟩
  simp only [scanEscape, notShort, if_true, failed]

theorem encodeChar_ne_nil (character : Char) : encodeChar character ≠ [] := by
  unfold encodeChar
  simp only
  repeat' split
  all_goals exact List.cons_ne_nil _ _

theorem spelled_ne_number {pieces : List Piece}
    (other : ∀ second later, pieces ≠ .number second :: later) (rest later : Octets) :
    spelled pieces ++ 0x22 :: rest ≠ 0x5C :: 0x75 :: later := by
  cases pieces with
  | nil =>
      intro same
      have first : (0x22 : UInt8) = 0x5C := (List.cons.inj same).1
      contradiction
  | cons piece pieces =>
      rw [spelled_cons]
      cases piece with
      | plain character visible =>
          intro same
          have member : (0x5C : UInt8) ∈ encodeChar character := by
            cases octets : encodeChar character with
            | nil => exact absurd octets (encodeChar_ne_nil character)
            | cons octet octets' =>
                rw [Piece.octets, octets, List.cons_append] at same
                rw [(List.cons.inj same).1]
                exact List.mem_cons_self
          have plain := isPlain_of_visible visible 0x5C member
          contradiction
      | letter escape known =>
          intro same
          have letter : UInt8.ofNat escape.1.toNat = 0x75 :=
            (List.cons.inj (List.cons.inj same).2).1
          have stands := (shortEscape?_letter escape known).2
          rw [letter] at stands
          contradiction
      | number quad => exact absurd rfl (other quad pieces)

theorem scanSpelled_meaningless {pieces : List Piece} (nothing : meaning? pieces = none)
    (rest : Octets) : ∃ fault, scanSpelled (spelled pieces ++ 0x22 :: rest) = .error fault := by
  fun_induction meaning? pieces with
  | case1 => contradiction
  | case2 character visible pieces ih =>
      obtain ⟨fault, failed⟩ := ih (Option.map_eq_none_iff.mp nothing)
      rw [spelled_cons]
      exact ⟨fault, scanSpelled_plain_append_error (isPlain_of_visible visible) failed⟩
  | case3 escape known pieces ih =>
      obtain ⟨fault, failed⟩ := ih (Option.map_eq_none_iff.mp nothing)
      rw [spelled_cons]
      exact ⟨fault, scanSpelled_escape_error (scanEscape_letter known _) failed⟩
  | case4 quad pieces trailing =>
      rw [spelled_cons]
      exact scanSpelled_unnumbered (scanCodePoint_trailing trailing _)
  | case5 quad notTrailing leading second pieces trailing ih =>
      obtain ⟨fault, failed⟩ := ih (Option.map_eq_none_iff.mp nothing)
      rw [spelled_cons, spelled_cons]
      exact ⟨fault, scanSpelled_escape_error
        (scanEscape_number (scanCodePoint_pair notTrailing leading trailing _)) failed⟩
  | case6 quad notTrailing leading second pieces unpaired =>
      rw [spelled_cons, spelled_cons]
      exact scanSpelled_unnumbered (scanCodePoint_unpaired notTrailing leading unpaired _)
  | case7 quad pieces notTrailing leading other =>
      rw [spelled_cons]
      refine scanSpelled_unnumbered (scanCodePoint_alone notTrailing leading fun later => ?_)
      exact spelled_ne_number (fun second later same => other second later same) rest later
  | case8 quad pieces notTrailing notLeading ih =>
      obtain ⟨fault, failed⟩ := ih (Option.map_eq_none_iff.mp nothing)
      rw [spelled_cons]
      exact ⟨fault, scanSpelled_escape_error
        (scanEscape_number (scanCodePoint_single notTrailing notLeading _)) failed⟩

theorem scanText_spelled {pieces : List Piece} {text : String} (spells : text? pieces = some text)
    (rest : Octets) : scanText (spelled pieces ++ 0x22 :: rest) = .ok (text, rest) := by
  obtain ⟨characters, means, rfl⟩ := Option.map_eq_some_iff.mp spells
  have restored : decode? (encodeChars characters) = some (String.ofList characters) := by
    rw [← encode_ofList]
    exact decode?_encode _
  rw [scanText, scanSpelled_spelled means]
  simp only [restored]

theorem scanText_meaningless {pieces : List Piece} (nothing : text? pieces = none)
    (rest : Octets) : ∃ fault, scanText (spelled pieces ++ 0x22 :: rest) = .error fault := by
  obtain ⟨fault, failed⟩ := scanSpelled_meaningless (Option.map_eq_none_iff.mp nothing) rest
  exact ⟨fault, by rw [scanText, failed]⟩

theorem ne_of_isDigit {first other : UInt8} (digit : isDigit first = true)
    (notDigit : isDigit other = false) : first ≠ other := by
  rintro rfl
  rw [digit] at notDigit
  contradiction

theorem isBlank_of_isDigit {first : UInt8} (digit : isDigit first = true) :
    isBlank first = false := by
  simp only [isBlank, Bool.or_eq_false_iff, decide_eq_false_iff_not]
  exact ⟨⟨⟨ne_of_isDigit digit rfl, ne_of_isDigit digit rfl⟩, ne_of_isDigit digit rfl⟩,
    ne_of_isDigit digit rfl⟩

/-- A value as it is written, apart from blanks. -/
inductive Tree where
  | null
  | boolean (value : Bool)
  | number (negative : Bool) (spelling : Spelling)
  | text (pieces : List Piece)
  | list (items : List Tree)
  | object (members : List (List Piece × Tree))

/-- The name of a member and its value. -/
abbrev Member :=
  List Piece × Tree

/-- What stands in front of an item or a member: blanks, with a comma among them unless it is the
first one. -/
inductive Leads : Bool → Octets → Prop where
  | first {blanks : Octets} (blank : Blank blanks) : Leads true blanks
  | later {before behind : Octets} (blankBefore : Blank before) (blankBehind : Blank behind) :
      Leads false (before ++ 0x2C :: behind)

def quoted (pieces : List Piece) : Octets :=
  0x22 :: (spelled pieces ++ [0x22])

theorem quoted_append (name : List Piece) (rest : Octets) :
    quoted name ++ rest = 0x22 :: (spelled name ++ 0x22 :: rest) := by
  simp [quoted]

theorem ends_lead {lead rest : Octets} (leads : Leads false lead) : Ends (lead ++ rest) := by
  cases leads with
  | later blankBefore _ =>
      rw [List.append_assoc]
      exact ends_append blankBefore (ends_cons rfl _)

namespace Tree

mutual

/-- The octets that a value can be written with. -/
def Spells : Tree → Octets → Prop
  | null, octets => octets = encode "null"
  | boolean value, octets => octets = encode (printBoolean value)
  | number negative spelling, octets =>
    octets = (if negative then [0x2D] else []) ++ encodeChars spelling.chars
  | text pieces, octets => octets = quoted pieces
  | list items, octets => ∃ inside, octets = 0x5B :: inside ∧ SpellsItems items true inside
  | object members, octets =>
    ∃ inside, octets = 0x7B :: inside ∧ SpellsMembers members true inside

/-- The octets of items, the first one or later ones, up to the closing bracket. -/
def SpellsItems : List Tree → Bool → Octets → Prop
  | [], _, octets => ∃ blanks, Blank blanks ∧ octets = blanks ++ [0x5D]
  | item :: items, first, octets => ∃ lead form later, Leads first lead ∧ Spells item form ∧
      SpellsItems items false later ∧ octets = lead ++ (form ++ later)

/-- The octets of members, the first one or later ones, up to the closing bracket. -/
def SpellsMembers : List (List Piece × Tree) → Bool → Octets → Prop
  | [], _, octets => ∃ blanks, Blank blanks ∧ octets = blanks ++ [0x7D]
  | (name, value) :: members, first, octets => ∃ lead before behind form later,
      Leads first lead ∧ Blank before ∧ Blank behind ∧ Spells value form ∧
      SpellsMembers members false later ∧
      octets = lead ++ (quoted name ++ (before ++ 0x3A :: (behind ++ (form ++ later))))

end

/-- A document is a value with blanks around it. -/
def Document (tree : Tree) (document : Octets) : Prop :=
  ∃ before form behind, Blank before ∧ tree.Spells form ∧ Blank behind ∧
    document = before ++ (form ++ behind)

mutual

def compact : Tree → Octets
  | null => encode "null"
  | boolean value => encode (printBoolean value)
  | number negative spelling =>
    (if negative then [0x2D] else []) ++ encodeChars spelling.chars
  | text pieces => quoted pieces
  | list items => 0x5B :: compactItems items true
  | object members => 0x7B :: compactMembers members true

def compactItems : List Tree → Bool → Octets
  | [], _ => [0x5D]
  | item :: items, first =>
    (if first then [] else [0x2C]) ++ (compact item ++ compactItems items false)

def compactMembers : List (List Piece × Tree) → Bool → Octets
  | [], _ => [0x7D]
  | (name, value) :: members, first =>
    (if first then [] else [0x2C]) ++
      (quoted name ++ 0x3A :: (compact value ++ compactMembers members false))

end

theorem leads_comma (first : Bool) : Leads first (if first then [] else [0x2C]) := by
  cases first with
  | true => exact .first blank_nil
  | false => exact .later blank_nil blank_nil

mutual

theorem spells_compact : ∀ tree : Tree, tree.Spells tree.compact
  | null => rfl
  | boolean _ => rfl
  | number _ _ => rfl
  | text _ => rfl
  | list items => ⟨compactItems items true, rfl, spells_compactItems items true⟩
  | object members => ⟨compactMembers members true, rfl, spells_compactMembers members true⟩

theorem spells_compactItems : ∀ (items : List Tree) (first : Bool),
    SpellsItems items first (compactItems items first)
  | [], _ => ⟨[], blank_nil, rfl⟩
  | item :: items, first =>
    ⟨_, _, _, leads_comma first, spells_compact item, spells_compactItems items false, rfl⟩

theorem spells_compactMembers : ∀ (members : List (List Piece × Tree)) (first : Bool),
    SpellsMembers members first (compactMembers members first)
  | [], _ => ⟨[], blank_nil, rfl⟩
  | (_, value) :: members, first =>
    ⟨_, [], [], _, _, leads_comma first, blank_nil, blank_nil, spells_compact value,
      spells_compactMembers members false, rfl⟩

end

theorem document_compact (tree : Tree) {before behind : Octets} (blankBefore : Blank before)
    (blankBehind : Blank behind) : tree.Document (before ++ (tree.compact ++ behind)) :=
  ⟨before, tree.compact, behind, blankBefore, tree.spells_compact, blankBehind, rfl⟩

theorem ends_items {items : List Tree} {octets : Octets} (spells : SpellsItems items false octets)
    (rest : Octets) : Ends (octets ++ rest) := by
  cases items with
  | nil =>
      obtain ⟨blanks, blank, rfl⟩ := spells
      rw [List.append_assoc]
      exact ends_append blank (ends_cons rfl _)
  | cons item items =>
      obtain ⟨lead, form, later, leads, _, _, rfl⟩ := spells
      rw [List.append_assoc]
      exact ends_lead leads

theorem ends_members {members : List Member} {octets : Octets}
    (spells : SpellsMembers members false octets) (rest : Octets) : Ends (octets ++ rest) := by
  cases members with
  | nil =>
      obtain ⟨blanks, blank, rfl⟩ := spells
      rw [List.append_assoc]
      exact ends_append blank (ends_cons rfl _)
  | cons member members =>
      obtain ⟨name, value⟩ := member
      obtain ⟨lead, before, behind, form, later, leads, _, _, _, _, rfl⟩ := spells
      rw [List.append_assoc]
      exact ends_lead leads

theorem members_append {lead before behind form later : Octets} (name : List Piece)
    (rest : Octets) :
    lead ++ (quoted name ++ (before ++ 0x3A :: (behind ++ (form ++ later)))) ++ rest =
      lead ++ (quoted name ++ (before ++ 0x3A :: (behind ++ (form ++ (later ++ rest))))) := by
  simp

/-- The octets that a value can begin with. -/
def Opens : Tree → UInt8 → Prop
  | null, first => first = 0x6E
  | boolean _, first => first = 0x74 ∨ first = 0x66
  | number _ _, first => first = 0x2D ∨ isDigit first = true
  | text _, first => first = 0x22
  | list _, first => first = 0x5B
  | object _, first => first = 0x7B

theorem Opens.visible {tree : Tree} {first : UInt8} (opens : tree.Opens first) :
    isBlank first = false ∧ first ≠ 0x5D ∧ first ≠ 0x2C := by
  cases tree with
  | null => exact opens ▸ ⟨rfl, by decide, by decide⟩
  | boolean value => rcases opens with rfl | rfl <;> exact ⟨rfl, by decide, by decide⟩
  | number negative spelling =>
      rcases opens with rfl | digit
      · exact ⟨rfl, by decide, by decide⟩
      · exact ⟨isBlank_of_isDigit digit, ne_of_isDigit digit rfl, ne_of_isDigit digit rfl⟩
  | text pieces => exact opens ▸ ⟨rfl, by decide, by decide⟩
  | list items => exact opens ▸ ⟨rfl, by decide, by decide⟩
  | object members => exact opens ▸ ⟨rfl, by decide, by decide⟩

theorem Spells.opens {tree : Tree} {octets : Octets} (spells : tree.Spells octets) :
    ∃ first rest, octets = first :: rest ∧ tree.Opens first := by
  cases tree with
  | null => exact ⟨0x6E, [0x75, 0x6C, 0x6C], spells, rfl⟩
  | boolean value =>
      cases value with
      | true => exact ⟨0x74, [0x72, 0x75, 0x65], spells, .inl rfl⟩
      | false => exact ⟨0x66, [0x61, 0x6C, 0x73, 0x65], spells, .inr rfl⟩
  | number negative spelling =>
      obtain ⟨first, rest, written, digit⟩ := spelling.begins
      cases negative with
      | true => exact ⟨0x2D, encodeChars spelling.chars, spells, .inl rfl⟩
      | false => exact ⟨first, rest, spells.trans written, .inr digit⟩
  | text pieces => exact ⟨0x22, _, spells, rfl⟩
  | list items =>
      obtain ⟨inside, rfl, _⟩ := spells
      exact ⟨0x5B, inside, rfl, rfl⟩
  | object members =>
      obtain ⟨inside, rfl, _⟩ := spells
      exact ⟨0x7B, inside, rfl, rfl⟩

theorem Opens.ne {tree : Tree} {first octet : UInt8} (opens : tree.Opens first)
    (shut : ¬ tree.Opens octet) : first ≠ octet := by
  rintro rfl
  exact shut opens

end Tree

end Json

end SignIn
