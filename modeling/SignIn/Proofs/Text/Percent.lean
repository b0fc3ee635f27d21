import SignIn.Proofs.Text.Form
import Mathlib.Data.List.Forall2

/-!
# Escapes in paths

A text may be spelled in a segment of a path in many ways: each of its octets is escaped with
digits of either case, or is a character of ASCII that may stand for itself there.  Unlike in
form data a plus is a plus.  Undoing the escapes of any spelling gives the text, and no
spelling has a character that ends the segment.
-/

namespace SignIn

namespace Percent

open Utf8

def isLiteral (character : Char) : Bool :=
  character.isAlphanum || "-._~!$&'()*+,;=:@".toList.contains character

/-- The ways of writing one octet. -/
inductive Writes : UInt8 → List Char → Prop
  | escape (octet : UInt8) (upperHigh upperLow : Bool) :
      Writes octet
        ['%', Form.digit upperHigh (octet.toNat / 16), Form.digit upperLow (octet.toNat % 16)]
  | itself {character : Char} (literal : isLiteral character = true) :
      Writes (asciiOctet character) [character]

/-- A text is a spelling of octets if it writes one after the other. -/
def Spells (octets : Octets) (text : List Char) : Prop :=
  ∃ pieces, List.Forall₂ Writes octets pieces ∧ text = pieces.flatten

theorem ascii_of_isLiteral {character : Char} (literal : isLiteral character = true) :
    character.toNat < 0x80 ∧ character ≠ '%' := by
  rcases Bool.or_eq_true_iff.mp literal with word | mark
  · have range := toNat_of_isAlphanum word
    exact ⟨by omega, by rintro rfl; contradiction⟩
  · have marks : "-._~!$&'()*+,;=:@".toList.all
        (fun mark => mark.toNat < 0x80 && mark != '%') = true := by decide
    simpa using List.all_eq_true.mp marks character (List.contains_iff_mem.mp mark)

theorem isLiteral_digit (upper : Bool) {value : Nat} (small : value < 16) :
    isLiteral (Form.digit upper value) = true := by
  revert value upper
  decide

theorem Writes.isLiteral_or {octet : UInt8} {piece : List Char} (written : Writes octet piece) :
    ∀ character ∈ piece, isLiteral character = true ∨ character = '%' := by
  intro character member
  cases written with
  | escape octet upperHigh upperLow =>
      have whole := octet.toNat_lt
      simp only [List.mem_cons, List.not_mem_nil, or_false] at member
      rcases member with rfl | rfl | rfl
      · exact .inr rfl
      · exact .inl (isLiteral_digit upperHigh (by omega))
      · exact .inl (isLiteral_digit upperLow (by omega))
  | itself literal =>
      rw [List.mem_singleton.mp member]
      exact .inl literal

theorem Writes.ne_nil {octet : UInt8} {piece : List Char} (written : Writes octet piece) :
    piece ≠ [] := by
  cases written <;> simp

namespace Spells

variable {octets : Octets} {text : List Char}

/-- A spelling has none of the characters that end a segment. -/
theorem solid (spelled : Spells octets text) : '/' ∉ text ∧ '?' ∉ text := by
  obtain ⟨pieces, written, rfl⟩ := spelled
  have characters : ∀ character ∈ pieces.flatten, isLiteral character = true ∨ character = '%' := by
    induction written with
    | nil => simp
    | cons first _ ih =>
        intro character member
        rw [List.flatten_cons] at member
        rcases List.mem_append.mp member with here | later
        · exact first.isLiteral_or character here
        · exact ih character later
  exact ⟨fun slash => absurd (characters '/' slash) (by decide),
    fun mark => absurd (characters '?' mark) (by decide)⟩

theorem ne_nil (spelled : Spells octets text) (nonempty : octets ≠ []) : text ≠ [] := by
  obtain ⟨pieces, written, rfl⟩ := spelled
  cases written with
  | nil => contradiction
  | cons first _ => simp [first.ne_nil]

end Spells

theorem Writes.decode {octet : UInt8} {piece : List Char} (written : Writes octet piece)
    (rest : Octets) :
    Percent.decode (encodeChars piece ++ rest) = octet :: Percent.decode rest := by
  cases written with
  | escape octet upperHigh upperLow => exact Form.decode_escape octet upperHigh upperLow rest
  | @itself character literal =>
      obtain ⟨ascii, apart⟩ := ascii_of_isLiteral literal
      have notPercent : asciiOctet character ≠ 0x25 := by
        intro same
        have value := toNat_asciiOctet ascii
        rw [same] at value
        have mark : '%' = character := Char.toNat_inj.mp value
        exact apart mark.symm
      rw [encodeChars_cons, encodeChar_of_lt ascii]
      exact Form.decode_cons_of_ne notPercent rest

/-- Undoing the escapes of a spelling gives what it spells. -/
theorem Spells.decode {octets : Octets} {text : List Char} (spelled : Spells octets text) :
    Percent.decode (encodeChars text) = octets := by
  obtain ⟨pieces, written, rfl⟩ := spelled
  induction written with
  | nil => rfl
  | cons first _ ih => rw [List.flatten_cons, encodeChars_append, first.decode, ih]

/-- Octets begin with an escape. -/
def BeginsEscape (octets : Octets) : Prop :=
  ∃ high low rest highValue lowValue, octets = 0x25 :: high :: low :: rest ∧
    hexValue? high = some highValue ∧ hexValue? low = some lowValue

/-- No escape begins anywhere in octets. -/
def IsUnescaped (octets : Octets) : Prop :=
  ∀ behind, behind <:+ octets → ¬ BeginsEscape behind

theorem decode_of_hex {high low highValue lowValue : UInt8}
    (isHigh : hexValue? high = some highValue)
    (isLow : hexValue? low = some lowValue) (rest : Octets) :
    decode (0x25 :: high :: low :: rest) = (highValue * 16 + lowValue) :: decode rest := by
  rw [decode, if_pos rfl, isHigh, isLow]

theorem decode_cons_of_not_begins {octet : UInt8} {rest : Octets}
    (free : ¬ BeginsEscape (octet :: rest)) : decode (octet :: rest) = octet :: decode rest := by
  by_cases percent : octet = 0x25
  · subst percent
    rcases rest with - | ⟨high, - | ⟨low, rest⟩⟩
    · rfl
    · rfl
    · rw [decode, if_pos rfl]
      split
      · rename_i highValue lowValue isHigh isLow
        exact absurd ⟨high, low, rest, highValue, lowValue, rfl, isHigh, isLow⟩ free
      · rfl
  · exact Form.decode_cons_of_ne percent rest

/-- Octets are read from the front, an escape at a time or else one octet. -/
theorem reading_induction {motive : Octets → Prop} (nil : motive [])
    (escape : ∀ high low rest highValue lowValue, hexValue? high = some highValue →
      hexValue? low = some lowValue → motive rest → motive (0x25 :: high :: low :: rest))
    (itself : ∀ octet rest, ¬ BeginsEscape (octet :: rest) → motive rest →
      motive (octet :: rest)) (octets : Octets) : motive octets := by
  match octets with
  | [] => exact nil
  | octet :: rest =>
      by_cases begins : BeginsEscape (octet :: rest)
      · obtain ⟨high, low, later, highValue, lowValue, written, isHigh, isLow⟩ := begins
        rw [written]
        exact escape high low later highValue lowValue isHigh isLow
          (reading_induction nil escape itself later)
      · exact itself octet rest begins (reading_induction nil escape itself rest)
termination_by octets.length
decreasing_by
  · simp [written]
    omega
  · simp

theorem length_decode_le (octets : Octets) : (decode octets).length ≤ octets.length := by
  induction octets using reading_induction with
  | nil => exact Nat.le_refl 0
  | escape high low rest highValue lowValue isHigh isLow ih =>
      rw [decode_of_hex isHigh isLow]
      simp only [List.length_cons]
      omega
  | itself octet rest free ih =>
      rw [decode_cons_of_not_begins free]
      exact Nat.succ_le_succ ih

/-- Octets are read as they stand exactly if no escape is among them. -/
theorem decode_eq_self_iff {octets : Octets} : decode octets = octets ↔ IsUnescaped octets := by
  induction octets using reading_induction with
  | nil =>
      refine iff_of_true rfl fun behind suffix => ?_
      rintro ⟨high, low, rest, highValue, lowValue, rfl, -⟩
      simp at suffix
  | escape high low rest highValue lowValue isHigh isLow ih =>
      refine iff_of_false (fun same => ?_) fun unescaped => unescaped _ (List.suffix_refl _)
        ⟨high, low, rest, highValue, lowValue, rfl, isHigh, isLow⟩
      rw [decode_of_hex isHigh isLow] at same
      have lengths := congrArg List.length same
      have short := length_decode_le rest
      simp only [List.length_cons] at lengths
      omega
  | itself octet rest free ih =>
      rw [decode_cons_of_not_begins free, List.cons.injEq, ih]
      constructor
      · rintro ⟨-, unescaped⟩ behind suffix
        rcases List.suffix_cons_iff.mp suffix with rfl | later
        · exact free
        · exact unescaped behind later
      · intro unescaped
        exact ⟨rfl, fun behind suffix =>
          unescaped behind (suffix.trans (List.suffix_cons octet rest))⟩

theorem decode_of_not_mem {octets : Octets} (absent : 0x25 ∉ octets) : decode octets = octets := by
  refine decode_eq_self_iff.mpr fun behind suffix => ?_
  rintro ⟨high, low, rest, highValue, lowValue, rfl, -⟩
  exact absent (suffix.subset List.mem_cons_self)

section Encode

variable {escaped : UInt8 → Bool}

theorem encode_cons (octet : UInt8) (rest : Octets) :
    encode escaped (octet :: rest) =
      (if escaped octet then escape octet else [octet]) ++ encode escaped rest :=
  rfl

theorem decode_escape (octet : UInt8) (rest : Octets) :
    decode (escape octet ++ rest) = octet :: decode rest := by
  have digits : ∀ code < 256, hexValue? (hexDigit (UInt8.ofNat code / 16)) =
        some (UInt8.ofNat code / 16) ∧
      hexValue? (hexDigit (UInt8.ofNat code % 16)) = some (UInt8.ofNat code % 16) := by
    decide +kernel
  obtain ⟨isHigh, isLow⟩ := digits octet.toNat octet.toNat_lt
  rw [UInt8.ofNat_toNat] at isHigh isLow
  have whole : octet / 16 * 16 + octet % 16 = octet := by
    rw [← UInt8.toNat_inj]
    have small := octet.toNat_lt
    simp
    omega
  show decode (0x25 :: hexDigit (octet / 16) :: hexDigit (octet % 16) :: rest) = _
  rw [decode_of_hex isHigh isLow, whole]

theorem eq_cons_of_encode {octets later : Octets} {digit value : UInt8}
    (isDigit : hexValue? digit = some value) (encoded : encode escaped octets = digit :: later) :
    ∃ rest, octets = digit :: rest ∧ encode escaped rest = later := by
  cases octets with
  | nil => contradiction
  | cons octet rest =>
      rw [encode_cons] at encoded
      split at encoded
      · obtain ⟨rfl, -⟩ := List.cons.inj encoded
        contradiction
      · obtain ⟨rfl, same⟩ := List.cons.inj encoded
        exact ⟨rest, rfl, same⟩

/-- Escaping octets that are of no escape changes nothing of what is read. -/
theorem decode_encode (percent : escaped 0x25 = false)
    (digits : ∀ digit value, hexValue? digit = some value → escaped digit = false)
    (octets : Octets) : decode (encode escaped octets) = decode octets := by
  induction octets using reading_induction with
  | nil => rfl
  | escape high low rest highValue lowValue isHigh isLow ih =>
      rw [encode_cons, encode_cons, encode_cons, percent, digits high highValue isHigh,
        digits low lowValue isLow]
      show decode (0x25 :: high :: low :: encode escaped rest) = _
      rw [decode_of_hex isHigh isLow, decode_of_hex isHigh isLow, ih]
  | itself octet rest free ih =>
      rw [encode_cons, decode_cons_of_not_begins free]
      split
      · rw [decode_escape, ih]
      · have stillFree : ¬ BeginsEscape (octet :: encode escaped rest) := by
          rintro ⟨high, low, later, highValue, lowValue, written, isHigh, isLow⟩
          obtain ⟨rfl, afterPercent⟩ := List.cons.inj written
          obtain ⟨more, rfl, afterHigh⟩ := eq_cons_of_encode isHigh afterPercent
          obtain ⟨behind, rfl, -⟩ := eq_cons_of_encode isLow afterHigh
          exact free ⟨high, low, behind, highValue, lowValue, rfl, isHigh, isLow⟩
        rw [List.singleton_append, decode_cons_of_not_begins stillFree, ih]

end Encode

end Percent

end SignIn
