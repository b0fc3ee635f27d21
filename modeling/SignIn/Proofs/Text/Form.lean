import SignIn.Proofs.Text.Utf8
import SignIn.Text.Form
import SignIn.Text.Trim

/-!
# Reading back form data

A text may be spelled in form data in many ways: each of its octets is escaped with digits
of either case, or is a space written as `+`, or is a character that stands for itself.
Every spelling is read as the text, and none has a character that separates parameters or
ends a query.
-/

namespace SignIn

namespace Form

open Utf8

def digit (upper : Bool) (value : Nat) : Char :=
  (if upper then "0123456789ABCDEF" else "0123456789abcdef").toList.getD value '0'

def isUnreserved (character : Char) : Bool :=
  character.isAlphanum || "-._~*".toList.contains character

/-- The ways of writing one octet. -/
inductive Writes : UInt8 → List Char → Prop
  | escape (octet : UInt8) (upperHigh upperLow : Bool) :
      Writes octet
        ['%', digit upperHigh (octet.toNat / 16), digit upperLow (octet.toNat % 16)]
  | plus : Writes 0x20 ['+']
  | itself {character : Char} (unreserved : isUnreserved character = true) :
      Writes (asciiOctet character) [character]

/-- A text is a spelling of octets if it writes one after the other. -/
inductive Spells : Octets → List Char → Prop
  | nil : Spells [] []
  | cons {octet : UInt8} {octets : Octets} {piece text : List Char}
      (written : Writes octet piece) (others : Spells octets text) :
      Spells (octet :: octets) (piece ++ text)

theorem ascii_of_isUnreserved {character : Char} (unreserved : isUnreserved character = true) :
    character.toNat < 0x80 ∧ Trim.isBlank character = false ∧
      character ∉ ['%', '+', '&', '=', '#', '?'] := by
  rcases Bool.or_eq_true_iff.mp unreserved with word | sign
  · have range := Utf8.toNat_of_isAlphanum word
    refine ⟨by omega, ?_, ?_⟩
    · simp [Trim.isBlank]
      omega
    · intro member
      simp only [List.mem_cons, List.not_mem_nil, or_false] at member
      rcases member with rfl | rfl | rfl | rfl | rfl | rfl <;> simp at range
  · have listed : character ∈ ['-', '.', '_', '~', '*'] := by simpa using sign
    simp only [List.mem_cons, List.not_mem_nil, or_false] at listed
    rcases listed with rfl | rfl | rfl | rfl | rfl <;> decide

theorem isUnreserved_digit (upper : Bool) {value : Nat} (small : value < 16) :
    isUnreserved (digit upper value) = true := by
  revert value upper
  decide

theorem Writes.isUnreserved_or {octet : UInt8} {piece : List Char}
    (written : Writes octet piece) :
    ∀ character ∈ piece, isUnreserved character = true ∨ character = '%' ∨ character = '+' := by
  intro character member
  cases written with
  | escape octet upperHigh upperLow =>
      have whole := octet.toNat_lt
      simp only [List.mem_cons, List.not_mem_nil, or_false] at member
      rcases member with rfl | rfl | rfl
      · exact .inr (.inl rfl)
      · exact .inl (isUnreserved_digit upperHigh (by omega))
      · exact .inl (isUnreserved_digit upperLow (by omega))
  | plus => exact .inr (.inr (List.mem_singleton.mp member))
  | itself unreserved =>
      rw [List.mem_singleton.mp member]
      exact .inl unreserved

theorem Spells.isUnreserved_or {octets : Octets} {text : List Char}
    (spelled : Spells octets text) :
    ∀ character ∈ text, isUnreserved character = true ∨ character = '%' ∨ character = '+' := by
  induction spelled with
  | nil => simp
  | cons written others ih =>
      intro character member
      rcases List.mem_append.mp member with first | later
      · exact written.isUnreserved_or character first
      · exact ih character later

/-- A spelling has neither blanks nor characters that separate or end parameters. -/
theorem Spells.solid {octets : Octets} {text : List Char} (spelled : Spells octets text) :
    (∀ character ∈ text, Trim.isBlank character = false) ∧
      '&' ∉ text ∧ '#' ∉ text ∧ '?' ∉ text := by
  have apart {mark : Char} (reserved : isUnreserved mark = false) (notPercent : mark ≠ '%')
      (notPlus : mark ≠ '+') : mark ∉ text := by
    intro member
    rcases spelled.isUnreserved_or mark member with unreserved | rfl | rfl
    · rw [reserved] at unreserved
      contradiction
    · contradiction
    · contradiction
  refine ⟨fun character member => ?_, apart rfl (by decide) (by decide),
    apart rfl (by decide) (by decide), apart rfl (by decide) (by decide)⟩
  rcases spelled.isUnreserved_or character member with unreserved | rfl | rfl
  · exact (ascii_of_isUnreserved unreserved).2.1
  · rfl
  · rfl

/-- An octet of form data before escapes are read: a plus is a space. -/
def spaced (octet : UInt8) : UInt8 :=
  if octet = 0x2B then 0x20 else octet

theorem decodePiece_eq (piece : Octets) :
    decodePiece piece = decodeLossy (Percent.decode (piece.map spaced)) :=
  rfl

theorem decode_cons_of_ne {octet : UInt8} (plain : octet ≠ 0x25) (rest : Octets) :
    Percent.decode (octet :: rest) = octet :: Percent.decode rest := by
  rcases rest with - | ⟨second, - | ⟨third, rest⟩⟩
  · rfl
  · rfl
  · rw [Percent.decode, if_neg plain]

theorem asciiOctet_digit (upper : Bool) (value : Nat) (small : value < 16) :
    (digit upper value).toNat < 0x80 ∧
      spaced (asciiOctet (digit upper value)) = asciiOctet (digit upper value) ∧
      Percent.hexValue? (asciiOctet (digit upper value)) = some (UInt8.ofNat value) := by
  revert value upper
  decide

theorem encodeChars_escape (octet : UInt8) (upperHigh upperLow : Bool) :
    let high := digit upperHigh (octet.toNat / 16)
    let low := digit upperLow (octet.toNat % 16)
    encodeChars ['%', high, low] = [0x25, asciiOctet high, asciiOctet low] ∧
      (encodeChars ['%', high, low]).map spaced = encodeChars ['%', high, low] := by
  intro high low
  have whole := octet.toNat_lt
  obtain ⟨highAscii, highSpaced, -⟩ := asciiOctet_digit upperHigh (octet.toNat / 16) (by omega)
  obtain ⟨lowAscii, lowSpaced, -⟩ := asciiOctet_digit upperLow (octet.toNat % 16) (by omega)
  have ascii : ∀ character ∈ ['%', high, low], character.toNat < 0x80 := by
    simp [high, low, highAscii, lowAscii]
  have octets : encodeChars ['%', high, low] = [0x25, asciiOctet high, asciiOctet low] :=
    encodeChars_of_ascii ascii
  refine ⟨octets, ?_⟩
  rw [octets]
  simp only [List.map_cons, List.map_nil, high, low, highSpaced, lowSpaced]
  rfl

theorem decode_escape (octet : UInt8) (upperHigh upperLow : Bool) (rest : Octets) :
    Percent.decode (encodeChars ['%', digit upperHigh (octet.toNat / 16),
      digit upperLow (octet.toNat % 16)] ++ rest) = octet :: Percent.decode rest := by
  have whole := octet.toNat_lt
  obtain ⟨-, -, highValue⟩ := asciiOctet_digit upperHigh (octet.toNat / 16) (by omega)
  obtain ⟨-, -, lowValue⟩ := asciiOctet_digit upperLow (octet.toNat % 16) (by omega)
  have value : UInt8.ofNat (octet.toNat / 16) * 16 + UInt8.ofNat (octet.toNat % 16) = octet := by
    rw [← UInt8.toNat_inj]
    simp
    omega
  rw [(encodeChars_escape octet upperHigh upperLow).1]
  show Percent.decode (0x25 :: _ :: _ :: rest) = _
  rw [Percent.decode, if_pos rfl, highValue, lowValue]
  simp only [value]

theorem Writes.decode {octet : UInt8} {piece : List Char} (written : Writes octet piece)
    (rest : Octets) :
    Percent.decode ((encodeChars piece).map spaced ++ rest) = octet :: Percent.decode rest := by
  cases written with
  | escape octet upperHigh upperLow =>
      rw [(encodeChars_escape octet upperHigh upperLow).2]
      exact decode_escape octet upperHigh upperLow rest
  | plus => exact decode_cons_of_ne (by decide) rest
  | @itself character unreserved =>
      obtain ⟨ascii, -, apart⟩ := ascii_of_isUnreserved unreserved
      have ne (mark : Char) (small : mark.toNat < 0x80) (reserved : character ≠ mark) :
          asciiOctet character ≠ asciiOctet mark := by
        intro same
        have value := toNat_asciiOctet ascii
        rw [same, toNat_asciiOctet small] at value
        exact reserved (Char.toNat_inj.mp value.symm)
      have notPlus : asciiOctet character ≠ 0x2B := ne '+' (by decide) (by simp_all)
      have notPercent : asciiOctet character ≠ 0x25 :=
        ne '%' (by decide) (by simp_all)
      rw [encodeChars_cons, encodeChar_of_lt ascii]
      show Percent.decode (spaced (asciiOctet character) :: rest) = _
      rw [spaced, if_neg notPlus, decode_cons_of_ne notPercent]

theorem Spells.decode {octets : Octets} {text : List Char} (spelled : Spells octets text) :
    Percent.decode ((encodeChars text).map spaced) = octets := by
  induction spelled with
  | nil => rfl
  | cons written others ih =>
      rw [encodeChars_append, List.map_append, written.decode, ih]

theorem Spells.decodePiece {token : String} {text : List Char}
    (spelled : Spells (encode token) text) : decodePiece (encodeChars text) = token := by
  rw [decodePiece_eq, spelled.decode, decodeLossy_encode]

end Form

end SignIn
