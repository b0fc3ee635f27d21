import SignIn.Proofs.Text.Utf8
import SignIn.Json.Scan
import SignIn.Json.Printer

/-!
# Reading back texts

A printed text is read back whole, whatever follows its closing quote.  Inside the
quotes every character is handled on its own: an escaped one is undone, and all octets
of any other one stand for themselves.
-/

namespace SignIn

namespace Json

open Utf8

/-- Whether an octet stands for itself inside a text. -/
def isPlain (octet : UInt8) : Bool :=
  octet != 0x22 && octet != 0x5C && 0x20 ≤ octet

theorem skipBlanks_cons_of_not {octet : UInt8} (visible : isBlank octet = false)
    (rest : Octets) : skipBlanks (octet :: rest) = octet :: rest := by
  simp [skipBlanks, visible]

theorem skipBlanks_append {blanks : Octets} (all : ∀ octet ∈ blanks, isBlank octet = true)
    (rest : Octets) : skipBlanks (blanks ++ rest) = skipBlanks rest := by
  induction blanks with
  | nil => rfl
  | cons octet blanks ih =>
      have blank := all octet (by simp)
      have others := ih fun other member => all other (by simp [member])
      simpa [skipBlanks, blank] using others

theorem scanSpelled_quote (rest : Octets) : scanSpelled (0x22 :: rest) = .ok ([], rest) := by
  rw [scanSpelled]
  rfl

theorem scanSpelled_plain {octet : UInt8} {rest spelled left : Octets}
    (plain : isPlain octet = true) (scanned : scanSpelled rest = .ok (spelled, left)) :
    scanSpelled (octet :: rest) = .ok (octet :: spelled, left) := by
  simp only [isPlain, Bool.and_eq_true, bne_iff_ne, decide_eq_true_eq] at plain
  obtain ⟨⟨notQuote, notEscape⟩, notControl⟩ := plain
  rw [scanSpelled, if_neg notQuote, if_neg notEscape, if_neg (UInt8.not_lt.mpr notControl),
    scanned]

theorem scanSpelled_escape {rest escaped after spelled left : Octets}
    (undone : scanEscape rest = .ok (escaped, after))
    (scanned : scanSpelled after = .ok (spelled, left)) :
    scanSpelled (0x5C :: rest) = .ok (escaped ++ spelled, left) := by
  rw [scanSpelled, if_neg (by decide), if_pos rfl]
  split
  · simp_all
  · rename_i found rest' undone'
    rw [undone] at undone'
    simp only [Except.ok.injEq, Prod.mk.injEq] at undone'
    obtain ⟨rfl, rfl⟩ := undone'
    rw [scanned]

theorem scanSpelled_plain_append {plain rest spelled left : Octets}
    (all : ∀ octet ∈ plain, isPlain octet = true)
    (scanned : scanSpelled rest = .ok (spelled, left)) :
    scanSpelled (plain ++ rest) = .ok (plain ++ spelled, left) := by
  induction plain with
  | nil => exact scanned
  | cons octet plain ih =>
      have others := ih fun other member => all other (by simp [member])
      exact scanSpelled_plain (all octet (by simp)) others

/-- Every octet of a character that needs no escape stands for itself. -/
theorem isPlain_of_mem_encodeChar {character : Char} {octet : UInt8}
    (notQuote : character ≠ '"') (notEscape : character ≠ '\\')
    (notControl : 0x20 ≤ character.toNat) (member : octet ∈ encodeChar character) :
    isPlain octet = true := by
  have codeNotQuote : character.toNat ≠ 0x22 := fun same => notQuote (Char.toNat_inj.mp same)
  have codeNotEscape : character.toNat ≠ 0x5C := fun same =>
    notEscape (Char.toNat_inj.mp same)
  have valid : character.toNat < 0xD800 ∨
      (0xDFFF < character.toNat ∧ character.toNat < 0x110000) := character.valid
  suffices octet.toNat ≠ 0x22 ∧ octet.toNat ≠ 0x5C ∧ 0x20 ≤ octet.toNat by
    simpa [isPlain, ← UInt8.toNat_inj, UInt8.le_iff_toNat_le, and_assoc] using this
  unfold encodeChar at member
  generalize character.toNat = code at *
  simp only at member
  repeat' split at member
  all_goals
    simp only [List.mem_cons, List.not_mem_nil, or_false] at member
    rcases member with rfl | rfl | rfl | rfl <;> simp <;> omega

theorem hexValue?_hexDigit : ∀ value < 16,
    (hexDigit value).toNat < 0x80 ∧
      hexValue? (UInt8.ofNat (hexDigit value).toNat) = some value := by
  decide

theorem scanHex_hexDigits {value : Nat} (small : value < 0x100) (rest : Octets) :
    scanHex (encodeChars ['0', '0', hexDigit (value / 16), hexDigit (value % 16)] ++ rest) =
      .ok (value, rest) := by
  obtain ⟨highSmall, high⟩ := hexValue?_hexDigit (value / 16) (by omega)
  obtain ⟨lowSmall, low⟩ := hexValue?_hexDigit (value % 16) (by omega)
  have zero : hexValue? 0x30 = some 0 := rfl
  have digits : encodeChars ['0', '0', hexDigit (value / 16), hexDigit (value % 16)] =
      [0x30, 0x30, UInt8.ofNat (hexDigit (value / 16)).toNat,
        UInt8.ofNat (hexDigit (value % 16)).toNat] := by
    simp [encodeChar_of_lt highSmall, encodeChar_of_lt lowSmall,
      encodeChar_of_lt (show '0'.toNat < 0x80 by decide)]
  have whole : ((0 * 16 + 0) * 16 + value / 16) * 16 + value % 16 = value := by omega
  rw [digits]
  simp only [List.cons_append, List.nil_append, scanHex, zero, high, low, whole]

theorem scanEscape_control {character : Char} (control : character.toNat < 0x20)
    (rest : Octets) :
    scanEscape (0x75 :: (encodeChars ['0', '0', hexDigit (character.toNat / 16),
        hexDigit (character.toNat % 16)] ++ rest)) =
      .ok (encodeChar character, rest) := by
  have notTrailing : isTrailing character.toNat = false := by
    simp [isTrailing]
    omega
  have notLeading : isLeading character.toNat = false := by
    simp [isLeading]
    omega
  have notShort : shortEscape? 0x75 = none := rfl
  have scanned := scanHex_hexDigits (show character.toNat < 0x100 by omega) rest
  have pointed : scanCodePoint (encodeChars ['0', '0', hexDigit (character.toNat / 16),
      hexDigit (character.toNat % 16)] ++ rest) = .ok (character.toNat, rest) := by
    rw [scanCodePoint, scanned]
    simp only [notTrailing, notLeading, Bool.false_eq_true, if_false]
  simp only [scanEscape, notShort, if_true, pointed, Char.ofNat_toNat]

/-- What is written for one character inside a text is read as that character. -/
theorem scanSpelled_escape_append (character : Char) {rest spelled left : Octets}
    (scanned : scanSpelled rest = .ok (spelled, left)) :
    scanSpelled (encodeChars (escape character) ++ rest) =
      .ok (encodeChar character ++ spelled, left) := by
  unfold escape
  split
  case h_8 notQuote notEscape _ _ _ _ _ =>
    split
    case isTrue control =>
      exact scanSpelled_escape (scanEscape_control control rest) scanned
    case isFalse visible =>
      have plain : ∀ octet ∈ encodeChar character, isPlain octet = true := fun _ member =>
        isPlain_of_mem_encodeChar notQuote notEscape (by omega) member
      simpa using scanSpelled_plain_append plain scanned
  -- The escapes of one letter.
  all_goals exact scanSpelled_escape rfl scanned

theorem scanSpelled_escaped (characters : List Char) (rest : Octets) :
    scanSpelled (encodeChars (characters.flatMap escape) ++ 0x22 :: rest) =
      .ok (encodeChars characters, rest) := by
  induction characters with
  | nil => exact scanSpelled_quote rest
  | cons character characters ih =>
      simpa using scanSpelled_escape_append character ih

/-- A printed text begins with a quote, and what follows is read as the text. -/
theorem encode_printText (text : String) :
    encode (printText text) =
      0x22 :: encodeChars (text.toList.flatMap escape) ++ [0x22] := by
  have quote : encode "\"" = [0x22] := rfl
  unfold printText
  rw [encode_append, encode_append, quote, encode_ofList]
  rfl

theorem encode_printText_append (text : String) (rest : Octets) :
    encode (printText text) ++ rest =
      0x22 :: (encodeChars (text.toList.flatMap escape) ++ 0x22 :: rest) := by
  simp [encode_printText]

theorem scanText_escaped (text : String) (rest : Octets) :
    scanText (encodeChars (text.toList.flatMap escape) ++ 0x22 :: rest) =
      .ok (text, rest) := by
  have restored : decode? (encodeChars text.toList) = some text := decode?_encode text
  rw [scanText, scanSpelled_escaped]
  simp only [restored]

end Json

end SignIn
