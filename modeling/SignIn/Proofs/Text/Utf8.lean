import SignIn.Text.Utf8

/-!
# Reading back what was encoded

The strict reading of octets undoes the encoding of text.  The octets of one character
are taken off the front of any octets, whatever follows, and so the octets of a whole
text are read character by character.
-/

namespace SignIn

namespace Utf8

@[simp]
theorem encodeChars_nil : encodeChars [] = [] :=
  rfl

@[simp]
theorem encodeChars_cons (character : Char) (characters : List Char) :
    encodeChars (character :: characters) =
      encodeChar character ++ encodeChars characters := by
  simp [encodeChars]

@[simp]
theorem encodeChars_append (first second : List Char) :
    encodeChars (first ++ second) = encodeChars first ++ encodeChars second := by
  simp [encodeChars]

@[simp]
theorem encode_append (first second : String) :
    encode (first ++ second) = encode first ++ encode second := by
  simp [encode]

@[simp]
theorem encode_ofList (characters : List Char) :
    encode (String.ofList characters) = encodeChars characters := by
  simp [encode]

theorem encodeChar_of_lt {character : Char} (ascii : character.toNat < 0x80) :
    encodeChar character = [UInt8.ofNat character.toNat] := by
  simp [encodeChar, ascii]

def asciiOctet (character : Char) : UInt8 :=
  UInt8.ofNat character.toNat

theorem toNat_asciiOctet {character : Char} (ascii : character.toNat < 0x80) :
    (asciiOctet character).toNat = character.toNat := by
  rw [asciiOctet, UInt8.toNat_ofNat']
  omega

theorem toNat_of_isAlphanum {character : Char} (word : character.isAlphanum = true) :
    (48 ≤ character.toNat ∧ character.toNat ≤ 57) ∨
      (65 ≤ character.toNat ∧ character.toNat ≤ 90) ∨
      (97 ≤ character.toNat ∧ character.toNat ≤ 122) := by
  have ranges : character.isAlphanum =
      ((decide (65 ≤ character.val ∧ character.val ≤ 90) ||
        (decide (97 ≤ character.val) && decide (character.val ≤ 122))) ||
          (decide (48 ≤ character.val) && decide (character.val ≤ 57))) := rfl
  simp only [ranges, Bool.or_eq_true, Bool.and_eq_true, decide_eq_true_eq,
    UInt32.le_iff_toNat_le] at word
  rcases word with (upper | lower) | digit
  · exact .inr (.inl upper)
  · exact .inr (.inr lower)
  · exact .inl digit

theorem encodeChars_of_ascii {text : List Char}
    (ascii : ∀ character ∈ text, character.toNat < 0x80) :
    encodeChars text = text.map asciiOctet := by
  induction text with
  | nil => rfl
  | cons character text ih =>
      rw [encodeChars_cons, encodeChar_of_lt (ascii character (by simp)),
        ih fun other member => ascii other (by simp [member])]
      rfl

theorem isTail_iff (octet : UInt8) :
    isTail octet = true ↔ 0x80 ≤ octet.toNat ∧ octet.toNat ≤ 0xBF := by
  simp [isTail, UInt8.le_iff_toNat_le]

private theorem toNat_ofNat_of_lt {value : Nat} (small : value < 256) :
    (UInt8.ofNat value).toNat = value := by
  simp [Nat.mod_eq_of_lt small]

theorem step_of_one {code : Nat} {octet : UInt8} {rest : Octets}
    (most : code < 0x80) (value : octet.toNat = code) :
    step (octet :: rest) = some (some (Char.ofNat code), rest) := by
  have small : octet < 0x80 := by
    rw [UInt8.lt_iff_toNat_lt, value]
    exact most
  rw [step.eq_def]
  simp only [if_pos small, value]

theorem step_of_two {code : Nat} {first second : UInt8} {rest : Octets}
    (least : 0x80 ≤ code) (most : code < 0x800)
    (firstValue : first.toNat = 0xC0 + code / 64)
    (secondValue : second.toNat = 0x80 + code % 64) :
    step (first :: second :: rest) = some (some (Char.ofNat code), rest) := by
  have notOne : ¬ first < 0x80 := by
    simp [UInt8.lt_iff_toNat_lt, firstValue]
    omega
  have leads : (0xC2 ≤ first && first ≤ 0xDF) = true := by
    simp [UInt8.le_iff_toNat_le, firstValue]
    omega
  have tail : isTail second = true := by
    rw [isTail_iff]
    omega
  have value : (first.toNat - 0xC0) * 64 + payload second = code := by
    unfold payload
    omega
  rw [step.eq_def]
  simp only [if_neg notOne, if_pos leads, if_pos tail, value]

theorem step_of_three {code : Nat} {first second third : UInt8} {rest : Octets}
    (least : 0x800 ≤ code) (most : code < 0x10000)
    (valid : code < 0xD800 ∨ 0xDFFF < code)
    (firstValue : first.toNat = 0xE0 + code / 4096)
    (secondValue : second.toNat = 0x80 + code / 64 % 64)
    (thirdValue : third.toNat = 0x80 + code % 64) :
    step (first :: second :: third :: rest) = some (some (Char.ofNat code), rest) := by
  have notOne : ¬ first < 0x80 := by
    simp [UInt8.lt_iff_toNat_lt, firstValue]
    omega
  have notTwo : ¬ (0xC2 ≤ first && first ≤ 0xDF) = true := by
    simp [UInt8.le_iff_toNat_le, firstValue]
    omega
  have leads : (0xE0 ≤ first && first ≤ 0xEF) = true := by
    simp [UInt8.le_iff_toNat_le, firstValue]
    omega
  -- Neither an overlong form nor a surrogate can arise from a valid code.
  have follows : isSecondOfThree first second = true := by
    simp only [isSecondOfThree, isTail, ← UInt8.toNat_inj, UInt8.le_iff_toNat_le, firstValue,
      secondValue]
    simp
    split
    · omega
    · split <;> omega
  have tail : isTail third = true := by
    rw [isTail_iff]
    omega
  have value :
      (first.toNat - 0xE0) * 4096 + payload second * 64 + payload third = code := by
    unfold payload
    omega
  rw [step.eq_def]
  simp only [if_neg notOne, if_neg notTwo, if_pos leads, if_pos follows, if_pos tail, value]

theorem step_of_four {code : Nat} {first second third fourth : UInt8} {rest : Octets}
    (least : 0x10000 ≤ code) (most : code < 0x110000)
    (firstValue : first.toNat = 0xF0 + code / 262144)
    (secondValue : second.toNat = 0x80 + code / 4096 % 64)
    (thirdValue : third.toNat = 0x80 + code / 64 % 64)
    (fourthValue : fourth.toNat = 0x80 + code % 64) :
    step (first :: second :: third :: fourth :: rest) =
      some (some (Char.ofNat code), rest) := by
  have notOne : ¬ first < 0x80 := by
    simp [UInt8.lt_iff_toNat_lt, firstValue]
    omega
  have notTwo : ¬ (0xC2 ≤ first && first ≤ 0xDF) = true := by
    simp [UInt8.le_iff_toNat_le, firstValue]
    omega
  have notThree : ¬ (0xE0 ≤ first && first ≤ 0xEF) = true := by
    simp [UInt8.le_iff_toNat_le, firstValue]
    omega
  have leads : (0xF0 ≤ first && first ≤ 0xF4) = true := by
    simp [UInt8.le_iff_toNat_le, firstValue]
    omega
  have follows : isSecondOfFour first second = true := by
    simp only [isSecondOfFour, isTail, ← UInt8.toNat_inj, UInt8.le_iff_toNat_le, firstValue,
      secondValue]
    simp
    split
    · omega
    · split <;> omega
  have third_isTail : isTail third = true := by
    rw [isTail_iff]
    omega
  have fourth_isTail : isTail fourth = true := by
    rw [isTail_iff]
    omega
  have value :
      (first.toNat - 0xF0) * 262144 + payload second * 4096 + payload third * 64 +
        payload fourth = code := by
    unfold payload
    omega
  rw [step.eq_def]
  simp only [if_neg notOne, if_neg notTwo, if_neg notThree, if_pos leads, if_pos follows,
    if_pos third_isTail, if_pos fourth_isTail, value]

theorem step_encodeChar_append (character : Char) (rest : Octets) :
    step (encodeChar character ++ rest) = some (some character, rest) := by
  -- A character is no surrogate and lies within the range of all characters.
  have valid : character.toNat < 0xD800 ∨
      (0xDFFF < character.toNat ∧ character.toNat < 0x110000) := character.valid
  conv => rhs; rw [← Char.ofNat_toNat character]
  unfold encodeChar
  generalize character.toNat = code at valid
  simp only
  split
  · exact step_of_one (by omega) (toNat_ofNat_of_lt (by omega))
  · split
    · exact step_of_two (by omega) (by omega) (toNat_ofNat_of_lt (by omega))
        (toNat_ofNat_of_lt (by omega))
    · split
      · exact step_of_three (by omega) (by omega) (by omega) (toNat_ofNat_of_lt (by omega))
          (toNat_ofNat_of_lt (by omega)) (toNat_ofNat_of_lt (by omega))
      · exact step_of_four (by omega) (by omega) (toNat_ofNat_of_lt (by omega))
          (toNat_ofNat_of_lt (by omega)) (toNat_ofNat_of_lt (by omega))
          (toNat_ofNat_of_lt (by omega))

theorem decodeChars?_encodeChars (characters : List Char) :
    decodeChars? (encodeChars characters) = some characters := by
  induction characters with
  | nil =>
      rw [decodeChars?.eq_def]
      rfl
  | cons character characters ih =>
      have stepped := step_encodeChar_append character (encodeChars characters)
      rw [encodeChars_cons, decodeChars?.eq_def]
      split
      · simp_all
      · simp_all
      · rename_i found rest stepsTo
        rw [stepped] at stepsTo
        simp only [Option.some.injEq, Prod.mk.injEq] at stepsTo
        obtain ⟨rfl, rfl⟩ := stepsTo
        simp [ih]

/-- The octets of a text encode that text. -/
@[simp]
theorem decode?_encode (text : String) : decode? (encode text) = some text := by
  simp [decode?, encode, decodeChars?_encodeChars]

theorem encode_inj {first second : String} (same : encode first = encode second) :
    first = second := by
  have decoded := decode?_encode first
  rw [same, decode?_encode] at decoded
  exact (Option.some.inj decoded).symm

theorem decodeCharsLossy_encodeChars (characters : List Char) :
    decodeCharsLossy (encodeChars characters) = characters := by
  induction characters with
  | nil =>
      rw [decodeCharsLossy.eq_def]
      rfl
  | cons character characters ih =>
      have stepped := step_encodeChar_append character (encodeChars characters)
      rw [encodeChars_cons, decodeCharsLossy.eq_def]
      split
      · simp_all
      · rename_i found rest stepsTo
        rw [stepped] at stepsTo
        simp only [Option.some.injEq, Prod.mk.injEq] at stepsTo
        obtain ⟨rfl, rfl⟩ := stepsTo
        rw [ih, Option.getD_some]

/-- Where nothing is broken the lenient reading replaces nothing. -/
@[simp]
theorem decodeLossy_encode (text : String) : decodeLossy (encode text) = text := by
  simp [decodeLossy, encode, decodeCharsLossy_encodeChars]

/-- An octet of ASCII stands in the octets of a text only where its character does. -/
theorem mem_of_asciiOctet_mem (character : Char) (ascii : character.toNat < 0x80)
    {text : List Char} (member : asciiOctet character ∈ encodeChars text) :
    character ∈ text := by
  obtain ⟨other, inText, inOctets⟩ := List.mem_flatMap.mp member
  have value := toNat_asciiOctet ascii
  have valid : other.toNat < 0x110000 := by
    rcases other.valid with low | high
    · exact Nat.lt_trans low (by decide)
    · exact high.2
  suffices same : other.toNat = character.toNat by
    rwa [← Char.toNat_inj.mp same]
  -- All octets of a longer form have their first bit set.
  unfold encodeChar at inOctets
  generalize asciiOctet character = octet at value inOctets
  generalize other.toNat = code at valid inOctets ⊢
  have bits {number : Nat} (small : number < 256) (same : octet = UInt8.ofNat number) :
      number = character.toNat := by
    rw [← value, same, toNat_ofNat_of_lt small]
  simp only at inOctets
  split at inOctets
  · exact bits (by omega) (List.mem_singleton.mp inOctets)
  · split at inOctets
    · simp only [List.mem_cons, List.not_mem_nil, or_false] at inOctets
      rcases inOctets with same | same <;> have := bits (by omega) same <;> omega
    · split at inOctets
      · simp only [List.mem_cons, List.not_mem_nil, or_false] at inOctets
        rcases inOctets with same | same | same <;> have := bits (by omega) same <;> omega
      · simp only [List.mem_cons, List.not_mem_nil, or_false] at inOctets
        rcases inOctets with same | same | same | same <;>
          have := bits (by omega) same <;> omega

end Utf8

end SignIn
