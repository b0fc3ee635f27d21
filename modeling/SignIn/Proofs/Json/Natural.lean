import SignIn.Proofs.Text.Utf8
import SignIn.Json.Number
import SignIn.Json.Printer

/-!
# Reading back natural numbers

A natural number below `2 ^ 64` is written with all its digits and no leading zero.
Whatever does not go on with the number may follow: the digits are taken off the front
and gathered into the number again.
-/

namespace SignIn

namespace Json

open Utf8

/-- Whether an octet can go on with a number whose digits stand before it. -/
def continuesNumber (octet : UInt8) : Bool :=
  isDigit octet || octet == 0x2E || octet == 0x65 || octet == 0x45

/-- What follows does not go on with a number. -/
def Ends (rest : Octets) : Prop :=
  ∀ octet ∈ rest.head?, continuesNumber octet = false

theorem ends_nil : Ends [] := by
  intro octet member
  simp at member

theorem ends_cons {octet : UInt8} (stops : continuesNumber octet = false) (rest : Octets) :
    Ends (octet :: rest) := by
  intro other member
  rw [List.head?_cons, Option.mem_some_iff] at member
  rw [← member, stops]

def digitOctet (digit : Char) : UInt8 :=
  UInt8.ofNat digit.toNat

def digitValue (digit : Char) : Nat :=
  digit.toNat - '0'.toNat

theorem toNat_of_isDigit {digit : Char} (decimal : digit.isDigit = true) :
    48 ≤ digit.toNat ∧ digit.toNat ≤ 57 := by
  simpa [Char.isDigit, UInt32.le_iff_toNat_le] using decimal

theorem ascii_of_isDigit {digit : Char} (decimal : digit.isDigit = true) : digit.toNat < 0x80 :=
  Nat.lt_of_le_of_lt (toNat_of_isDigit decimal).2 (by decide)

theorem toNat_digitOctet {digit : Char} (decimal : digit.isDigit = true) :
    (digitOctet digit).toNat = digit.toNat :=
  toNat_asciiOctet (ascii_of_isDigit decimal)

theorem isDigit_digitOctet {digit : Char} (decimal : digit.isDigit = true) :
    isDigit (digitOctet digit) = true := by
  simpa [isDigit, UInt8.le_iff_toNat_le, toNat_digitOctet decimal] using toNat_of_isDigit decimal

theorem encodeChars_digits {digits : List Char}
    (decimal : ∀ digit ∈ digits, digit.isDigit = true) :
    encodeChars digits = digits.map digitOctet :=
  encodeChars_of_ascii fun digit member => ascii_of_isDigit (decimal digit member)

def DigitsEnd (rest : Octets) : Prop :=
  ∀ octet ∈ rest.head?, isDigit octet = false

theorem Ends.digitsEnd {rest : Octets} (ends : Ends rest) : DigitsEnd rest := by
  intro octet member
  have stops := ends octet member
  simp only [continuesNumber, Bool.or_eq_false_iff] at stops
  exact stops.1.1.1

theorem digitsEnd_cons {octet : UInt8} (stops : isDigit octet = false) (rest : Octets) :
    DigitsEnd (octet :: rest) := by
  intro other member
  rw [List.head?_cons, Option.mem_some_iff] at member
  rw [← member, stops]

theorem scanDigits_digits {digits : List Char} {rest : Octets}
    (decimal : ∀ digit ∈ digits, digit.isDigit = true) (ends : DigitsEnd rest) :
    scanDigits (digits.map digitOctet ++ rest) = (digits.map digitValue, rest) := by
  induction digits with
  | nil =>
      cases rest with
      | nil => rfl
      | cons octet rest =>
          have notDigit : isDigit octet = false := ends octet rfl
          simp [scanDigits, notDigit]
  | cons digit digits ih =>
      have first : digit.isDigit = true := decimal digit (by simp)
      have others := ih fun other member => decimal other (by simp [member])
      simp only [scanDigits, Prod.mk.injEq] at others
      simp [scanDigits, isDigit_digitOctet first, others, toNat_digitOctet first, digitValue]

private theorem digitChar_ne_zero : ∀ digit < 10, 0 < digit → digit.digitChar ≠ '0' := by
  decide

theorem exists_toDigits_eq_cons {value : Nat} (positive : 0 < value) :
    ∃ first digits, Nat.toDigits 10 value = first :: digits ∧ first ≠ '0' := by
  induction value using Nat.strongRecOn with
  | ind value ih =>
      rw [Nat.toDigits_eq_if (by decide)]
      split
      · rename_i small
        exact ⟨value.digitChar, [], rfl, digitChar_ne_zero value small positive⟩
      · obtain ⟨first, digits, written, notZero⟩ := ih (value / 10) (by omega) (by omega)
        exact ⟨first, digits ++ [(value % 10).digitChar], by rw [written]; rfl, notZero⟩

theorem le_ofDigitChars (digits : List Char) (value : Nat) :
    value ≤ Nat.ofDigitChars 10 digits value := by
  induction digits generalizing value with
  | nil => simp
  | cons digit digits ih =>
      rw [Nat.ofDigitChars_cons]
      have later := ih (10 * value + (digit.toNat - '0'.toNat))
      omega

theorem gather_digits {digits : List Char} {value : Nat}
    (fits : Nat.ofDigitChars 10 digits value < UInt64.size) :
    gather value (digits.map digitValue) = (Nat.ofDigitChars 10 digits value, 0) := by
  induction digits generalizing value with
  | nil => simp [gather]
  | cons digit digits ih =>
      rw [Nat.ofDigitChars_cons, Nat.mul_comm 10 value] at fits ⊢
      have bound : value * 10 + digitValue digit < UInt64.size :=
        Nat.lt_of_le_of_lt (le_ofDigitChars digits _) fits
      rw [List.map_cons, gather, if_pos bound]
      exact ih fits

theorem scanFraction_of_ends {ended : Cause} {negative : Bool} {whole : List Nat}
    {rest : Octets} (ends : Ends rest) :
    scanFraction ended negative whole rest = .ok (⟨negative, whole, [], none⟩, rest) := by
  cases rest with
  | nil => rfl
  | cons mark rest =>
      have stops := ends mark rfl
      simp only [continuesNumber, Bool.or_eq_false_iff, beq_eq_false_iff_ne] at stops
      obtain ⟨⟨⟨_, notPoint⟩, notSmall⟩, notCapital⟩ := stops
      simp [scanFraction, scanExponent, notPoint, notSmall, notCapital]

/-- The digits of a number are taken off the front.  A zero in front stands alone. -/
theorem scanNumeral_whole {ended : Cause} {negative : Bool} {first : Char} {digits : List Char}
    {rest : Octets} (decimal : ∀ digit ∈ first :: digits, digit.isDigit = true)
    (leading : first = '0' → digits = []) (ends : DigitsEnd rest) :
    scanNumeral ended negative ((first :: digits).map digitOctet ++ rest) =
      scanFraction ended negative ((first :: digits).map digitValue) rest := by
  have firstDecimal : first.isDigit = true := decimal first (by simp)
  by_cases zero : first = '0'
  · subst zero
    obtain rfl := leading rfl
    have notMore : (rest.head?.map isDigit).getD false = false := by
      cases rest with
      | nil => rfl
      | cons octet rest => exact ends octet rfl
    have written : ['0'].map digitOctet ++ rest = 0x30 :: rest := rfl
    rw [written, scanNumeral, if_pos rfl, notMore, if_neg (by decide)]
    rfl
  · have othersDecimal : ∀ digit ∈ digits, digit.isDigit = true := fun other member =>
      decimal other (List.mem_cons_of_mem first member)
    have scanned := scanDigits_digits othersDecimal ends
    have octetNotZero : digitOctet first ≠ 0x30 := by
      intro same
      apply zero
      rw [← Char.toNat_inj, ← toNat_digitOctet firstDecimal, same]
      rfl
    rw [List.map_cons, List.cons_append, scanNumeral, if_neg octetNotZero,
      if_pos (isDigit_digitOctet firstDecimal), scanned]
    simp only [toNat_digitOctet firstDecimal]
    rfl

theorem exists_toDigits (value : Nat) :
    ∃ first digits, Nat.toDigits 10 value = first :: digits ∧
      (∀ digit ∈ first :: digits, digit.isDigit = true) ∧ (first = '0' → digits = []) := by
  have decimal : ∀ digit ∈ Nat.toDigits 10 value, digit.isDigit = true := fun _ member =>
    Nat.isDigit_of_mem_toDigits (by decide) (by decide) member
  by_cases zero : value = 0
  · subst zero
    exact ⟨'0', [], rfl, decimal, fun _ => rfl⟩
  · obtain ⟨first, digits, written, notZero⟩ := exists_toDigits_eq_cons (Nat.pos_of_ne_zero zero)
    rw [written] at decimal
    exact ⟨first, digits, written, decimal, fun same => absurd same notZero⟩

theorem scanNumeral_toDigits {ended : Cause} (value : Nat) {rest : Octets}
    (ends : Ends rest) :
    scanNumeral ended false ((Nat.toDigits 10 value).map digitOctet ++ rest) =
      .ok (⟨false, (Nat.toDigits 10 value).map digitValue, [], none⟩, rest) := by
  obtain ⟨first, digits, written, decimal, leading⟩ := exists_toDigits value
  rw [written, scanNumeral_whole decimal leading ends.digitsEnd, scanFraction_of_ends ends]

theorem encode_printNatural (value : Nat) :
    encode (printNatural value) = (Nat.toDigits 10 value).map digitOctet := by
  unfold printNatural
  rw [encode_ofList, encodeChars_digits fun _ member =>
    Nat.isDigit_of_mem_toDigits (by decide) (by decide) member]

/-- A written natural number that fits a word is read as that number. -/
theorem scanNumber_printNatural {value : Nat} {rest : Octets} (fits : value < UInt64.size)
    (ends : Ends rest) :
    scanNumber false (encode (printNatural value) ++ rest) = .ok (.natural value, rest) := by
  have whole : gather 0 ((Nat.toDigits 10 value).map digitValue) = (value, 0) := by
    have gathered := @gather_digits (Nat.toDigits 10 value) 0
    rw [Nat.ofDigitChars_ten_toDigits] at gathered
    exact gathered fits
  rw [encode_printNatural, scanNumber, scanNumeral_toDigits value ends]
  simp [Numeral.value, whole]

end Json

end SignIn
