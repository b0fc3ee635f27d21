import SignIn.Proofs.Json.Natural

/-!
# Numbers as they are written

A number is written as digits, perhaps with a fraction and a power of ten, and perhaps with
a sign in front.  Floating-point numbers have such a form too, however their digits are laid
out.  Each is taken off the front whole, whatever it is that ends it.
-/

namespace SignIn

namespace Json

open Utf8 Shortest

/-- The digits of a power of ten, and whether it is a positive one.  The letter in front of it may
be a capital, and a positive one may go without its sign. -/
structure Power where
  up : Bool
  first : Char
  digits : List Char
  decimal : ∀ digit ∈ first :: digits, digit.isDigit = true
  capital : Bool := false
  signed : Bool := true
  bare : signed = false → up = true := by simp

/-- A number as it is written without its sign: its digits, those of a fraction, and a power
of ten. -/
structure Spelling where
  first : Char
  digits : List Char
  fraction : List Char := []
  power : Option Power := none
  whole_decimal : ∀ digit ∈ first :: digits, digit.isDigit = true
  leading : first = '0' → digits = []
  fraction_decimal : ∀ digit ∈ fraction, digit.isDigit = true

def pointed : List Char → List Char
  | [] => []
  | fraction => '.' :: fraction

theorem pointed_of_ne {fraction : List Char} (some : fraction ≠ []) :
    pointed fraction = '.' :: fraction := by
  cases fraction with
  | nil => contradiction
  | cons digit fraction => rfl

def powered : Option Power → List Char
  | none => []
  | some power =>
    (if power.capital then 'E' else 'e') ::
      ((if power.signed then [if power.up then '+' else '-'] else []) ++
        power.first :: power.digits)

def Power.value (power : Power) : Bool × List Nat :=
  (power.up, (power.first :: power.digits).map digitValue)

namespace Spelling

def chars (spelling : Spelling) : List Char :=
  spelling.first :: spelling.digits ++ (pointed spelling.fraction ++ powered spelling.power)

/-- The number that is spelled, with a sign. -/
def numeral (spelling : Spelling) (negative : Bool) : Numeral :=
  ⟨negative, (spelling.first :: spelling.digits).map digitValue,
    spelling.fraction.map digitValue, spelling.power.map Power.value⟩

end Spelling

section Scanning

variable {ended : Cause} {negative : Bool} {whole fraction : List Nat} {rest : Octets}

theorem scanExponent_of_ends (ends : Ends rest) :
    scanExponent ended negative whole fraction rest =
      .ok (⟨negative, whole, fraction, none⟩, rest) := by
  cases rest with
  | nil => rfl
  | cons mark rest =>
      have stops := ends mark rfl
      simp only [continuesNumber, Bool.or_eq_false_iff, beq_eq_false_iff_ne] at stops
      obtain ⟨⟨_, notSmall⟩, notCapital⟩ := stops
      simp [scanExponent, notSmall, notCapital]

/-- The letter in front of a power of ten. -/
def markOctet (capital : Bool) : UInt8 :=
  if capital then 0x45 else 0x65

theorem encodeChar_mark (capital : Bool) :
    encodeChar (if capital then 'E' else 'e') = [markOctet capital] := by
  cases capital <;> rfl

theorem marks_markOctet (capital : Bool) :
    (markOctet capital = 0x65 || markOctet capital = 0x45 : Bool) = true := by
  cases capital <;> rfl

section Exponent

variable {first : Char} {digits : List Char}

theorem scanExponent_signed (decimal : ∀ digit ∈ first :: digits, digit.isDigit = true)
    (capital up : Bool) (ends : Ends rest) :
    scanExponent ended negative whole fraction (markOctet capital ::
        (if up then 0x2B else 0x2D) :: digitOctet first :: (digits.map digitOctet ++ rest)) =
      .ok (⟨negative, whole, fraction, some (up, (first :: digits).map digitValue)⟩, rest) := by
  have firstDecimal : first.isDigit = true := decimal first (by simp)
  have scanned := scanDigits_digits (fun other member => decimal other
    (List.mem_cons_of_mem first member)) ends.digitsEnd
  rw [scanExponent, if_pos (marks_markOctet capital)]
  cases up with
  | true =>
      simp [isDigit_digitOctet firstDecimal, scanned, toNat_digitOctet firstDecimal, digitValue]
  | false =>
      simp [isDigit_digitOctet firstDecimal, scanned, toNat_digitOctet firstDecimal, digitValue]

theorem scanExponent_bare (decimal : ∀ digit ∈ first :: digits, digit.isDigit = true)
    (capital : Bool) (ends : Ends rest) :
    scanExponent ended negative whole fraction
        (markOctet capital :: digitOctet first :: (digits.map digitOctet ++ rest)) =
      .ok (⟨negative, whole, fraction, some (true, (first :: digits).map digitValue)⟩, rest) := by
  have firstDecimal : first.isDigit = true := decimal first (by simp)
  have firstDigit := isDigit_digitOctet firstDecimal
  have scanned := scanDigits_digits (fun other member => decimal other
    (List.mem_cons_of_mem first member)) ends.digitsEnd
  have notPlus : digitOctet first ≠ 0x2B := by
    intro same
    rw [same] at firstDigit
    contradiction
  have notMinus : digitOctet first ≠ 0x2D := by
    intro same
    rw [same] at firstDigit
    contradiction
  rw [scanExponent, if_pos (marks_markOctet capital)]
  simp [notPlus, notMinus, firstDigit, scanned, toNat_digitOctet firstDecimal, digitValue]

end Exponent

theorem scanExponent_power (power : Power) (ends : Ends rest) :
    scanExponent ended negative whole fraction (encodeChars (powered (some power)) ++ rest) =
      .ok (⟨negative, whole, fraction, some power.value⟩, rest) := by
  obtain ⟨up, first, digits, decimal, capital, signed, bare⟩ := power
  rw [powered, encodeChars_cons, encodeChar_mark, List.singleton_append, encodeChars_append,
    encodeChars_digits decimal]
  cases signed with
  | true =>
      have sign : encodeChars [if up then '+' else '-'] = [if up then 0x2B else 0x2D] := by
        cases up <;> rfl
      rw [if_pos rfl, sign]
      exact scanExponent_signed decimal capital up ends
  | false =>
      obtain rfl := bare rfl
      exact scanExponent_bare decimal capital ends

theorem scanExponent_powered (power : Option Power) (ends : Ends rest) :
    scanExponent ended negative whole fraction (encodeChars (powered power) ++ rest) =
      .ok (⟨negative, whole, fraction, power.map Power.value⟩, rest) := by
  cases power with
  | none => exact scanExponent_of_ends ends
  | some power => exact scanExponent_power power ends

theorem digitsEnd_powered (power : Option Power) (ends : Ends rest) :
    DigitsEnd (encodeChars (powered power) ++ rest) := by
  cases power with
  | none => exact ends.digitsEnd
  | some power =>
      obtain ⟨up, first, digits, decimal, capital, signed, bare⟩ := power
      cases capital with
      | true => exact digitsEnd_cons rfl _
      | false => exact digitsEnd_cons rfl _

/-- Behind the digits come a fraction and a power of ten, each of which may be missing. -/
theorem scanFraction_pointed {digits : List Char}
    (decimal : ∀ digit ∈ digits, digit.isDigit = true) (power : Option Power)
    (ends : Ends rest) :
    scanFraction ended negative whole
        (encodeChars (pointed digits) ++ (encodeChars (powered power) ++ rest)) =
      .ok (⟨negative, whole, digits.map digitValue, power.map Power.value⟩, rest) := by
  have scanned : scanExponent ended negative whole (digits.map digitValue)
      (encodeChars (powered power) ++ rest) =
      .ok (⟨negative, whole, digits.map digitValue, power.map Power.value⟩, rest) :=
    scanExponent_powered power ends
  cases digits with
  | nil =>
      rw [pointed, encodeChars_nil, List.nil_append]
      cases power with
      | none => exact scanFraction_of_ends ends
      | some power =>
          obtain ⟨up, first, digits, decimal, capital, signed, bare⟩ := power
          cases capital with
          | true => exact scanned
          | false => exact scanned
  | cons digit digits =>
      have taken := scanDigits_digits decimal (digitsEnd_powered power ends)
      have mark : encodeChars (pointed (digit :: digits)) =
          0x2E :: (digit :: digits).map digitOctet := by
        have point : encodeChar '.' = [0x2E] := rfl
        rw [pointed, encodeChars_cons, point, encodeChars_digits decimal]
        · rfl
        · simp
      rw [mark, List.cons_append, scanFraction, if_pos rfl]
      simp only [taken]
      exact scanned

theorem digitsEnd_pointed (digits : List Char) (power : Option Power) (ends : Ends rest) :
    DigitsEnd (encodeChars (pointed digits) ++ (encodeChars (powered power) ++ rest)) := by
  cases digits with
  | nil => exact digitsEnd_powered power ends
  | cons digit digits => exact digitsEnd_cons rfl _

end Scanning

namespace Spelling

theorem begins (spelling : Spelling) :
    ∃ first rest, encodeChars spelling.chars = first :: rest ∧ isDigit first = true := by
  have decimal := spelling.whole_decimal spelling.first (by simp)
  refine ⟨digitOctet spelling.first, spelling.digits.map digitOctet ++
    encodeChars (pointed spelling.fraction ++ powered spelling.power), ?_,
    isDigit_digitOctet decimal⟩
  rw [chars, encodeChars_append, encodeChars_digits spelling.whole_decimal]
  rfl

/-- A written number is taken off the front whole. -/
theorem scanNumeral_chars (spelling : Spelling) (ended : Cause) (negative : Bool) {rest : Octets}
    (ends : Ends rest) :
    scanNumeral ended negative (encodeChars spelling.chars ++ rest) =
      .ok (spelling.numeral negative, rest) := by
  rw [chars, encodeChars_append, encodeChars_append, List.append_assoc, List.append_assoc,
    encodeChars_digits spelling.whole_decimal,
    scanNumeral_whole spelling.whole_decimal spelling.leading (digitsEnd_pointed _ _ ends),
    scanFraction_pointed spelling.fraction_decimal _ ends]
  rfl

theorem exists_toDigits (value : Nat) :
    ∃ spelling : Spelling, Nat.toDigits 10 value = spelling.chars := by
  obtain ⟨first, digits, written, decimal, leading⟩ := Json.exists_toDigits value
  exact ⟨⟨first, digits, [], none, decimal, leading, by simp⟩,
    by simp [chars, pointed, powered, written]⟩

end Spelling

/-- Every grid point that is found is a positive number. -/
theorem digits_ne_zero_of_onGrid? {number : Binary} {grid : Int} {found : Decimal}
    (there : onGrid? number grid = some found) : found.digits ≠ 0 := by
  unfold onGrid? at there
  extract_lets scale cell low middle high inside below above belowGap aboveGap at there
  split at there
  · rename_i positive
    split at there
    · obtain rfl := Option.some.inj there
      exact Nat.succ_ne_zero _
    · obtain rfl := Option.some.inj there
      simpa using (Bool.and_eq_true_iff.mp positive).2
  · split at there
    · obtain rfl := Option.some.inj there
      exact Nat.succ_ne_zero _
    · contradiction

theorem decimal_cases (number : Binary) :
    (decimal number).digits ≠ 0 ∨ decimal number = ⟨0, 0⟩ := by
  unfold decimal
  simp only
  cases search : (List.range 17).findSome? fun finer : Nat =>
      onGrid? number (leadingExponent number - Int.ofNat finer) with
  | none => exact .inr rfl
  | some found =>
      obtain ⟨finer, _, there⟩ := List.exists_of_findSome?_eq_some search
      exact .inl (digits_ne_zero_of_onGrid? there)

/-- Without the zeros at its end a positive number still begins with the digit that it began
with. -/
theorem exists_significant {value : Nat} (positive : 0 < value) :
    ∃ first digits, ((Nat.toDigits 10 value).reverse.dropWhile (· = '0')).reverse =
        first :: digits ∧ first ≠ '0' ∧ ∀ digit ∈ first :: digits, digit.isDigit = true := by
  obtain ⟨first, digits, written, notZero⟩ := exists_toDigits_eq_cons positive
  have decimal : ∀ digit ∈ Nat.toDigits 10 value, digit.isDigit = true := fun _ member =>
    Nat.isDigit_of_mem_toDigits (by decide) (by decide) member
  rw [written] at decimal ⊢
  have kept : ((first :: digits).reverse.dropWhile (· = '0')).reverse =
      first :: (digits.reverse.dropWhile (· = '0')).reverse := by
    rw [List.reverse_cons, List.dropWhile_append]
    split
    · rename_i nothing
      rw [List.isEmpty_iff.mp nothing, List.dropWhile_cons_of_neg (by simpa using notZero)]
      rfl
    · simp
  refine ⟨first, _, kept, notZero, ?_⟩
  intro digit member
  apply decimal
  rw [List.mem_cons] at member ⊢
  refine member.imp_right fun later => ?_
  exact List.mem_reverse.mp ((List.dropWhile_sublist _).mem (List.mem_reverse.mp later))

/-- However it is laid out, the text of a positive number spells one. -/
theorem exists_spelling_text (layout : Layout) (plus : layout.plus = "+") {number : Decimal}
    (positive : number.digits ≠ 0) :
    ∃ spelling : Spelling, (layout.text number).toList = spelling.chars := by
  obtain ⟨first, digits, written, notZero, decimal⟩ :=
    exists_significant (Nat.pos_of_ne_zero positive)
  have zero : '0'.isDigit = true := rfl
  have zeros (count : Nat) : ∀ digit ∈ List.replicate count '0', digit.isDigit = true :=
    fun digit member => by rw [List.eq_of_mem_replicate member, zero]
  have others : ∀ digit ∈ digits, digit.isDigit = true := fun digit member =>
    decimal digit (List.mem_cons_of_mem first member)
  unfold Layout.text
  simp only [written]
  generalize number.exponent + (Nat.toDigits 10 number.digits).length - 1 = leading
  split
  · split
    · -- Zeros stand between the point and the digits.
      refine ⟨⟨'0', [], List.replicate (-leading - 1).toNat '0' ++ first :: digits, none,
        by simp [zero], by simp, ?_⟩, ?_⟩
      · intro digit member
        exact (List.mem_append.mp member).elim (zeros _ digit) (decimal digit)
      · simp [Spelling.chars, pointed_of_ne, powered]
    · -- The point stands behind some of the digits, or behind zeros that follow them.
      let behind := (first :: digits).drop (leading.toNat + 1)
      let fraction := if behind.isEmpty then ['0'] else behind
      have someFraction : fraction ≠ [] := by
        unfold fraction
        split
        · simp
        · rename_i nonempty
          simpa using nonempty
      refine ⟨⟨first, digits.take leading.toNat ++
        List.replicate (leading.toNat + 1 - (first :: digits).length) '0', fraction, none,
        ?_, fun same => absurd same notZero, ?_⟩, ?_⟩
      · intro digit member
        rw [← List.cons_append] at member
        refine (List.mem_append.mp member).elim (fun within => decimal digit ?_) (zeros _ digit)
        exact (List.take_sublist (leading.toNat + 1) (first :: digits)).mem within
      · intro digit member
        unfold fraction at member
        split at member
        · exact (List.mem_singleton.mp member) ▸ zero
        · exact decimal digit ((List.drop_sublist _ _).mem member)
      · rw [Spelling.chars, pointed_of_ne someFraction]
        simp [powered, fraction, behind]
  · -- One digit stands before the point, and a power of ten makes up for the rest.
    obtain ⟨digit, more, size, sizeDecimal, _⟩ := exists_toDigits leading.natAbs
    let power : Power :=
      { up := decide (0 ≤ leading), first := digit, digits := more, decimal := sizeDecimal }
    refine ⟨⟨first, [], digits, some power, by simpa using decimal first (by simp), by simp,
      others⟩, ?_⟩
    have point : (if digits.isEmpty then [] else '.' :: digits) = pointed digits := by
      cases digits <;> rfl
    have mark : (if 0 ≤ leading then layout.plus else "-").toList =
        [if 0 ≤ leading then '+' else '-'] := by
      split <;> simp [plus]
    simp [Spelling.chars, powered, power, ← point, mark, size]

theorem exists_spelling_ofBits (bits : UInt64) :
    ∃ spelling : Spelling, (floatLayout.ofBits bits).toList = spelling.chars ∨
      (floatLayout.ofBits bits).toList = '-' :: spelling.chars := by
  have zero : ∃ spelling : Spelling, "0.0".toList = spelling.chars :=
    ⟨⟨'0', [], ['0'], none, by simp, fun _ => rfl, by simp⟩, rfl⟩
  have magnitude : ∃ (text : String) (spelling : Spelling), text.toList = spelling.chars ∧
      floatLayout.ofBits bits = (if bits < 0x8000000000000000 then "" else "-") ++ text := by
    unfold Layout.ofBits
    simp only
    split
    · obtain ⟨spelling, written⟩ := zero
      exact ⟨_, spelling, written, rfl⟩
    · rcases decimal_cases (Binary.ofBits bits) with positive | nothing
      · obtain ⟨spelling, written⟩ := exists_spelling_text floatLayout rfl positive
        exact ⟨_, spelling, written, rfl⟩
      · obtain ⟨spelling, written⟩ := zero
        exact ⟨_, spelling, written, by rw [nothing]; rfl⟩
  obtain ⟨text, spelling, written, whole⟩ := magnitude
  refine ⟨spelling, ?_⟩
  rw [whole, String.toList_append, written]
  split
  · exact .inl rfl
  · exact .inr rfl

/-- Every number is written as a spelled one, with or without a sign. -/
theorem Number.exists_spelling (number : Number) :
    ∃ spelling : Spelling, encode number.print = encodeChars spelling.chars ∨
      encode number.print = 0x2D :: encodeChars spelling.chars := by
  cases number with
  | natural value =>
      obtain ⟨spelling, written⟩ := Spelling.exists_toDigits value
      refine ⟨spelling, .inl ?_⟩
      rw [Number.print, printNatural, encode_ofList, written]
  | negative magnitude =>
      obtain ⟨spelling, written⟩ := Spelling.exists_toDigits magnitude
      refine ⟨spelling, .inr ?_⟩
      have sign : encode "-" = [0x2D] := rfl
      rw [Number.print, encode_append, sign, printNatural, encode_ofList, written]
      rfl
  | float bits =>
      obtain ⟨spelling, plain | signed⟩ := exists_spelling_ofBits bits
      · exact ⟨spelling, .inl (congrArg encodeChars plain)⟩
      · exact ⟨spelling, .inr (congrArg encodeChars signed)⟩

end Json

end SignIn
