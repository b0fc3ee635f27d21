import SignIn.Json.Scan

/-!
# Numbers of a document

A number is first taken apart into its digits and then given a value.  A whole
number that fits a machine word keeps its exact value.  Every other form becomes a
floating-point number, computed from the leading digits that fit a word and one
multiplication or division by a power of ten at a time.
-/

namespace SignIn

namespace Json

/-- The digits of a written number. -/
structure Numeral where
  negative : Bool
  whole : List Nat
  fraction : List Nat
  exponent : Option (Bool × List Nat)
  deriving DecidableEq, Repr

def isDigit (octet : UInt8) : Bool :=
  0x30 ≤ octet && octet ≤ 0x39

/-- The digits at the front, as values, and what follows them. -/
def scanDigits (octets : Octets) : List Nat × Octets :=
  ((octets.takeWhile isDigit).map fun digit => digit.toNat - 0x30,
    octets.dropWhile isDigit)

theorem length_scanDigits_le (octets : Octets) :
    (scanDigits octets).2.length ≤ octets.length :=
  (List.dropWhile_sublist isDigit).length_le

/-- Reads the exponent of a number, if it has one.  The cause given is reported
where the document ends before a digit. -/
def scanExponent (ended : Cause) (negative : Bool) (whole fraction : List Nat)
    (octets : Octets) : Except Fault (Numeral × Octets) :=
  match octets with
  | [] => .ok (⟨negative, whole, fraction, none⟩, [])
  | mark :: rest =>
    if mark = 0x65 || mark = 0x45 then
      let signed :=
        match rest with
        | [] => (true, rest)
        | sign :: digits =>
          if sign = 0x2B then (true, digits)
          else if sign = 0x2D then (false, digits)
          else (true, rest)
      match signed.2 with
      | [] => .error (.before ended [])
      | first :: rest =>
        if isDigit first then
          let digits := scanDigits rest
          .ok (⟨negative, whole, fraction,
            some (signed.1, (first.toNat - 0x30) :: digits.1)⟩, digits.2)
        else
          .error (.before .invalidNumber rest)
    else
      .ok (⟨negative, whole, fraction, none⟩, mark :: rest)

theorem length_le_of_scanExponent {ended : Cause} {negative : Bool}
    {whole fraction : List Nat} {octets rest : Octets} {numeral : Numeral}
    (scanned : scanExponent ended negative whole fraction octets = .ok (numeral, rest)) :
    rest.length ≤ octets.length := by
  unfold scanExponent at scanned
  split at scanned
  · simp only [Except.ok.injEq, Prod.mk.injEq] at scanned
    simp [← scanned.2]
  · rename_i mark after
    split at scanned
    · simp only at scanned
      split at scanned
      · simp at scanned
      · rename_i first digits signed
        have signedLength : (first :: digits).length ≤ after.length := by
          rw [← signed]
          repeat' split
          all_goals simp
        split at scanned
        · simp only [Except.ok.injEq, Prod.mk.injEq] at scanned
          have digitsLength := length_scanDigits_le digits
          rw [scanned.2] at digitsLength
          simp only [List.length_cons] at signedLength ⊢
          omega
        · simp at scanned
    · simp only [Except.ok.injEq, Prod.mk.injEq] at scanned
      simp [← scanned.2]

/-- Reads the fraction of a number, if it has one, and its exponent. -/
def scanFraction (ended : Cause) (negative : Bool) (whole : List Nat)
    (octets : Octets) : Except Fault (Numeral × Octets) :=
  match octets with
  | [] => scanExponent ended negative whole [] []
  | mark :: rest =>
    if mark = 0x2E then
      let digits := scanDigits rest
      if digits.1.isEmpty then
        .error (.onNext (if digits.2.isEmpty then ended else .invalidNumber) digits.2)
      else
        scanExponent ended negative whole digits.1 digits.2
    else
      scanExponent ended negative whole [] (mark :: rest)

theorem length_le_of_scanFraction {ended : Cause} {negative : Bool}
    {whole : List Nat} {octets rest : Octets} {numeral : Numeral}
    (scanned : scanFraction ended negative whole octets = .ok (numeral, rest)) :
    rest.length ≤ octets.length := by
  unfold scanFraction at scanned
  split at scanned
  · exact length_le_of_scanExponent scanned
  · rename_i mark after
    split at scanned
    · simp only at scanned
      split at scanned
      · simp at scanned
      · have shorter := length_le_of_scanExponent scanned
        have digitsLength := length_scanDigits_le after
        simp only [List.length_cons]
        omega
    · exact length_le_of_scanExponent scanned

/-- Reads a number whose sign, if any, has been read. -/
def scanNumeral (ended : Cause) (negative : Bool) (octets : Octets) :
    Except Fault (Numeral × Octets) :=
  match octets with
  | [] => .error (.before ended [])
  | first :: rest =>
    if first = 0x30 then
      if (rest.head?.map isDigit).getD false then
        .error (.onNext .invalidNumber rest)
      else
        scanFraction ended negative [0] rest
    else if isDigit first then
      let digits := scanDigits rest
      scanFraction ended negative ((first.toNat - 0x30) :: digits.1) digits.2
    else
      .error (.before .invalidNumber rest)

theorem length_lt_of_scanNumeral {ended : Cause} {negative : Bool}
    {octets rest : Octets} {numeral : Numeral}
    (scanned : scanNumeral ended negative octets = .ok (numeral, rest)) :
    rest.length < octets.length := by
  unfold scanNumeral at scanned
  split at scanned
  · simp at scanned
  · rename_i first after
    simp only [List.length_cons]
    repeat' split at scanned
    · simp at scanned
    · have shorter := length_le_of_scanFraction scanned
      omega
    · have shorter := length_le_of_scanFraction scanned
      have digitsLength := length_scanDigits_le after
      omega
    · simp at scanned

/-- The value of a number: a natural number below `2 ^ 64`, the negative of a
positive number up to `2 ^ 63`, or a floating-point number by its bits. -/
inductive Number where
  | natural (value : Nat)
  | negative (magnitude : Nat)
  | float (bits : UInt64)
  deriving DecidableEq, Repr

/-- Digits taken into a number while it stays below `2 ^ 64`, and how many were
left out. -/
def gather : Nat → List Nat → Nat × Nat
  | value, [] => (value, 0)
  | value, digit :: digits =>
    if value * 10 + digit < UInt64.size then gather (value * 10 + digit) digits
    else (value, digits.length + 1)

/-- The value of the digits of an exponent while it stays below `2 ^ 31`; else how
many digits follow the one that broke the bound. -/
def gatherExponent : Nat → List Nat → Except Nat Nat
  | value, [] => .ok value
  | value, digit :: digits =>
    if value * 10 + digit < UInt32.size / 2 then gatherExponent (value * 10 + digit) digits
    else .error digits.length

/-- A power of ten up to `10 ^ 308`, correctly rounded. -/
def powerOfTen (exponent : Nat) : Float :=
  Float.ofScientific 1 false exponent

/-- A number divided by a power of ten in steps of at most `10 ^ 308`. -/
def scaleDown (value : Float) (exponent : Nat) : Float :=
  if exponent ≤ 308 then value / powerOfTen exponent
  else if value == 0 then value
  else scaleDown (value / powerOfTen 308) (exponent - 308)
termination_by exponent

/-- A number multiplied by a power of ten, unless the product is infinite. -/
def scaleUp? (value : Float) (exponent : Nat) : Option Float :=
  if exponent ≤ 308 then
    let product := value * powerOfTen exponent
    if product.isInf then none else some product
  else if value == 0 then some value
  else none

/-- A significand times a power of ten, unless it is infinite. -/
def scale? (significand : Nat) (exponent : Int) : Option Float :=
  let value := (UInt64.ofNat significand).toFloat
  if 0 ≤ exponent then scaleUp? value exponent.toNat
  else some (scaleDown value exponent.natAbs)

/-- An exponent kept within 32 bits. -/
def clampExponent (exponent : Int) : Int :=
  max (-2147483648) (min exponent 2147483647)

/-- The value of a number.  A number too large for a floating-point number is an
error that tells how many digits of the number follow the point where this shows. -/
def Numeral.value (numeral : Numeral) : Except Nat Number :=
  let whole := gather 0 numeral.whole
  let float (magnitude : Float) : Number :=
    .float (if numeral.negative then -magnitude else magnitude).toBits
  if numeral.fraction.isEmpty && numeral.exponent.isNone && whole.2 = 0 then
    if !numeral.negative then .ok (.natural whole.1)
    else if whole.1 = 0 || UInt64.size / 2 < whole.1 then
      .ok (float (UInt64.ofNat whole.1).toFloat)
    else .ok (.negative whole.1)
  else
    let fraction := gather whole.1 numeral.fraction
    let significand := fraction.1
    let shift : Int := (whole.2 : Int) - ((numeral.fraction.length - fraction.2 : Nat) : Int)
    let scaled (exponent : Int) : Except Nat Number :=
      match scale? significand (clampExponent exponent) with
      | some magnitude => .ok (float magnitude)
      | none => .error 0
    match numeral.exponent with
    | none => scaled shift
    | some (up, digits) =>
      match gatherExponent 0 digits with
      | .ok exponent => scaled (if up then shift + exponent else shift - exponent)
      | .error unread =>
        if significand != 0 && up then .error unread else .ok (float 0)

/-- Reads a number whose sign, if any, has been read, with its value. -/
def scanNumber (negative : Bool) (octets : Octets) :
    Except Fault (Number × Octets) :=
  match scanNumeral .endOfValue negative octets with
  | .error fault => .error fault
  | .ok (numeral, rest) =>
    match numeral.value with
    | .ok number => .ok (number, rest)
    | .error unread => .error ⟨.numberOutOfRange, rest.length + unread⟩

theorem length_lt_of_scanNumber {negative : Bool} {octets rest : Octets}
    {number : Number} (scanned : scanNumber negative octets = .ok (number, rest)) :
    rest.length < octets.length := by
  unfold scanNumber at scanned
  split at scanned
  · simp at scanned
  · rename_i spelled
    split at scanned
    · simp only [Except.ok.injEq, Prod.mk.injEq] at scanned
      rw [← scanned.2]
      exact length_lt_of_scanNumeral spelled
    · simp at scanned

end Json

end SignIn
