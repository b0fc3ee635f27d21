/-!
# Decimal numerals

Reading a number of a fixed width: digits of ASCII, at most one leading `+`, and a
value that fits.
-/

namespace SignIn

namespace Numeral

/-- The value of a list of decimal digits read after a given value. -/
def value? : Nat → List Char → Option Nat
  | value, [] => some value
  | value, digit :: digits =>
    if digit.isDigit then value? (value * 10 + (digit.toNat - 48)) digits else none

/-- The number that a numeral denotes, if it has a digit and lies below a bound. -/
def below? (bound : Nat) (text : String) : Option Nat :=
  let digits :=
    match text.toList with
    | '+' :: digits => digits
    | digits => digits
  if digits.isEmpty then none else (value? 0 digits).filter (· < bound)

/-- The 64-bit number that a numeral denotes. -/
def word64? (text : String) : Option UInt64 :=
  (below? UInt64.size text).map UInt64.ofNat

end Numeral

end SignIn
