/-!
# Shortest decimals

A number held in 64 binary digits is written with the fewest decimal digits that
lead back to it, and of those the ones nearest to it.  The search is exact: it
compares natural numbers only.  The layout of the digits is a separate value, so
that the same digits serve any convention on exponents.
-/

namespace SignIn

namespace Shortest

/-- A positive binary number, `mantissa * 2 ^ exponent`, together with the size of
the gap below it: half a gap is a quarter of the usual one where `narrow` holds. -/
structure Binary where
  mantissa : Nat
  exponent : Int
  narrow : Bool

/-- The magnitude that 64 bits hold, if it is finite. -/
def Binary.ofBits (bits : UInt64) : Binary :=
  let fraction := bits.toNat % Nat.pow 2 52
  let biased := bits.toNat / Nat.pow 2 52 % Nat.pow 2 11
  if biased = 0 then ⟨fraction, -1074, false⟩
  else ⟨Nat.pow 2 52 + fraction, Int.ofNat biased - 1075, fraction = 0 && biased != 1⟩

/-- A decimal number `digits * 10 ^ exponent`. -/
structure Decimal where
  digits : Nat
  exponent : Int
  deriving DecidableEq, Repr

/-- The exponent of the first decimal digit of a positive number: it is counted on
the whole part of the number times `10 ^ 330`, which no double rounds to zero. -/
def leadingExponent (number : Binary) : Int :=
  let whole :=
    number.mantissa * Nat.pow 2 number.exponent.toNat * Nat.pow 10 330 /
      Nat.pow 2 (-number.exponent).toNat
  ((Nat.toDigits 10 whole).length : Int) - 331

/-- The point of the grid `10 ^ grid` nearest to a number among those that round to
it, if there is one.  Of the points of a grid only the two around the number need
be looked at.  An exact tie goes to the even one. -/
def onGrid? (number : Binary) (grid : Int) : Option Decimal :=
  let scale := Nat.pow 2 number.exponent.toNat * Nat.pow 10 (-grid).toNat
  let cell := 4 * Nat.pow 2 (-number.exponent).toNat * Nat.pow 10 grid.toNat
  let low := (4 * number.mantissa - if number.narrow then 1 else 2) * scale
  let middle := 4 * number.mantissa * scale
  let high := (4 * number.mantissa + 2) * scale
  let inside (point : Nat) : Bool :=
    if number.mantissa % 2 = 0 then low ≤ point * cell && point * cell ≤ high
    else low < point * cell && point * cell < high
  let below := middle / cell
  let above := below + 1
  let belowGap := middle - below * cell
  let aboveGap := above * cell - middle
  if inside below && below != 0 then
    if inside above &&
        (aboveGap < belowGap || aboveGap = belowGap && below % 2 = 1) then
      some ⟨above, grid⟩
    else
      some ⟨below, grid⟩
  else if inside above then
    some ⟨above, grid⟩
  else
    none

/-- The shortest decimal of a positive number: grids are tried from coarse to fine,
and seventeen digits always suffice. -/
def decimal (number : Binary) : Decimal :=
  let leading := leadingExponent number
  ((List.range 17).findSome? fun finer : Nat =>
    onGrid? number (leading - Int.ofNat finer)).getD
    ⟨0, 0⟩

/-- How a number is laid out: the range of leading exponents written without an
exponent, and the mark before a positive exponent. -/
structure Layout where
  plainFrom : Int
  plainTo : Int
  plus : String

/-- The text of a positive decimal in a layout.  Plain texts have at least one
digit on both sides of the point. -/
def Layout.text (layout : Layout) (number : Decimal) : String :=
  let padded := Nat.toDigits 10 number.digits
  let digits := (padded.reverse.dropWhile (· = '0')).reverse
  let leading : Int := number.exponent + padded.length - 1
  if layout.plainFrom ≤ leading && leading ≤ layout.plainTo then
    if leading < 0 then
      "0." ++ String.ofList (List.replicate (-leading - 1).toNat '0' ++ digits)
    else
      let whole := leading.toNat + 1
      let fraction := digits.drop whole
      String.ofList (digits.take whole ++
        List.replicate (whole - digits.length) '0' ++ ['.'] ++
        if fraction.isEmpty then ['0'] else fraction)
  else
    let fraction := digits.drop 1
    String.ofList (digits.take 1 ++
        if fraction.isEmpty then [] else '.' :: fraction) ++
      "e" ++ (if 0 ≤ leading then layout.plus else "-") ++
      toString leading.natAbs

/-- The text of the finite number that 64 bits hold; zero keeps its sign. -/
def Layout.ofBits (layout : Layout) (bits : UInt64) : String :=
  let sign := if bits < 0x8000000000000000 then "" else "-"
  if bits.toNat % Nat.pow 2 63 = 0 then sign ++ "0.0"
  else sign ++ layout.text (decimal (Binary.ofBits bits))

end Shortest

end SignIn
