import SignIn.Text.Utf8

/-!
# Percent-encoding

An octet may be written as `%` and two hexadecimal digits.  Decoding accepts both
cases of the digits and leaves every other `%` as it stands, so that it is total.
-/

namespace SignIn

namespace Percent

def hexValue? (octet : UInt8) : Option UInt8 :=
  if 0x30 ≤ octet && octet ≤ 0x39 then some (octet - 0x30)
  else if 0x41 ≤ octet && octet ≤ 0x46 then some (octet - 0x37)
  else if 0x61 ≤ octet && octet ≤ 0x66 then some (octet - 0x57)
  else none

/-- The upper-case hexadecimal digit of a value below sixteen. -/
def hexDigit (value : UInt8) : UInt8 :=
  if value < 10 then 0x30 + value else 0x37 + value

/-- An octet as `%` and two digits. -/
def escape (octet : UInt8) : Octets :=
  [0x25, hexDigit (octet / 16), hexDigit (octet % 16)]

def decode : Octets → Octets
  | [] => []
  | [single] => [single]
  | [first, second] => [first, second]
  | first :: high :: low :: rest =>
    if first = 0x25 then
      match hexValue? high, hexValue? low with
      | some highValue, some lowValue => (highValue * 16 + lowValue) :: decode rest
      | _, _ => first :: decode (high :: low :: rest)
    else
      first :: decode (high :: low :: rest)

/-- A text with the octets of a class escaped, as ASCII characters. -/
def encode (escaped : UInt8 → Bool) (octets : Octets) : Octets :=
  octets.flatMap fun octet => if escaped octet then escape octet else [octet]

end Percent

end SignIn
