import SignIn.Text.Utf8

/-!
# Octets in sixty-four letters

Three octets are written as four letters, and `=` fills up the last group.
-/

namespace SignIn

namespace Base64

/-- The letter of a value below sixty-four. -/
def letter (value : Nat) : Char :=
  if value < 26 then Char.ofNat (0x41 + value)
  else if value < 52 then Char.ofNat (0x61 + value - 26)
  else if value < 62 then Char.ofNat (0x30 + value - 52)
  else if value = 62 then '+'
  else '/'

def encode : Octets → List Char
  | [] => []
  | [first] =>
    let number := first.toNat * 16
    [letter (number / 64), letter (number % 64), '=', '=']
  | [first, second] =>
    let number := (first.toNat * 256 + second.toNat) * 4
    [letter (number / 4096), letter (number / 64 % 64), letter (number % 64), '=']
  | first :: second :: third :: rest =>
    let number := (first.toNat * 256 + second.toNat) * 256 + third.toNat
    letter (number / 262144) :: letter (number / 4096 % 64) ::
      letter (number / 64 % 64) :: letter (number % 64) :: encode rest

end Base64

end SignIn
