/-!
# Text as octets

The encoding of text as UTF-8 octets and its two readings: the strict one, which
accepts exactly the encodings, and the lenient one, which puts a replacement
character where the strict one would stop.  Both are driven by one function,
`Utf8.step`, that looks at the front of an octet string.
-/

namespace SignIn

/-- A string of octets. -/
abbrev Octets := List UInt8

namespace Utf8

/-- The octets of one character. -/
def encodeChar (character : Char) : Octets :=
  let code := character.toNat
  if code < 0x80 then
    [UInt8.ofNat code]
  else if code < 0x800 then
    [UInt8.ofNat (0xC0 + code / 64), UInt8.ofNat (0x80 + code % 64)]
  else if code < 0x10000 then
    [UInt8.ofNat (0xE0 + code / 4096), UInt8.ofNat (0x80 + code / 64 % 64),
      UInt8.ofNat (0x80 + code % 64)]
  else
    [UInt8.ofNat (0xF0 + code / 262144), UInt8.ofNat (0x80 + code / 4096 % 64),
      UInt8.ofNat (0x80 + code / 64 % 64), UInt8.ofNat (0x80 + code % 64)]

def encodeChars (characters : List Char) : Octets :=
  characters.flatMap encodeChar

def encode (text : String) : Octets :=
  encodeChars text.toList

/-- An octet that continues a character. -/
def isTail (octet : UInt8) : Bool :=
  0x80 ≤ octet && octet ≤ 0xBF

/-- The second octets allowed after a given first octet of a character of three:
the first of them must not make the form overlong nor spell a surrogate. -/
def isSecondOfThree (first second : UInt8) : Bool :=
  if first = 0xE0 then 0xA0 ≤ second && second ≤ 0xBF
  else if first = 0xED then 0x80 ≤ second && second ≤ 0x9F
  else isTail second

/-- The second octets allowed after a given first octet of a character of four:
the first of them must not make the form overlong nor pass U+10FFFF. -/
def isSecondOfFour (first second : UInt8) : Bool :=
  if first = 0xF0 then 0x90 ≤ second && second ≤ 0xBF
  else if first = 0xF4 then 0x80 ≤ second && second ≤ 0x8F
  else isTail second

/-- What a continuing octet contributes. -/
def payload (octet : UInt8) : Nat :=
  octet.toNat - 0x80

/-- The character at the front of an octet string and what follows it.  Where no
character stands, the longest front that could begin one is left out, and at
least one octet. -/
def step : Octets → Option (Option Char × Octets)
  | [] => none
  | first :: rest =>
    if first < 0x80 then
      some (some (Char.ofNat first.toNat), rest)
    else if 0xC2 ≤ first && first ≤ 0xDF then
      match rest with
      | [] => some (none, rest)
      | second :: rest2 =>
        if isTail second then
          some (some (Char.ofNat ((first.toNat - 0xC0) * 64 + payload second)), rest2)
        else
          some (none, rest)
    else if 0xE0 ≤ first && first ≤ 0xEF then
      match rest with
      | [] => some (none, rest)
      | second :: rest2 =>
        if isSecondOfThree first second then
          match rest2 with
          | [] => some (none, rest2)
          | third :: rest3 =>
            if isTail third then
              some (some (Char.ofNat ((first.toNat - 0xE0) * 4096 +
                payload second * 64 + payload third)), rest3)
            else
              some (none, rest2)
        else
          some (none, rest)
    else if 0xF0 ≤ first && first ≤ 0xF4 then
      match rest with
      | [] => some (none, rest)
      | second :: rest2 =>
        if isSecondOfFour first second then
          match rest2 with
          | [] => some (none, rest2)
          | third :: rest3 =>
            if isTail third then
              match rest3 with
              | [] => some (none, rest3)
              | fourth :: rest4 =>
                if isTail fourth then
                  some (some (Char.ofNat ((first.toNat - 0xF0) * 262144 +
                    payload second * 4096 + payload third * 64 +
                    payload fourth)), rest4)
                else
                  some (none, rest3)
            else
              some (none, rest2)
        else
          some (none, rest)
    else
      some (none, rest)

/-- A step leaves fewer octets. -/
theorem length_lt_of_step {octets rest : Octets} {found : Option Char}
    (stepped : step octets = some (found, rest)) :
    rest.length < octets.length := by
  unfold step at stepped
  repeat' split at stepped
  all_goals
    simp only [reduceCtorEq, Option.some.injEq, Prod.mk.injEq] at stepped
  all_goals
    obtain ⟨_, rfl⟩ := stepped
    simp
    try omega

/-- The characters of an octet string, if it encodes any. -/
def decodeChars? (octets : Octets) : Option (List Char) :=
  match _ : step octets with
  | none => some []
  | some (none, _) => none
  | some (some character, rest) => (decodeChars? rest).map (character :: ·)
termination_by octets.length
decreasing_by exact length_lt_of_step (by assumption)

/-- The text that an octet string encodes, if it encodes any. -/
def decode? (octets : Octets) : Option String :=
  (decodeChars? octets).map String.ofList

/-- The characters of an octet string, with U+FFFD for every longest front that
begins a character without completing it. -/
def decodeCharsLossy (octets : Octets) : List Char :=
  match _ : step octets with
  | none => []
  | some (found, rest) => found.getD (Char.ofNat 0xFFFD) :: decodeCharsLossy rest
termination_by octets.length
decreasing_by exact length_lt_of_step (by assumption)

/-- The text of an octet string, broken characters replaced. -/
def decodeLossy (octets : Octets) : String :=
  String.ofList (decodeCharsLossy octets)

/-- How many octets stand before the first broken character. -/
def soundLength (octets : Octets) : Nat :=
  match _ : step octets with
  | none => 0
  | some (none, _) => 0
  | some (some _, rest) => (octets.length - rest.length) + soundLength rest
termination_by octets.length
decreasing_by exact length_lt_of_step (by assumption)

end Utf8

end SignIn
