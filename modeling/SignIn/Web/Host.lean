import SignIn.Text.Percent
import SignIn.Web.Punycode

/-!
# Hosts

The name or number of a machine.  A name is brought to lower case, with labels
beyond ASCII in their ASCII form; a host whose last label is a number is an address
of 32 bits; an address of 128 bits stands between square brackets.
-/

namespace SignIn

/-- A machine, by name or by number. -/
inductive Host where
  | name (text : String)
  | address (number : Nat)
  | wideAddress (pieces : List Nat)
  deriving DecidableEq, Repr

namespace Host

def digitValue? (base : Nat) (character : Char) : Option Nat :=
  let code := character.toNat
  let value :=
    if 0x30 ≤ code && code ≤ 0x39 then some (code - 0x30)
    else if 0x41 ≤ code && code ≤ 0x46 then some (code - 0x37)
    else if 0x61 ≤ code && code ≤ 0x66 then some (code - 0x57)
    else none
  value.filter (· < base)

/-- The value of a run of digits; without digits it is zero. -/
def digitsValue? (base : Nat) (digits : List Char) : Option Nat :=
  digits.foldlM (fun value digit => (digitValue? base digit).map (value * base + ·)) 0

/-- The number that a label spells: hexadecimal behind `0x`, octal behind a further
leading zero, and decimal else. -/
def labelNumber? (label : List Char) : Option Nat :=
  match label with
  | [] => none
  | '0' :: 'x' :: digits | '0' :: 'X' :: digits => digitsValue? 16 digits
  | '0' :: digit :: digits => digitsValue? 8 (digit :: digits)
  | digits => digitsValue? 10 digits

/-- The labels of a name, without the empty one behind a final dot. -/
def numericLabels (name : List Char) : List (List Char) :=
  let labels := name.splitOn '.'
  if labels.getLast? = some [] then labels.dropLast else labels

/-- Whether the last label of a name is a number, so that the whole must be an
address. -/
def endsInNumber (name : List Char) : Bool :=
  match (numericLabels name).getLast? with
  | none => false
  | some label =>
    !label.isEmpty && (label.all Char.isDigit || (labelNumber? label).isSome)

/-- The address that a name spells: up to four numbers of which the last fills the
octets that are left. -/
def parseAddress? (name : List Char) : Option Nat := do
  let labels := numericLabels name
  if 4 < labels.length then none
  let numbers ← labels.mapM labelNumber?
  let last ← numbers.getLast?
  let front := numbers.dropLast
  if front.any (255 < ·) || Nat.pow 256 (4 - front.length) ≤ last then none
  else
    some (front.zipIdx.foldl
      (fun sum number => sum + number.1 * Nat.pow 256 (3 - number.2)) last)

/-- A decimal number of an embedded address: at most 255 and without leading zeros. -/
def octet? (digits : List Char) : Option Nat :=
  if digits.isEmpty || (digits.head? = some '0' && 1 < digits.length) then none
  else (digitsValue? 10 digits).filter (· ≤ 255)

/-- The pieces of sixteen bits that one side of a wide address spells; the last may
be an address of 32 bits. -/
def sidePieces? (side : List Char) : Option (List Nat) :=
  if side.isEmpty then some []
  else
    let parts := side.splitOn ':'
    let piece? (part : List Char) : Option Nat :=
      if part.isEmpty || 4 < part.length then none else digitsValue? 16 part
    match parts.getLast? with
    | none => none
    | some last =>
      if last.contains '.' then do
        let front ← parts.dropLast.mapM piece?
        let octets ← (last.splitOn '.').mapM octet?
        match octets with
        | [first, second, third, fourth] =>
          some (front ++ [first * 256 + second, third * 256 + fourth])
        | _ => none
      else parts.mapM piece?

/-- The places of a double colon: what stands before it and after it. -/
def splitDouble : List Char → Option (List Char × List Char)
  | ':' :: ':' :: rest => some ([], rest)
  | character :: rest => (splitDouble rest).map fun sides => (character :: sides.1, sides.2)
  | [] => none

/-- The eight pieces of a wide address; a double colon stands for one or more zero
pieces. -/
def parseWide? (text : List Char) : Option (List Nat) :=
  match splitDouble text with
  | none => (sidePieces? text).filter (·.length = 8)
  | some (front, back) => do
    if front.contains '.' then none
    let frontPieces ← sidePieces? front
    let backPieces ← sidePieces? back
    let missing := 8 - (frontPieces.length + backPieces.length)
    if missing = 0 then none
    else some (frontPieces ++ List.replicate missing 0 ++ backPieces)

/-- A character of a name brought to the form in which names are compared: lower
case, and common marks of other scripts in their ASCII form.  None if it counts for
nothing. -/
def fold (character : Char) : List Char :=
  let code := character.toNat
  if (0x41 ≤ code && code ≤ 0x5A) || (0xC0 ≤ code && code ≤ 0xDE && code != 0xD7) ||
      (0x391 ≤ code && code ≤ 0x3AB && code != 0x3A2) ||
      (0x410 ≤ code && code ≤ 0x42F) then
    [Char.ofNat (code + 0x20)]
  else if 0x400 ≤ code && code ≤ 0x40F then [Char.ofNat (code + 0x50)]
  else if (0x100 ≤ code && code ≤ 0x137 && code != 0x130 || 0x14A ≤ code && code ≤ 0x177)
      && code % 2 = 0 then
    [Char.ofNat (code + 1)]
  else if code = 0x3002 || code = 0xFF0E || code = 0xFF61 then ['.']
  else if 0xFF01 ≤ code && code ≤ 0xFF5E then [(Char.ofNat (code - 0xFEE0)).toLower]
  else if code = 0xAD || code = 0x200B || code = 0x2060 || code = 0xFEFF then []
  else [character]

/-- Characters that no name may hold: controls, the space, and what separates the
parts of an address. -/
def isForbidden (character : Char) : Bool :=
  character.toNat ≤ 0x20 || character.toNat = 0x7F ||
    "#%/:<>?@[\\]^|".toList.contains character

/-- A label in its ASCII form.  A label that claims to be in that form already must
stand for a label beyond ASCII. -/
def asciiLabel? (label : List Char) : Option (List Char) :=
  if label.any (0x80 ≤ ·.toNat) then some ("xn--".toList ++ Punycode.encode label)
  else if "xn--".toList.isPrefixOf label then
    match Punycode.decode? (label.drop 4) with
    | some decoded => if decoded.any (0x80 ≤ ·.toNat) then some label else none
    | none => none
  else some label

/-- The name that a text spells, in ASCII. -/
def parseName? (text : List Char) : Option (List Char) := do
  let folded := text.flatMap fold
  let labels ← (folded.splitOn '.').mapM asciiLabel?
  let name := List.intercalate ['.'] labels
  if name.any isForbidden then none else some name

/-- The host that a text spells where names are resolved: escapes are undone first. -/
def parse? (text : List Char) : Option Host :=
  match text with
  | '[' :: rest =>
    if rest.getLast? = some ']' then (parseWide? rest.dropLast).map wideAddress
    else none
  | text => do
    let decoded ← Utf8.decode? (Percent.decode (Utf8.encodeChars text))
    let name ← parseName? decoded.toList
    if name.isEmpty then none
    else if endsInNumber name then (parseAddress? name).map address
    else some (.name (String.ofList name))

/-- The host that a text spells where names are left alone, apart from escaping
controls and characters beyond ASCII. -/
def parseOpaque? (text : List Char) : Option Host :=
  match text with
  | '[' :: rest =>
    if rest.getLast? = some ']' then (parseWide? rest.dropLast).map wideAddress
    else none
  | text =>
    if text.any fun character =>
        "\x00\t\n\r #/:<>?@[\\]^|".toList.contains character then none
    else
      let octets := Percent.encode (fun octet => octet < 0x20 || 0x7E < octet)
        (Utf8.encodeChars text)
      some (.name (String.ofList (octets.map fun octet => Char.ofNat octet.toNat)))

/-- Where the first longest run of two or more zero pieces starts, and its length. -/
def zeroRun (pieces : List Nat) : Nat × Nat :=
  let runs := (List.range pieces.length).map fun start =>
    (start, ((pieces.drop start).takeWhile (· = 0)).length)
  runs.foldl (fun best run => if best.2 < run.2 && 2 ≤ run.2 then run else best) (0, 0)

/-- A piece of a wide address. -/
def printPiece (piece : Nat) : String :=
  String.ofList (Nat.toDigits 16 piece)

def print : Host → String
  | .name text => text
  | .address number =>
    String.intercalate "." ([16777216, 65536, 256, 1].map fun weight =>
      toString (number / weight % 256))
  | .wideAddress pieces =>
    let run := zeroRun pieces
    let join (side : List Nat) : String := String.intercalate ":" (side.map printPiece)
    if run.2 = 0 then "[" ++ join pieces ++ "]"
    else
      "[" ++ join (pieces.take run.1) ++ "::" ++ join (pieces.drop (run.1 + run.2)) ++ "]"

end Host

end SignIn
