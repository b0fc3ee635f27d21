import SignIn.Json.Number

/-!
# Writing documents

The one written form of a value: no blanks, members in a fixed order, and of all
characters only the quote, the backslash and the controls below U+0020 escaped.
-/

namespace SignIn

namespace Json

/-- The lower-case hexadecimal digit of a value below sixteen. -/
def hexDigit (value : Nat) : Char :=
  if value < 10 then Char.ofNat (0x30 + value) else Char.ofNat (0x57 + value)

/-- How a character is written inside a text. -/
def escape (character : Char) : List Char :=
  match character with
  | '"' => ['\\', '"']
  | '\\' => ['\\', '\\']
  | '\x08' => ['\\', 'b']
  | '\x09' => ['\\', 't']
  | '\x0A' => ['\\', 'n']
  | '\x0C' => ['\\', 'f']
  | '\x0D' => ['\\', 'r']
  | other =>
    if other.toNat < 0x20 then
      ['\\', 'u', '0', '0', hexDigit (other.toNat / 16), hexDigit (other.toNat % 16)]
    else
      [other]

/-- A text between quotes. -/
def printText (text : String) : String :=
  "\"" ++ String.ofList (text.toList.flatMap escape) ++ "\""

def printBoolean (value : Bool) : String :=
  if value then "true" else "false"

def printNatural (value : Nat) : String :=
  String.ofList (Nat.toDigits 10 value)

def printList (items : List String) : String :=
  "[" ++ String.intercalate "," items ++ "]"

def printObject (members : List (String × String)) : String :=
  "\x7b" ++
    String.intercalate "," (members.map fun member =>
      printText member.1 ++ ":" ++ member.2) ++
    "\x7d"

/-- An object of printed members, one to a line. -/
def printLines (members : List (String × String)) : String :=
  if members.isEmpty then
    "\x7b\x7d"
  else
    "\x7b\n" ++
      String.intercalate ",\n" (members.map fun member =>
        "  " ++ printText member.1 ++ ": " ++ member.2) ++
      "\n\x7d"

def Number.print : Number → String
  | .natural value => printNatural value
  | .negative magnitude => "-" ++ printNatural magnitude
  | .float bits => floatLayout.ofBits bits

end Json

end SignIn
