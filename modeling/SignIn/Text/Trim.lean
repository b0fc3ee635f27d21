/-!
# Trimming

Cutting a class of characters from the ends of a text: slashes around the joint
of two paths, and white space around a line typed by a person.
-/

namespace SignIn

namespace Trim

/-- A text without its leading characters of a class. -/
def leading (cut : Char → Bool) (text : String) : String :=
  String.ofList (text.toList.dropWhile cut)

/-- A text without its trailing characters of a class. -/
def trailing (cut : Char → Bool) (text : String) : String :=
  String.ofList (text.toList.reverse.dropWhile cut).reverse

/-- A text without the characters of a class at either end. -/
def both (cut : Char → Bool) (text : String) : String :=
  trailing cut (leading cut text)

/-- The characters of the Unicode property `White_Space`. -/
def isBlank (character : Char) : Bool :=
  let code := character.toNat
  (9 ≤ code && code ≤ 13) || code = 0x20 || code = 0x85 || code = 0xA0 ||
    code = 0x1680 || (0x2000 ≤ code && code ≤ 0x200A) || code = 0x2028 ||
    code = 0x2029 || code = 0x202F || code = 0x205F || code = 0x3000

/-- A text without the blanks at either end. -/
def blanks (text : String) : String :=
  both isBlank text

end Trim

end SignIn
