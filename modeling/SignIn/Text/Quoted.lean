import SignIn.Text.Visible

/-!
# Quotations

A text shown inside a message: between double quotes, with the quote and the
backslash marked by a backslash and everything that cannot be seen spelled by its
code point.
-/

namespace SignIn

namespace Quoted

/-- How one character is shown. -/
def character (shown : Char) : String :=
  match shown with
  | '\x00' => "\\0"
  | '\t' => "\\t"
  | '\r' => "\\r"
  | '\n' => "\\n"
  | '"' => "\\\""
  | '\\' => "\\\\"
  | other =>
    if Visible.stands other then
      String.singleton other
    else
      "\\u\x7b" ++ String.ofList (Nat.toDigits 16 other.toNat) ++ "\x7d"

def text (shown : String) : String :=
  "\"" ++ String.join (shown.toList.map character) ++ "\""

end Quoted

end SignIn
