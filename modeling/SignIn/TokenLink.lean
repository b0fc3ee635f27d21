import SignIn.Text.Form
import SignIn.Text.Trim

/-!
# Tokens in links

A bearer may be handed over in a link, as the parameter `token` of its query, or in
the query alone.
-/

namespace SignIn

namespace TokenLink

/-- The query of a link: what follows the first question mark, or the whole of a text
that assigns something, and in either case only up to a fragment. -/
def query? (input : String) : Option String :=
  let text := (Trim.blanks input).toList
  let query :=
    if text.contains '?' then some ((text.dropWhile (· != '?')).drop 1)
    else if text.contains '=' then some text
    else none
  query.map fun query => String.ofList (query.takeWhile (· != '#'))

/-- The token that a link carries: the value of the first parameter of that name,
unless it is empty. -/
def token? (input : String) : Option String := do
  let query ← query? input
  let pair ← (Form.pairs (Utf8.encode query)).find? (·.1 == "token")
  if pair.2 = "" then none else some pair.2

end TokenLink

end SignIn
