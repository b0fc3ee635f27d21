import SignIn.Json.Printer

/-!
# Values of any kind

A document whose shape is not known beforehand.  A server may report such a value
as the breakdown of a reputation, whatever it holds.
-/

namespace SignIn

namespace Json

/-- A value of any kind; the members of an object are kept in the order they are
written in. -/
inductive Value where
  | null
  | boolean (value : Bool)
  | number (value : Number)
  | text (value : String)
  | list (items : List Value)
  | object (members : List (String × Value))
  deriving Repr, Inhabited

namespace Value

mutual

def print : Value → String
  | null => "null"
  | boolean value => printBoolean value
  | number value => value.print
  | text value => printText value
  | list items => printList (printItems items)
  | object members => printObject (printMembers members)

def printItems : List Value → List String
  | [] => []
  | item :: items => item.print :: printItems items

/-- The members of an object with their values in written form. -/
def printMembers : List (String × Value) → List (String × String)
  | [] => []
  | (name, member) :: members => (name, member.print) :: printMembers members

end

/-- A natural number as a value. -/
def natural (value : Nat) : Value :=
  number (.natural value)

/-- A list of texts as a value. -/
def texts (items : List String) : Value :=
  list (items.map text)

end Value

end Json

end SignIn
