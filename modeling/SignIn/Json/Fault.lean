import SignIn.Text.Utf8
import SignIn.Text.Shortest
import SignIn.Text.Quoted

/-!
# What can be wrong with a document

A fault is a cause and a point of the document.  While a document is read the point
is kept as the number of octets that follow it, which is all a reader of the front
of a document can know; once the whole document is at hand it becomes a line and a
column.
-/

namespace SignIn

namespace Json

/-- The kinds of value that a place of a document may call for. -/
inductive Kind where
  | word64
  | word32
  | text
  | boolean
  | sequence
  | map
  | record (name : String)
  deriving DecidableEq, Repr

def Kind.message : Kind → String
  | .word64 => "u64"
  | .word32 => "u32"
  | .text => "a string"
  | .boolean => "a boolean"
  | .sequence => "a sequence"
  | .map => "a map"
  | .record name => "struct " ++ name

/-- A value of the wrong kind, as far as a message tells it. -/
inductive Found where
  | null
  | boolean (value : Bool)
  | integer (value : Int)
  | float (bits : UInt64)
  | text (value : String)
  | sequence
  | map
  deriving DecidableEq, Repr

/-- Floating-point numbers are written plainly from a hundred-thousandth up to ten
quadrillions and with a signed exponent beyond. -/
def floatLayout : Shortest.Layout :=
  ⟨-5, 15, "+"⟩

def Found.message : Found → String
  | .null => "null"
  | .boolean value => "boolean `" ++ toString value ++ "`"
  | .integer value => "integer `" ++ toString value ++ "`"
  | .float bits => "floating point `" ++ floatLayout.ofBits bits ++ "`"
  | .text value => "string " ++ Quoted.text value
  | .sequence => "sequence"
  | .map => "map"

/-- The causes for which a document is refused. -/
inductive Cause where
  | endOfValue
  | endOfList
  | endOfObject
  | endOfText
  | expectedColon
  | expectedListEnd
  | expectedObjectEnd
  | expectedValue
  | expectedWord
  | keyMustBeText
  | trailingComma
  | trailingCharacters
  | invalidNumber
  | numberOutOfRange
  | invalidEscape
  | invalidCodePoint
  | loneSurrogate
  | endOfHexEscape
  | controlCharacter
  | wrongKind (found : Found) (expected : Kind)
  | outOfRange (value : Int) (expected : Kind)
  | wrongLength (length : Nat) (name : String) (fields : Nat)
  | missingField (name : String)
  | duplicateField (name : String)
  deriving DecidableEq, Repr

def Cause.message : Cause → String
  | .endOfValue => "EOF while parsing a value"
  | .endOfList => "EOF while parsing a list"
  | .endOfObject => "EOF while parsing an object"
  | .endOfText => "EOF while parsing a string"
  | .expectedColon => "expected `:`"
  | .expectedListEnd => "expected `,` or `]`"
  | .expectedObjectEnd => "expected `,` or `\x7d`"
  | .expectedValue => "expected value"
  | .expectedWord => "expected ident"
  | .keyMustBeText => "key must be a string"
  | .trailingComma => "trailing comma"
  | .trailingCharacters => "trailing characters"
  | .invalidNumber => "invalid number"
  | .numberOutOfRange => "number out of range"
  | .invalidEscape => "invalid escape"
  | .invalidCodePoint => "invalid unicode code point"
  | .loneSurrogate => "lone leading surrogate in hex escape"
  | .endOfHexEscape => "unexpected end of hex escape"
  | .controlCharacter =>
    "control character (\\u0000-\\u001F) found while parsing a string"
  | .wrongKind found expected =>
    "invalid type: " ++ found.message ++ ", expected " ++ expected.message
  | .outOfRange value expected =>
    "invalid value: integer `" ++ toString value ++ "`, expected " ++ expected.message
  | .wrongLength length name fields =>
    "invalid length " ++ toString length ++ ", expected struct " ++ name ++ " with " ++
      toString fields ++ (if fields = 1 then " element" else " elements")
  | .missingField name => "missing field `" ++ name ++ "`"
  | .duplicateField name => "duplicate field `" ++ name ++ "`"

/-- A cause and the number of octets that follow the point it is reported at. -/
structure Fault where
  cause : Cause
  remaining : Nat
  deriving DecidableEq, Repr

namespace Fault

/-- A fault reported right before the octets that are left. -/
def before (cause : Cause) (left : Octets) : Fault :=
  ⟨cause, left.length⟩

/-- A fault reported at the next octet, or at the end of the document. -/
def onNext (cause : Cause) (left : Octets) : Fault :=
  ⟨cause, left.length - 1⟩

end Fault

/-- A refused document: the cause, the line of the point counted from one, and the
number of octets of that line up to the point. -/
structure DecodeError where
  cause : Cause
  line : Nat
  column : Nat
  deriving DecidableEq, Repr

/-- The line and the column after a number of octets. -/
def position (document : Octets) (count : Nat) : Nat × Nat :=
  let front := document.take count
  (front.count 0x0A + 1, (front.reverse.takeWhile (· != 0x0A)).length)

/-- A fault placed in its document. -/
def Fault.place (fault : Fault) (document : Octets) : DecodeError :=
  let point := position document (document.length - fault.remaining)
  ⟨fault.cause, point.1, point.2⟩

def DecodeError.message (error : DecodeError) : String :=
  error.cause.message ++ " at line " ++ toString error.line ++ " column " ++
    toString error.column

end Json

end SignIn
