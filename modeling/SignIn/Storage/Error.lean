import SignIn.Json.Fault

/-!
# What can go wrong with a store

A store fails when its medium does, when what it finds cannot be read, or when a
finished file cannot take the place of the one before.
-/

namespace SignIn

/-- The ways in which a medium fails. -/
inductive MediumFault where
  | noEntry
  | busy
  | occupied
  | notDirectory
  | isDirectory
  | nameTooLong
  | nulInName
  | notText
  | refused (operation : String)
  deriving DecidableEq, Repr

def MediumFault.message : MediumFault → String
  | noEntry => "No such file or directory (os error 2)"
  | busy => "Device or resource busy (os error 16)"
  | occupied => "File exists (os error 17)"
  | notDirectory => "Not a directory (os error 20)"
  | isDirectory => "Is a directory (os error 21)"
  | nameTooLong => "File name too long (os error 36)"
  | nulInName => "file name contained an unexpected NUL byte"
  | notText => "stream did not contain valid UTF-8"
  | refused operation => operation ++ " refused"

/-- What can go wrong with a store. -/
inductive StoreError where
  | medium (fault : MediumFault)
  | unreadable (error : Json.DecodeError)
  | notReplaced (fault : MediumFault)
  deriving DecidableEq, Repr

namespace StoreError

/-- The text of the error behind an error. -/
def cause : StoreError → String
  | medium fault => fault.message
  | unreadable error => error.message
  | notReplaced fault => "failed to persist temporary file: " ++ fault.message

def message (error : StoreError) : String :=
  (match error with
    | medium _ => "session storage I/O failed: "
    | unreadable _ => "session storage encoding failed: "
    | notReplaced _ => "failed to replace session file: ") ++ error.cause

end StoreError

end SignIn
