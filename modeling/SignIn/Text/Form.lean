import SignIn.Text.Percent

/-!
# Form data

The pairs written in a query: pieces between `&`, each a key and a value around
its first `=`, in which `+` stands for a space and octets may be escaped.  Every
text has a reading, since a broken escape stands for itself and broken text is
mended with replacement characters.
-/

namespace SignIn

namespace Form

/-- The text of one key or value. -/
def decodePiece (piece : Octets) : String :=
  Utf8.decodeLossy (Percent.decode (piece.map fun octet =>
    if octet = 0x2B then 0x20 else octet))

/-- A piece cut at its first `=`; without one the value is empty. -/
def decodePair (piece : Octets) : String × String :=
  (decodePiece (piece.takeWhile (· != 0x3D)),
    decodePiece ((piece.dropWhile (· != 0x3D)).drop 1))

/-- The pairs of an octet string in their order; empty pieces stand for nothing. -/
def pairs (query : Octets) : List (String × String) :=
  ((query.splitOn 0x26).filter (· != [])).map decodePair

end Form

end SignIn
