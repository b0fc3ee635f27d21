import SignIn.Json.Record
import SignIn.Json.Printer

/-!
# Profiles

Who is signed in.  A profile has one form in which it travels and is stored, and a
server's own record of a user is another form of the same data.
-/

namespace SignIn

/-- The identity of a signed-in user. -/
structure Profile where
  /-- The number of the account. -/
  fid : UInt64
  username : String
  displayName : String
  bio : String
  /-- Where the picture of the user is found. -/
  pictureUrl : String
  /-- The address that holds the account. -/
  custody : String
  /-- The addresses proven to belong to the user. -/
  verifications : List String
  deriving DecidableEq, Repr, Inhabited

namespace Profile

structure Draft where
  fid : Option UInt64 := none
  username : Option String := none
  displayName : Option String := none
  bio : Option String := none
  pictureUrl : Option String := none
  custody : Option String := none
  verifications : Option (List String) := none

open Json in
/-- A profile in its own form: the account's number and the name are required. -/
def shape : Shape Draft Profile where
  name := "Profile"
  fields := [
    ⟨"fid", (·.fid.isSome),
      Reader.word64.map fun value draft => { draft with fid := some value }⟩,
    ⟨"username", (·.username.isSome),
      Reader.text.map fun value draft => { draft with username := some value }⟩,
    ⟨"displayName", (·.displayName.isSome),
      Reader.text.map fun value draft => { draft with displayName := some value }⟩,
    ⟨"bio", (·.bio.isSome),
      Reader.text.map fun value draft => { draft with bio := some value }⟩,
    ⟨"pfpUrl", (·.pictureUrl.isSome),
      Reader.text.map fun value draft => { draft with pictureUrl := some value }⟩,
    ⟨"custody", (·.custody.isSome),
      Reader.text.map fun value draft => { draft with custody := some value }⟩,
    ⟨"verifications", (·.verifications.isSome),
      (Reader.list .text).map fun value draft =>
        { draft with verifications := some value }⟩]
  blank := {}
  finish draft := do
    let fid ← Json.required "fid" draft.fid
    let username ← Json.required "username" draft.username
    return {
      fid, username
      displayName := draft.displayName.getD ""
      bio := draft.bio.getD ""
      pictureUrl := draft.pictureUrl.getD ""
      custody := draft.custody.getD ""
      verifications := draft.verifications.getD [] }

def decode (document : Octets) : Except Json.DecodeError Profile :=
  shape.reader.decode document

open Json in
def print (profile : Profile) : String :=
  printObject [
    ("fid", printNatural profile.fid.toNat),
    ("username", printText profile.username),
    ("displayName", printText profile.displayName),
    ("bio", printText profile.bio),
    ("pfpUrl", printText profile.pictureUrl),
    ("custody", printText profile.custody),
    ("verifications", printList (profile.verifications.map printText))]

end Profile

structure UserDraft where
  userId : Option UInt64 := none
  username : Option String := none
  displayName : Option String := none
  bio : Option (Option String) := none
  avatar : Option (Option String) := none
  custodyAddress : Option String := none
  addresses : Option (List String) := none

open Json in
/-- A profile in the form of a server's record of a user, where the texts about the
user and the picture may also be absent. -/
def Profile.userShape : Shape UserDraft Profile where
  name := "UserRecord"
  fields := [
    ⟨"userID", (·.userId.isSome),
      Reader.word64.map fun value draft => { draft with userId := some value }⟩,
    ⟨"username", (·.username.isSome),
      Reader.text.map fun value draft => { draft with username := some value }⟩,
    ⟨"displayname", (·.displayName.isSome),
      Reader.text.map fun value draft => { draft with displayName := some value }⟩,
    ⟨"bio", (·.bio.isSome),
      (Reader.optional .text).map fun value draft => { draft with bio := some value }⟩,
    ⟨"avatar", (·.avatar.isSome),
      (Reader.optional .text).map fun value draft =>
        { draft with avatar := some value }⟩,
    ⟨"custodyAddress", (·.custodyAddress.isSome),
      Reader.text.map fun value draft => { draft with custodyAddress := some value }⟩,
    ⟨"addresses", (·.addresses.isSome),
      (Reader.list .text).map fun value draft =>
        { draft with addresses := some value }⟩]
  blank := {}
  finish draft := do
    let fid ← Json.required "userID" draft.userId
    let username ← Json.required "username" draft.username
    return {
      fid, username
      displayName := draft.displayName.getD ""
      bio := draft.bio.join.getD ""
      pictureUrl := draft.avatar.join.getD ""
      custody := draft.custodyAddress.getD ""
      verifications := draft.addresses.getD [] }

end SignIn
