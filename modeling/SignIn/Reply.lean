import SignIn.Profile
import SignIn.Reputation

/-!
# What a server replies

The bodies of successful replies: a ticket to sign in with, a redeemed ticket, and
the account behind a bearer.
-/

namespace SignIn

/-- A one-time ticket to sign in with, and where the user takes it. -/
structure Ticket where
  id : String
  url : String
  deriving DecidableEq, Repr, Inhabited

namespace Ticket

structure Draft where
  id : Option String := none
  url : Option String := none

open Json in
/-- A ticket: both parts are required. -/
def shape : Shape Draft Ticket where
  name := "HandshakeTicket"
  fields := [
    ⟨"id", (·.id.isSome),
      Reader.text.map fun value draft => { draft with id := some value }⟩,
    ⟨"url", (·.url.isSome),
      Reader.text.map fun value draft => { draft with url := some value }⟩]
  blank := {}
  finish draft := do
    let id ← required "id" draft.id
    let url ← required "url" draft.url
    return { id, url }

def decode (document : Octets) : Except Json.DecodeError Ticket :=
  shape.reader.decode document

end Ticket

/-- What a redeemed ticket yields: a bearer and the profile it belongs to. -/
structure Redemption where
  bearer : String
  profile : Profile
  deriving DecidableEq, Repr

namespace Redemption

structure Draft where
  bearer : Option String := none
  profile : Option Profile := none

open Json in
/-- A redemption: both parts are required. -/
def shape : Shape Draft Redemption where
  name := "RedeemedBody"
  fields := [
    ⟨"authToken", (·.bearer.isSome),
      Reader.text.map fun value draft => { draft with bearer := some value }⟩,
    ⟨"profile", (·.profile.isSome),
      Profile.shape.reader.map fun value draft => { draft with profile := some value }⟩]
  blank := {}
  finish draft := do
    let bearer ← required "authToken" draft.bearer
    let profile ← required "profile" draft.profile
    return { bearer, profile }

def decode (document : Octets) : Except Json.DecodeError Redemption :=
  shape.reader.decode document

end Redemption

/-- The account behind a bearer. -/
structure Account where
  profile : Profile
  reputation : Reputation
  deriving DecidableEq, Repr

namespace Account

structure Draft where
  user : Option Profile := none
  reputation : Option UInt32 := none
  data : Option ReputationData := none

open Json in
/-- An account as a server reports it: only the breakdown of the reputation may be
missing. -/
def shape : Shape Draft Account where
  name := "ProfileResponse"
  fields := [
    ⟨"user", (·.user.isSome),
      Profile.userShape.reader.map fun value draft => { draft with user := some value }⟩,
    ⟨"reputation", (·.reputation.isSome),
      Reader.word32.map fun value draft => { draft with reputation := some value }⟩,
    ⟨"reputationData", (·.data.isSome),
      ReputationData.shape.reader.map fun value draft =>
        { draft with data := some value }⟩]
  blank := {}
  finish draft := do
    let profile ← required "user" draft.user
    let reputation ← required "reputation" draft.reputation
    return { profile, reputation := { reputation, data := draft.data.getD {} } }

def decode (document : Octets) : Except Json.DecodeError Account :=
  shape.reader.decode document

end Account

end SignIn
