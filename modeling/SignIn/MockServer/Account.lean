import SignIn.Json.Value
import SignIn.Text.Utf8

/-!
# Accounts of the mock server

The accounts that a mock server knows and the two forms in which it tells of them.  An
account may report anything as the breakdown of its reputation, so that clients can be
tried with breakdowns they do not understand.
-/

namespace SignIn

/-- An account of a mock server. -/
structure MockAccount where
  fid : UInt64
  username : String
  displayName : String
  bio : String
  pictureUrl : String
  custody : String
  addresses : List String
  reputation : UInt32
  reputationData : Json.Value
  mutedUsers : List String
  deriving Repr

namespace MockAccount

/-- A number as an address of forty hexadecimal digits. -/
def address (number : UInt64) : String :=
  let digits := Nat.toDigits 16 number.toNat
  "0x" ++ String.ofList (List.replicate (40 - digits.length) '0' ++ digits)

open Json Value in
/-- A plausible breakdown of a reputation. -/
def sampleData : Value :=
  object [
    ("activityCounts", object [
      ("castedVotes", natural 17),
      ("communitiesCount", natural 1),
      ("electionsCreated", natural 3),
      ("followersCount", natural 42),
      ("participationAchievement", natural 5)]),
    ("boosters", object [
      ("hasVotecasterNFTPass", boolean false),
      ("isVocdoniFarcasterFollower", boolean true)]),
    ("points", object [
      ("ownerPoints", natural 30),
      ("totalPoints", natural 100),
      ("voterPoints", natural 70)]),
    ("totalReputation", natural 12)]

/-- A plausible account with a small amount of activity. -/
def sample (fid : UInt64) (username : String) : MockAccount where
  fid := fid
  username := username
  displayName := "Fixture " ++ username
  bio := "This is a test user from the fixture server"
  pictureUrl := "https://example.test/avatars/" ++ toString fid ++ ".png"
  custody := address fid
  addresses := [address (fid + 1)]
  reputation := 12
  reputationData := sampleData
  mutedUsers := []

open Json Value in
/-- The profile of an account, as a redeemed ticket tells it. -/
def profileValue (account : MockAccount) : Value :=
  object [
    ("bio", text account.bio),
    ("custody", text account.custody),
    ("displayName", text account.displayName),
    ("fid", natural account.fid.toNat),
    ("pfpUrl", text account.pictureUrl),
    ("username", text account.username),
    ("verifications", texts account.addresses)]

open Json Value in
/-- The record of an account, as the server tells it to its user. -/
def userValue (account : MockAccount) : Value :=
  object [
    ("addresses", texts account.addresses),
    ("avatar", text account.pictureUrl),
    ("bio", text account.bio),
    ("castedVotes", natural 17),
    ("custodyAddress", text account.custody),
    ("displayname", text account.displayName),
    ("electionCount", natural 3),
    ("followers", natural 42),
    ("lastUpdated", text "2024-06-01T12:00:00Z"),
    ("signers", list []),
    ("userID", natural account.fid.toNat),
    ("username", text account.username)]

end MockAccount

end SignIn
