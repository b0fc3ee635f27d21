import SignIn.Json.Record
import SignIn.Json.Printer

/-!
# Reputations

A score and what it is made of, as it was at one moment.  A reputation is always
replaced as a whole.  Every part of the breakdown may be missing from a document and
then counts as zero or empty.
-/

namespace SignIn

structure ActivityCounts where
  followersCount : UInt64 := 0
  electionsCreated : UInt64 := 0
  castedVotes : UInt64 := 0
  participationAchievement : UInt64 := 0
  communitiesCount : UInt64 := 0
  deriving DecidableEq, Repr, Inhabited

/-- What a user has earned. -/
structure Points where
  ownerPoints : UInt64 := 0
  voterPoints : UInt64 := 0
  totalPoints : UInt64 := 0
  deriving DecidableEq, Repr, Inhabited

structure ReputationData where
  activityCounts : ActivityCounts := {}
  /-- By the name of a booster, whether the user holds it. -/
  boosters : Dictionary Bool := .empty
  points : Points := {}
  totalReputation : UInt32 := 0
  deriving DecidableEq, Repr, Inhabited

/-- A score and its breakdown. -/
structure Reputation where
  reputation : UInt32 := 0
  data : ReputationData := {}
  deriving DecidableEq, Repr, Inhabited

namespace ActivityCounts

structure Draft where
  followersCount : Option UInt64 := none
  electionsCreated : Option UInt64 := none
  castedVotes : Option UInt64 := none
  participationAchievement : Option UInt64 := none
  communitiesCount : Option UInt64 := none

open Json in
/-- The counts, each of which may be missing. -/
def shape : Shape Draft ActivityCounts where
  name := "ActivityCounts"
  fields := [
    ⟨"followersCount", (·.followersCount.isSome),
      Reader.word64.map fun value draft =>
        { draft with followersCount := some value }⟩,
    ⟨"electionsCreated", (·.electionsCreated.isSome),
      Reader.word64.map fun value draft =>
        { draft with electionsCreated := some value }⟩,
    ⟨"castedVotes", (·.castedVotes.isSome),
      Reader.word64.map fun value draft => { draft with castedVotes := some value }⟩,
    ⟨"participationAchievement", (·.participationAchievement.isSome),
      Reader.word64.map fun value draft =>
        { draft with participationAchievement := some value }⟩,
    ⟨"communitiesCount", (·.communitiesCount.isSome),
      Reader.word64.map fun value draft =>
        { draft with communitiesCount := some value }⟩]
  blank := {}
  finish draft := .ok {
    followersCount := draft.followersCount.getD 0
    electionsCreated := draft.electionsCreated.getD 0
    castedVotes := draft.castedVotes.getD 0
    participationAchievement := draft.participationAchievement.getD 0
    communitiesCount := draft.communitiesCount.getD 0 }

def decode (document : Octets) : Except Json.DecodeError ActivityCounts :=
  shape.reader.decode document

open Json in
def print (counts : ActivityCounts) : String :=
  printObject [
    ("followersCount", printNatural counts.followersCount.toNat),
    ("electionsCreated", printNatural counts.electionsCreated.toNat),
    ("castedVotes", printNatural counts.castedVotes.toNat),
    ("participationAchievement", printNatural counts.participationAchievement.toNat),
    ("communitiesCount", printNatural counts.communitiesCount.toNat)]

end ActivityCounts

namespace Points

structure Draft where
  ownerPoints : Option UInt64 := none
  voterPoints : Option UInt64 := none
  totalPoints : Option UInt64 := none

open Json in
/-- The points, each of which may be missing. -/
def shape : Shape Draft Points where
  name := "Points"
  fields := [
    ⟨"ownerPoints", (·.ownerPoints.isSome),
      Reader.word64.map fun value draft => { draft with ownerPoints := some value }⟩,
    ⟨"voterPoints", (·.voterPoints.isSome),
      Reader.word64.map fun value draft => { draft with voterPoints := some value }⟩,
    ⟨"totalPoints", (·.totalPoints.isSome),
      Reader.word64.map fun value draft => { draft with totalPoints := some value }⟩]
  blank := {}
  finish draft := .ok {
    ownerPoints := draft.ownerPoints.getD 0
    voterPoints := draft.voterPoints.getD 0
    totalPoints := draft.totalPoints.getD 0 }

def decode (document : Octets) : Except Json.DecodeError Points :=
  shape.reader.decode document

open Json in
def print (points : Points) : String :=
  printObject [
    ("ownerPoints", printNatural points.ownerPoints.toNat),
    ("voterPoints", printNatural points.voterPoints.toNat),
    ("totalPoints", printNatural points.totalPoints.toNat)]

end Points

namespace ReputationData

structure Draft where
  activityCounts : Option ActivityCounts := none
  boosters : Option (Dictionary Bool) := none
  points : Option Points := none
  totalReputation : Option UInt32 := none

open Json in
/-- The breakdown, each part of which may be missing. -/
def shape : Shape Draft ReputationData where
  name := "ReputationData"
  fields := [
    ⟨"activityCounts", (·.activityCounts.isSome),
      ActivityCounts.shape.reader.map fun value draft =>
        { draft with activityCounts := some value }⟩,
    ⟨"boosters", (·.boosters.isSome),
      (Reader.dictionary .boolean).map fun value draft =>
        { draft with boosters := some value }⟩,
    ⟨"points", (·.points.isSome),
      Points.shape.reader.map fun value draft => { draft with points := some value }⟩,
    ⟨"totalReputation", (·.totalReputation.isSome),
      Reader.word32.map fun value draft =>
        { draft with totalReputation := some value }⟩]
  blank := {}
  finish draft := .ok {
    activityCounts := draft.activityCounts.getD {}
    boosters := draft.boosters.getD .empty
    points := draft.points.getD {}
    totalReputation := draft.totalReputation.getD 0 }

def decode (document : Octets) : Except Json.DecodeError ReputationData :=
  shape.reader.decode document

open Json in
/-- The breakdown in written form, the boosters in the order of their names. -/
def print (data : ReputationData) : String :=
  printObject [
    ("activityCounts", data.activityCounts.print),
    ("boosters", printObject (data.boosters.toList.map fun booster =>
      (booster.1, printBoolean booster.2))),
    ("points", data.points.print),
    ("totalReputation", printNatural data.totalReputation.toNat)]

end ReputationData

namespace Reputation

structure Draft where
  reputation : Option UInt32 := none
  data : Option ReputationData := none

open Json in
/-- A reputation in the form in which it is stored: both parts are required. -/
def shape : Shape Draft Reputation where
  name := "Reputation"
  fields := [
    ⟨"reputation", (·.reputation.isSome),
      Reader.word32.map fun value draft => { draft with reputation := some value }⟩,
    ⟨"data", (·.data.isSome),
      ReputationData.shape.reader.map fun value draft =>
        { draft with data := some value }⟩]
  blank := {}
  finish draft := do
    let reputation ← Json.required "reputation" draft.reputation
    let data ← Json.required "data" draft.data
    return { reputation, data }

open Json in
/-- A reputation in the form in which a server reports it: the breakdown may be
missing. -/
def reportShape : Shape Draft Reputation where
  name := "ReputationResponse"
  fields := [
    ⟨"reputation", (·.reputation.isSome),
      Reader.word32.map fun value draft => { draft with reputation := some value }⟩,
    ⟨"reputationData", (·.data.isSome),
      ReputationData.shape.reader.map fun value draft =>
        { draft with data := some value }⟩]
  blank := {}
  finish draft := do
    let reputation ← Json.required "reputation" draft.reputation
    return { reputation, data := draft.data.getD {} }

def decode (document : Octets) : Except Json.DecodeError Reputation :=
  shape.reader.decode document

def decodeReport (document : Octets) : Except Json.DecodeError Reputation :=
  reportShape.reader.decode document

open Json in
def print (reputation : Reputation) : String :=
  printObject [
    ("reputation", printNatural reputation.reputation.toNat),
    ("data", reputation.data.print)]

end Reputation

end SignIn
