import SignIn.Storage.Backing
import SignIn.Profile
import SignIn.Reputation

/-!
# Sessions in a store

A session is kept in three entries of a store: the bearer as it is, and the profile
and the reputation in written form.  Other entries are left alone.  Reading never
fails: an entry that is missing or cannot be read counts as absent, and so does an
empty bearer.
-/

namespace SignIn

/-- A session: a bearer, whom it belongs to, and their reputation. -/
structure SignedIn where
  bearer : String
  profile : Profile
  reputation : Reputation
  deriving DecidableEq, Repr

/-- What a store holds of a session. -/
structure Stored where
  bearer : Option String := none
  profile : Option Profile := none
  reputation : Option Reputation := none
  deriving DecidableEq, Repr

namespace Stored

def isEmpty (stored : Stored) : Bool :=
  stored.bearer.isNone && stored.profile.isNone && stored.reputation.isNone

def bearerKey : String := "bearer"

def profileKey : String := "profile"

def reputationKey : String := "reputation"

/-- What entries hold of a session. -/
def ofEntries (entries : Entries) : Stored where
  bearer := (entries.get? bearerKey).filter (· != "")
  profile := (entries.get? profileKey).bind fun text =>
    (Profile.decode (Utf8.encode text)).toOption
  reputation := (entries.get? reputationKey).bind fun text =>
    (Reputation.decode (Utf8.encode text)).toOption

end Stored

namespace Entries

/-- Entries with those of a session replaced. -/
def withSession (entries : Entries) (session : SignedIn) : Entries :=
  ((entries.insert Stored.bearerKey session.bearer).insert
    Stored.profileKey session.profile.print).insert
    Stored.reputationKey session.reputation.print

def withoutSession (entries : Entries) : Entries :=
  ((entries.erase Stored.bearerKey).erase Stored.profileKey).erase Stored.reputationKey

end Entries

namespace Backing

/-- What the store holds of a session; a store that cannot be read holds nothing. -/
def load (backing : Backing) : Stored :=
  match backing.read with
  | .ok entries => .ofEntries entries
  | .error _ => {}

/-- The entries to keep: a store that cannot be read is written anew. -/
def kept (backing : Backing) : Entries :=
  match backing.read with
  | .ok entries => entries
  | .error _ => .empty

/-- The store with a session put in, in one write. -/
def save (backing : Backing) (session : SignedIn) : Backing × Except StoreError Unit :=
  backing.write (backing.kept.withSession session)

/-- The store without a session, in one write. -/
def clear (backing : Backing) : Backing × Except StoreError Unit :=
  backing.write backing.kept.withoutSession

end Backing

end SignIn
