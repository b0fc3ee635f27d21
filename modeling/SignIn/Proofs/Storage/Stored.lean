import SignIn.Proofs.Storage.Backing
import SignIn.Session

/-!
# Sessions in the entries of a store

Entries hold a session if they have its bearer as it is and texts that decode to its
profile and to its reputation.  Saving a session makes the store hold it, and what is
restored from a store is a session that the store holds.  A session whose bearer is
empty is held but not restored: its bearer counts as absent.
-/

namespace SignIn

/-- The names of the entries of a session. -/
def Stored.keys : List String :=
  [bearerKey, profileKey, reputationKey]

namespace Entries

/-- Entries hold exactly a session. -/
structure Holds (entries : Entries) (session : SignedIn) : Prop where
  bearer : entries.get? Stored.bearerKey = some session.bearer
  profile : ∃ text, entries.get? Stored.profileKey = some text ∧
    Profile.decode (Utf8.encode text) = .ok session.profile
  reputation : ∃ text, entries.get? Stored.reputationKey = some text ∧
    Reputation.decode (Utf8.encode text) = .ok session.reputation

theorem profileKey_ne_bearerKey : Stored.profileKey ≠ Stored.bearerKey := by
  decide

theorem reputationKey_ne_bearerKey : Stored.reputationKey ≠ Stored.bearerKey := by
  decide

theorem reputationKey_ne_profileKey : Stored.reputationKey ≠ Stored.profileKey := by
  decide

/-- Entries into which a session has been put hold it, whatever they held before. -/
theorem holds_withSession (entries : Entries) (session : SignedIn) :
    (entries.withSession session).Holds session where
  bearer := by
    rw [withSession, Dictionary.get?_insert_of_ne _ _ reputationKey_ne_bearerKey.symm,
      Dictionary.get?_insert_of_ne _ _ profileKey_ne_bearerKey.symm,
      Dictionary.get?_insert_same]
  profile := by
    refine ⟨session.profile.print, ?_, Profile.decode_print session.profile⟩
    rw [withSession, Dictionary.get?_insert_of_ne _ _ reputationKey_ne_profileKey.symm,
      Dictionary.get?_insert_same]
  reputation := by
    refine ⟨session.reputation.print, ?_, Reputation.decode_print session.reputation⟩
    rw [withSession, Dictionary.get?_insert_same]

/-- Removing a session from entries removes its three entries and no other. -/
theorem get?_withoutSession (entries : Entries) (key : String) :
    entries.withoutSession.get? key = if key ∈ Stored.keys then none else entries.get? key := by
  unfold withoutSession Stored.keys
  by_cases reputation : key = Stored.reputationKey
  · simp [reputation]
  · rw [Dictionary.get?_erase_of_ne _ reputation]
    by_cases profile : key = Stored.profileKey
    · simp [profile]
    · rw [Dictionary.get?_erase_of_ne _ profile]
      by_cases bearer : key = Stored.bearerKey
      · simp [bearer]
      · rw [Dictionary.get?_erase_of_ne _ bearer]
        simp [reputation, profile, bearer]

theorem get?_bearerKey_withoutSession (entries : Entries) :
    entries.withoutSession.get? Stored.bearerKey = none := by
  rw [get?_withoutSession, if_pos (by decide)]

theorem Holds.unique {entries : Entries} {first second : SignedIn}
    (holdsFirst : entries.Holds first) (holdsSecond : entries.Holds second) :
    first = second := by
  obtain ⟨bearer, ⟨profileText, profileFound, profile⟩, ⟨text, found, reputation⟩⟩ :=
    holdsFirst
  obtain ⟨bearer', ⟨profileText', profileFound', profile'⟩, ⟨text', found', reputation'⟩⟩ :=
    holdsSecond
  rw [bearer, Option.some.injEq] at bearer'
  rw [profileFound, Option.some.injEq] at profileFound'
  rw [found, Option.some.injEq] at found'
  subst profileFound' found'
  rw [profile, Except.ok.injEq] at profile'
  rw [reputation, Except.ok.injEq] at reputation'
  cases first
  cases second
  simp_all

end Entries

namespace Stored

theorem ofEntries_of_holds {entries : Entries} {session : SignedIn}
    (holds : entries.Holds session) :
    ofEntries entries =
      ⟨if session.bearer = "" then none else some session.bearer, some session.profile,
        some session.reputation⟩ := by
  obtain ⟨bearer, ⟨_, profileFound, profile⟩, ⟨_, found, reputation⟩⟩ := holds
  simp only [ofEntries, bearer, profileFound, found, Option.bind_some, profile, reputation,
    Except.toOption]
  by_cases empty : session.bearer = ""
  · simp [empty]
  · simp [empty]

/-- A session that has been stored is restored unless its bearer is empty. -/
theorem restore_of_holds {entries : Entries} {session : SignedIn}
    (holds : entries.Holds session) :
    (ofEntries entries).restore =
      if session.bearer = "" then .corrupted
      else .session (.authenticated session) := by
  rw [ofEntries_of_holds holds]
  by_cases empty : session.bearer = ""
  · rw [if_pos empty, if_pos empty]
    rfl
  · rw [if_neg empty, if_neg empty]
    rfl

/-- Entries hold every session that is restored from them. -/
theorem holds_of_restore {entries : Entries} {session : SignedIn}
    (restored : (ofEntries entries).restore = .session (.authenticated session)) :
    entries.Holds session := by
  unfold restore at restored
  split at restored
  · rename_i bearer profile reputation found
    obtain rfl : (⟨bearer, profile, reputation⟩ : SignedIn) = session := by
      simpa using restored
    simp only [ofEntries, Stored.mk.injEq, Option.bind_eq_some_iff,
      Option.filter_eq_some_iff] at found
    obtain ⟨⟨bearerFound, _⟩, ⟨text, profileFound, profile⟩,
      ⟨text', found, reputation⟩⟩ := found
    refine ⟨bearerFound, ⟨text, profileFound, ?_⟩, ⟨text', found, ?_⟩⟩
    · revert profile
      cases Profile.decode (Utf8.encode text) <;> simp [Except.toOption]
    · revert reputation
      cases Reputation.decode (Utf8.encode text') <;> simp [Except.toOption]
  · simp at restored
  · contradiction

end Stored

namespace Backing

/-- The entries to keep are those that the store holds, unless it refuses to be read. -/
theorem kept_eq (backing : Backing) :
    backing.kept = if backing.refusal.read then .empty else backing.entries := by
  unfold kept read entries Medium.entries
  cases backing.refusal.read with
  | true => rfl
  | false => cases backing.medium.read <;> rfl

theorem load_eq (backing : Backing) : backing.load = .ofEntries backing.kept := by
  unfold load kept
  cases backing.read <;> rfl

theorem holds_save {backing after : Backing} {session : SignedIn}
    (saved : backing.save session = (after, .ok ())) : after.entries.Holds session := by
  rw [entries_write saved]
  exact Entries.holds_withSession backing.kept session

theorem entries_save_error {backing after : Backing} {session : SignedIn}
    {error : StoreError} (failed : backing.save session = (after, .error error)) :
    after.entries = backing.entries :=
  entries_write_error failed

theorem entries_clear (backing : Backing) :
    backing.clear.1.entries = backing.kept.withoutSession ∨
      backing.clear.1.entries = backing.entries := by
  cases cleared : backing.clear with
  | mk after outcome =>
      cases outcome with
      | ok _ => exact .inl (entries_write cleared)
      | error error => exact .inr (entries_write_error cleared)

@[simp]
theorem refusal_clear (backing : Backing) : backing.clear.1.refusal = backing.refusal :=
  backing.refusal_write _

theorem holds_of_load {backing : Backing} {session : SignedIn}
    (restored : backing.load.restore = .session (.authenticated session)) :
    backing.entries.Holds session := by
  have nothing : (Stored.ofEntries .empty).restore = .session .anonymous := rfl
  rw [load_eq, kept_eq] at restored
  cases refused : backing.refusal.read with
  | true =>
      rw [refused, if_pos rfl, nothing] at restored
      simp at restored
  | false =>
      rw [refused] at restored
      exact Stored.holds_of_restore restored

/-- A store that can be read restores a session that it holds, unless its bearer is
empty. -/
theorem restore_load_of_holds {backing : Backing} {session : SignedIn}
    (holds : backing.entries.Holds session) (readable : backing.refusal.read = false) :
    backing.load.restore =
      if session.bearer = "" then .corrupted
      else .session (.authenticated session) := by
  rw [load_eq, kept_eq, readable]
  exact Stored.restore_of_holds holds

end Backing

end SignIn
