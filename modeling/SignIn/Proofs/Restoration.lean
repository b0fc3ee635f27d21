import SignIn.Proofs.Session

/-!
# What a controller makes of a store

A new controller, and one that reloads, signs in whoever the store holds whole.  Parts of a
session are removed from the store, and nothing else is; a store that holds none, or that
cannot be read, is left as it is.  After that the store and the controller agree, so that
reloading once more changes nothing.
-/

namespace SignIn

namespace Stored

def parts (stored : Stored) : Nat :=
  [stored.bearer.isSome, stored.profile.isSome, stored.reputation.isSome].count true

/-- A store with one or two parts of a session counts as corrupted. -/
theorem restore_eq_corrupted_iff (stored : Stored) :
    stored.restore = .corrupted ↔ stored.parts = 1 ∨ stored.parts = 2 := by
  obtain ⟨bearer, profile, reputation⟩ := stored
  cases bearer <;> cases profile <;> cases reputation <;> simp [restore, parts]

/-- Whoever is restored is what has been found, all of it. -/
theorem eq_of_restore {stored : Stored} {session : Session}
    (restored : stored.restore = .session session) :
    (session = .anonymous ∧ stored = {}) ∨
      ∃ current, session = .authenticated current ∧
        stored = ⟨some current.bearer, some current.profile, some current.reputation⟩ := by
  obtain ⟨bearer, profile, reputation⟩ := stored
  cases bearer <;> cases profile <;> cases reputation <;> simp [restore] at restored
  · exact .inl ⟨restored.symm, rfl⟩
  · exact .inr ⟨_, restored.symm, rfl⟩

/-- Entries restore exactly the session that they hold, if its bearer is not empty. -/
theorem restore_eq_authenticated_iff {entries : Entries} {session : SignedIn} :
    (ofEntries entries).restore = .session (.authenticated session) ↔
      entries.Holds session ∧ session.bearer ≠ "" := by
  constructor
  · intro restored
    have holds := holds_of_restore restored
    refine ⟨holds, fun empty => ?_⟩
    rw [restore_of_holds holds, if_pos empty] at restored
    contradiction
  · rintro ⟨holds, nonempty⟩
    rw [restore_of_holds holds, if_neg nonempty]

theorem ofEntries_withoutSession (entries : Entries) : ofEntries entries.withoutSession = {} := by
  have absent (key : String) (member : key ∈ keys) : entries.withoutSession.get? key = none := by
    rw [Entries.get?_withoutSession, if_pos member]
  simp [ofEntries, absent bearerKey (by decide), absent profileKey (by decide),
    absent reputationKey (by decide)]

end Stored

namespace Backing

section Read

variable {store : Backing} {entries : Entries} (read : store.read = .ok entries)

include read

theorem load_of_read : store.load = .ofEntries entries := by
  rw [load, read]

theorem kept_of_read : store.kept = entries := by
  rw [kept, read]

theorem readable_of_read : store.refusal.read = false := by
  cases refused : store.refusal.read with
  | false => rfl
  | true => simp [Backing.read, refused] at read

theorem read_clear (cleared : store.clear.2 = .ok ()) :
    store.clear.1.read = .ok entries.withoutSession := by
  have readable : store.clear.1.refusal.read = false := by
    rw [refusal_clear]
    exact readable_of_read read
  have written : store.write store.kept.withoutSession = (store.clear.1, .ok ()) :=
    Prod.ext rfl cleared
  rw [read_write written readable, kept_of_read read]

end Read

theorem load_of_unread {store : Backing} {error : StoreError}
    (unread : store.read = .error error) : store.load = {} := by
  rw [load, unread]

end Backing

namespace Controller

/-- What a controller makes of a store: it takes the session that the store holds and leaves
the store alone, or it signs nobody in and clears the store. -/
inductive TakesUp (store : Backing) (after : Controller) : Prop where
  | session {session : Session} (found : store.load.restore = .session session)
      (entered : after.session = session) (unwritten : after.store = store)
  | corrupted (found : store.load.restore = .corrupted) (dropped : after.session = .anonymous)
      (cleared : after.store = store.clear.1)

theorem takesUp_start (client : Client) (store : Backing) : TakesUp store (start client store) := by
  unfold start
  cases found : store.load.restore with
  | session session => exact .session found rfl rfl
  | corrupted => exact .corrupted found rfl rfl

theorem takesUp_reload (controller : Controller) :
    TakesUp controller.store controller.reload := by
  unfold reload
  cases found : controller.store.load.restore with
  | session session =>
      unfold adopt
      simp only
      split
      · rename_i same
        exact .session found same rfl
      · exact .session found rfl rfl
  | corrupted => exact .corrupted found rfl rfl

/-- A controller whose session is what its store holds has nothing to take up. -/
theorem reload_of_restored {controller : Controller}
    (restored : controller.store.load.restore = .session controller.session) :
    controller.reload = controller := by
  rw [reload, restored]
  simp [adopt]

/-- What a controller has made of a store. -/
structure Restores (store : Backing) (after : Controller) : Prop where
  /-- Exactly whoever the store holds whole is signed in. -/
  authenticated : ∀ session, after.session = .authenticated session ↔
    ∃ entries, store.read = .ok entries ∧ entries.Holds session ∧ session.bearer ≠ ""
  /-- In all other cases nobody is. -/
  anonymous : (∀ entries session, store.read = .ok entries → entries.Holds session →
    session.bearer = "") → after.session = .anonymous
  /-- If the store holds one or two parts of a session, the entries of a session are removed
  and all others are kept. -/
  wiped : ∀ entries, store.read = .ok entries →
    (Stored.ofEntries entries).parts = 1 ∨ (Stored.ofEntries entries).parts = 2 →
    store.clear.2 = .ok () →
    ∃ left, after.store.read = .ok left ∧
      ∀ key, left.get? key = if key ∈ Stored.keys then none else entries.get? key
  /-- Otherwise nothing is written, above all if the store cannot be read. -/
  unwritten : (∀ entries, store.read = .ok entries →
    (Stored.ofEntries entries).parts = 0 ∨ (Stored.ofEntries entries).parts = 3) →
    after.store = store
  /-- If the store can be read and written, it holds no part of a session and nobody is signed
  in, or it holds the session of whoever is. -/
  agrees : ∀ entries, store.read = .ok entries → store.clear.2 = .ok () →
    (after.session = .anonymous ∧ after.store.load = {}) ∨
      ∃ session, after.session = .authenticated session ∧
        after.store.load =
          ⟨some session.bearer, some session.profile, some session.reputation⟩
  /-- Then reloading changes nothing. -/
  settled : ∀ entries, store.read = .ok entries → store.clear.2 = .ok () →
    after.reload = after

namespace TakesUp

variable {store : Backing} {after : Controller} (takesUp : TakesUp store after)

include takesUp

theorem authenticated_iff (session : SignedIn) :
    after.session = .authenticated session ↔
      store.load.restore = .session (.authenticated session) := by
  cases takesUp with
  | session found entered unwritten => simp [found, entered]
  | corrupted found dropped cleared => simp [found, dropped]

theorem authenticated_iff_holds (session : SignedIn) :
    after.session = .authenticated session ↔
      ∃ entries, store.read = .ok entries ∧ entries.Holds session ∧ session.bearer ≠ "" := by
  rw [takesUp.authenticated_iff]
  cases read : store.read with
  | error error => simp [Backing.load_of_unread read, Stored.restore]
  | ok entries =>
      rw [Backing.load_of_read read, Stored.restore_eq_authenticated_iff]
      simp

theorem store_cases :
    (after.store = store.clear.1 ∧ (store.load.parts = 1 ∨ store.load.parts = 2)) ∨
      (after.store = store ∧ ¬ (store.load.parts = 1 ∨ store.load.parts = 2)) := by
  rw [← Stored.restore_eq_corrupted_iff]
  cases takesUp with
  | session found entered unwritten => exact .inr ⟨unwritten, by simp [found]⟩
  | corrupted found dropped cleared => exact .inl ⟨cleared, found⟩

/-- What a controller has taken up is what its store holds now. -/
theorem restored {entries : Entries} (read : store.read = .ok entries)
    (writable : store.clear.2 = .ok ()) :
    after.store.load.restore = .session after.session := by
  cases takesUp with
  | session found entered unwritten => rw [unwritten, found, entered]
  | corrupted found dropped cleared =>
      rw [cleared, Backing.load_of_read (Backing.read_clear read writable),
        Stored.ofEntries_withoutSession, dropped]
      rfl

theorem restores : Restores store after where
  authenticated := takesUp.authenticated_iff_holds
  anonymous none := by
    cases held : after.session with
    | anonymous => rfl
    | authenticated session =>
        obtain ⟨entries, read, holds, nonempty⟩ := (takesUp.authenticated_iff_holds session).mp held
        exact absurd (none entries session read holds) nonempty
  wiped entries read partly writable := by
    have loaded := Backing.load_of_read read
    rcases takesUp.store_cases with ⟨cleared, _⟩ | ⟨_, whole⟩
    · exact ⟨entries.withoutSession, by rw [cleared, Backing.read_clear read writable],
        entries.get?_withoutSession⟩
    · rw [loaded] at whole
      exact absurd partly whole
  unwritten wholly := by
    rcases takesUp.store_cases with ⟨_, partly⟩ | ⟨kept, _⟩
    · cases read : store.read with
      | error error =>
          rw [Backing.load_of_unread read] at partly
          exact absurd partly (by decide)
      | ok entries =>
          rw [Backing.load_of_read read] at partly
          have := wholly entries read
          omega
    · exact kept
  agrees entries read writable := by
    rcases Stored.eq_of_restore (takesUp.restored read writable) with
      ⟨nobody, nothing⟩ | ⟨session, held, whole⟩
    · exact .inl ⟨nobody, nothing⟩
    · exact .inr ⟨session, held, whole⟩
  settled entries read writable := reload_of_restored (takesUp.restored read writable)

end TakesUp

/-- A new controller over any store, and any controller that reloads, signs in exactly whoever
the store holds whole, and leaves the store without parts of a session. -/
theorem start_and_reload_restore (client : Client) (store : Backing) (controller : Controller) :
    Restores store (start client store) ∧ Restores controller.store controller.reload :=
  ⟨(takesUp_start client store).restores, (takesUp_reload controller).restores⟩

/-- A bearer that is alone in a store is removed by a new controller, and what else is in the
store is kept. -/
theorem lonely_bearer_is_removed :
    let entries : Entries := .ofList [("bearer", "token"), ("theme", "dark")]
    let after := start (.ofBase "http://localhost") (.memory entries)
    (Stored.ofEntries entries).parts = 1 ∧ after.session = .anonymous ∧
      ∃ left, after.store.read = .ok left ∧ left.get? "bearer" = none ∧
        left.get? "theme" = some "dark" := by
  intro entries after
  have alone : (Stored.ofEntries entries).parts = 1 := by decide +kernel
  have restores := (start_and_reload_restore (.ofBase "http://localhost") (.memory entries) after).1
  obtain ⟨left, read, kept⟩ := restores.wiped entries rfl (.inl alone) rfl
  have nobody : after.session = .anonymous := by decide +kernel
  refine ⟨alone, nobody, left, read, ?_, ?_⟩
  · rw [kept, if_pos (by decide)]
  · rw [kept, if_neg (by decide)]
    decide +kernel

end Controller

end SignIn
