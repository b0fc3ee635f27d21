import SignIn.Proofs.System.Change

/-!
# Where the parts of a session come from

A system that starts with an empty store never mixes the parts of different sessions.
Whatever is in memory or in the store was put together by one login; at most its
reputation has been replaced since, by one that the server has reported for the same
bearer.
-/

namespace SignIn

namespace System

/-- A session that one login has put together, or that session with a reputation which the
server has reported for its bearer. -/
def Vouched (system : System) (session : SignedIn) : Prop :=
  ∃ login, .committed login ∈ system.journal ∧ login.bearer = session.bearer ∧
    login.profile = session.profile ∧
    (login.reputation = session.reputation ∨
      system.Accepted session.bearer session.reputation)

theorem Silent.subset {before after : System} (silent : Silent before after) :
    before.journal ⊆ after.journal := by
  obtain ⟨told, grown, _⟩ := silent
  rw [grown]
  exact List.subset_append_left before.journal told

theorem Change.subset {before after : System} (change : Change before after) :
    before.journal ⊆ after.journal := by
  cases change with
  | quiet quiet => exact quiet.silent.subset
  | login session _ _ between silent told =>
      rw [told]
      exact List.subset_append_of_subset_left _ silent.subset
  | refused _ _ silent => exact silent.subset
  | missed _ _ _ _ silent => exact silent.subset
  | refresh _ _ _ _ _ _ silent => exact silent.subset
  | logout _ silent => exact silent.subset
  | reload _ _ silent => exact silent.subset
  | restart _ _ silent => exact silent.subset

theorem Change.client {before after : System} (change : Change before after) :
    after.client = before.client := by
  unfold System.client
  cases change with
  | quiet quiet => rw [quiet.controller]
  | login _ _ now _ _ _ => rw [now, Controller.enter]; simp
  | refused _ now _ => rw [now]; simp
  | missed _ _ _ now _ => rw [now, Controller.miss]; simp
  | refresh _ _ _ _ _ now _ => rw [now, Controller.enter]; simp
  | logout now _ => rw [now]; simp
  | reload _ now _ => rw [now]; simp
  | restart _ now _ => rw [now]; simp

theorem Accepted.mono {before after : System} {bearer : String} {reputation : Reputation}
    (accepted : before.Accepted bearer reputation) (client : after.client = before.client)
    (more : before.journal ⊆ after.journal) : after.Accepted bearer reputation := by
  obtain ⟨request, response, built, told, rest⟩ := accepted
  rw [← client] at built
  exact ⟨request, response, built, more told, rest⟩

theorem Vouched.mono {before after : System} {session : SignedIn}
    (vouched : before.Vouched session) (change : Change before after) :
    after.Vouched session := by
  obtain ⟨login, told, bearer, profile, reputation⟩ := vouched
  refine ⟨login, change.subset told, bearer, profile, ?_⟩
  rcases reputation with same | accepted
  · exact .inl same
  · exact .inr (accepted.mono change.client change.subset)

/-- Entries that hold no bearer, or else a session that is vouched for. -/
def EntriesVouched (system : System) (entries : Entries) : Prop :=
  entries.get? Stored.bearerKey = none ∨
    ∃ session, entries.Holds session ∧ system.Vouched session

theorem EntriesVouched.mono {before after : System} {entries : Entries}
    (vouched : before.EntriesVouched entries) (change : Change before after) :
    after.EntriesVouched entries := by
  rcases vouched with none | ⟨session, holds, vouched⟩
  · exact .inl none
  · exact .inr ⟨session, holds, vouched.mono change⟩

theorem EntriesVouched.vouched {system : System} {entries : Entries} {session : SignedIn}
    (vouched : system.EntriesVouched entries) (holds : entries.Holds session) :
    system.Vouched session := by
  rcases vouched with none | ⟨other, holdsOther, vouched⟩
  · rw [holds.bearer] at none
    contradiction
  · rw [holds.unique holdsOther]
    exact vouched

theorem EntriesVouched.clear {system : System} {store : Backing}
    (vouched : system.EntriesVouched store.entries) :
    system.EntriesVouched store.clear.1.entries := by
  rcases store.entries_clear with cleared | kept
  · rw [cleared]
    exact .inl (Entries.get?_bearerKey_withoutSession store.kept)
  · rw [kept]
    exact vouched

/-- The session in memory and the entries of the store are vouched for. -/
structure Untorn (system : System) : Prop where
  session : ∀ session, system.controller.session = .authenticated session →
    system.Vouched session
  entries : system.EntriesVouched system.controller.store.entries

/-- A session that is entered is vouched for, in memory and in the store. -/
theorem untorn_of_entered {before after : System} {session : SignedIn}
    (saved : (before.controller.store.save session).2 = .ok ())
    (now : after.controller = before.controller.enter session)
    (vouched : after.Vouched session) : after.Untorn where
  session current held := by
    obtain rfl : session = current := by
      rw [now] at held
      simpa [Controller.enter] using held
    exact vouched
  entries := by
    refine .inr ⟨session, ?_, vouched⟩
    rw [now]
    exact Backing.holds_save (Prod.ext rfl saved)

theorem untorn_of_anonymous {system : System}
    (anonymous : system.controller.session = .anonymous)
    (entries : system.EntriesVouched system.controller.store.entries) : system.Untorn where
  session current held := by
    rw [anonymous] at held
    contradiction
  entries := entries

theorem untorn_of_ofRestored {system : System} {client : Client} {store : Backing}
    (later : Refusal)
    (now : system.controller = .ofRestored client (store.refuse later) store.load.restore)
    (vouched : system.EntriesVouched store.entries) : system.Untorn := by
  cases found : store.load.restore with
  | session session =>
      rw [found] at now
      constructor
      · intro current held
        rw [now] at held
        obtain rfl : session = .authenticated current := held
        exact vouched.vouched (Backing.holds_of_load found)
      · rw [now]
        exact vouched
  | corrupted =>
      rw [found] at now
      apply untorn_of_anonymous
      · rw [now]
        rfl
      · rw [now]
        exact @EntriesVouched.clear _ (store.refuse later) vouched

theorem untorn_of_adopt {before after : System} (later : Refusal)
    (now : after.controller =
      (before.controller.withStore (before.controller.store.refuse later)).adopt
        before.controller.store.load.restore)
    (session : ∀ session, before.controller.session = .authenticated session →
      after.Vouched session)
    (vouched : after.EntriesVouched before.controller.store.entries) : after.Untorn := by
  cases found : before.controller.store.load.restore with
  | session restored =>
      rw [found] at now
      unfold Controller.adopt at now
      simp only at now
      split at now
      · constructor
        · intro current held
          rw [now] at held
          exact session current held
        · rw [now]
          exact vouched
      · constructor
        · intro current held
          rw [now] at held
          obtain rfl : restored = .authenticated current := held
          exact vouched.vouched (Backing.holds_of_load found)
        · rw [now]
          exact vouched
  | corrupted =>
      rw [found] at now
      apply untorn_of_anonymous
      · rw [now]
        rfl
      · rw [now]
        exact @EntriesVouched.clear _ (before.controller.store.refuse later) vouched

/-- No event tears a session apart. -/
theorem untorn_of_change {before after : System} (change : Change before after)
    (untorn : before.Untorn) : after.Untorn := by
  have session : ∀ session, before.controller.session = .authenticated session →
      after.Vouched session := fun current held => (untorn.session current held).mono change
  have entries : after.EntriesVouched before.controller.store.entries :=
    untorn.entries.mono change
  cases change with
  | quiet quiet =>
      constructor
      · rw [quiet.controller]
        exact session
      · rw [quiet.controller]
        exact entries
  | refused refusal now _ =>
      constructor
      · rw [now]
        exact session
      · rw [now]
        exact entries
  | missed current error unsaved now _ =>
      constructor
      · rw [now]
        exact session
      · rw [now]
        have same := Backing.entries_save_error (Prod.ext rfl unsaved)
        rw [← same] at entries
        exact entries
  | login current saved now between silent told =>
      refine untorn_of_entered saved now ⟨current, ?_, rfl, rfl, .inl rfl⟩
      rw [told]
      exact List.mem_append_right _ (List.mem_singleton_self _)
  | refresh current reputation held accepted saved now _ =>
      obtain ⟨login, told, bearer, profile, _⟩ := session current held
      exact untorn_of_entered saved now ⟨login, told, bearer, profile, .inr accepted⟩
  | logout now _ =>
      apply untorn_of_anonymous
      · rw [now]
        rfl
      · rw [now]
        exact entries.clear
  | reload later now _ => exact untorn_of_adopt later now session entries
  | restart later now _ => exact untorn_of_ofRestored later now entries

theorem untorn_run {system : System} (untorn : system.Untorn) (events : List Event) :
    (system.run events).Untorn := by
  induction events generalizing system with
  | nil => exact untorn
  | cons event events ih => exact ih (untorn_of_change (change_step system event) untorn)

theorem untorn_start (client : Client) {store : Backing} (later : Refusal)
    (empty : store.entries = .empty) : (start client store later).Untorn := by
  apply untorn_of_ofRestored later rfl
  rw [empty]
  exact .inl rfl

end System

end SignIn
