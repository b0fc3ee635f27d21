import SignIn.Proofs.Storage.Refinement
import SignIn.Proofs.System.OtherEntries

/-!
# Only the last operation counts

Logins and logouts read the store, change the entries of a session and write the store.  Over a
store that can be read and written each of them leaves what it would have left at the beginning:
an earlier login or logout has touched no other entry, and of its own entries none is left.
-/

namespace SignIn

namespace StoreCall

variable {call : StoreCall}

/-- What a call that writes leaves under the names of a session does not depend on what it
finds. -/
theorem get?_edit_of_own {key : String} (own : key ∈ Stored.keys) (writes : call.writes = true)
    (first second : Entries) : (call.edit first).get? key = (call.edit second).get? key := by
  cases call with
  | save session =>
      simp only [edit, Entries.withSession]
      by_cases reputation : key = Stored.reputationKey
      · rw [reputation, Dictionary.get?_insert_same, Dictionary.get?_insert_same]
      · rw [Dictionary.get?_insert_of_ne _ _ reputation,
          Dictionary.get?_insert_of_ne _ _ reputation]
        by_cases profile : key = Stored.profileKey
        · rw [profile, Dictionary.get?_insert_same, Dictionary.get?_insert_same]
        · rw [Dictionary.get?_insert_of_ne _ _ profile, Dictionary.get?_insert_of_ne _ _ profile]
          have bearer : key = Stored.bearerKey := by
            simpa [Stored.keys, profile, reputation] using own
          rw [bearer, Dictionary.get?_insert_same, Dictionary.get?_insert_same]
  | clear => rw [edit, edit, Entries.get?_withoutSession, Entries.get?_withoutSession, if_pos own,
      if_pos own]
  | load => contradiction
  | refuse refusal => contradiction

theorem edit_eq_of_others (writes : call.writes = true) {first second : Entries}
    (others : ∀ key, key ∉ Stored.keys → first.get? key = second.get? key) :
    call.edit first = call.edit second := by
  apply Dictionary.eq_of_forall_get?
  intro key
  by_cases own : key ∈ Stored.keys
  · exact get?_edit_of_own own writes first second
  · rw [get?_edit_of_other own, get?_edit_of_other own, others key own]

end StoreCall

theorem Medium.write_again {medium after : Medium} {entries : Entries}
    (written : medium.write entries = (after, .ok ())) (later : Entries) :
    (after.write later).2 = .ok () := by
  cases medium with
  | memory store =>
      obtain rfl : Medium.memory { entries } = after := by
        simpa [write, MemoryStore.write] using written
      rfl
  | file store =>
      cases stored : store.write entries with
      | mk left outcome =>
          obtain ⟨rfl, rfl⟩ : Medium.file left = after ∧ outcome = .ok () := by
            simpa [write, stored] using written
          obtain ⟨path, content, room⟩ := FileStore.tree_read_write stored
          rw [← path] at content room
          obtain ⟨next, again⟩ := FileStore.exists_write_of_read left content room later
          rw [write, again]

namespace Backing

/-- A store that can be read and takes every write. -/
structure Serves (store : Backing) : Prop where
  read : ∃ entries, store.read = .ok entries
  write : ∀ entries, (store.write entries).2 = .ok ()

theorem serves_memory (entries : Entries) : (memory entries).Serves where
  read := ⟨entries, rfl⟩
  write _ := rfl

namespace Serves

variable {store : Backing} (serves : store.Serves)

include serves

theorem refuses_no_write : store.refusal.write = false := by
  have written := serves.write .empty
  cases refused : store.refusal.write with
  | false => rfl
  | true => simp [Backing.write, refused] at written

theorem write_eq (entries : Entries) :
    store.medium.write entries = ((store.medium.write entries).1, .ok ()) ∧
      store.write entries =
        ({ store with medium := (store.medium.write entries).1 }, .ok ()) := by
  have written := serves.write entries
  rw [Backing.write, serves.refuses_no_write] at written ⊢
  exact ⟨Prod.ext rfl written, Prod.ext rfl written⟩

/-- What has been written to a store that serves is read from it, and it serves again. -/
theorem after_write (entries : Entries) :
    (store.write entries).1.read = .ok entries ∧ (store.write entries).1.Serves := by
  obtain ⟨found, read⟩ := serves.read
  have readable : (store.write entries).1.refusal.read = false := by
    rw [refusal_write]
    exact readable_of_read read
  have reads := read_write (Prod.ext rfl (serves.write entries)) readable
  refine ⟨reads, ⟨entries, reads⟩, ?_⟩
  intro later
  obtain ⟨taken, written⟩ := serves.write_eq entries
  rw [written, Backing.write, serves.refuses_no_write]
  exact Medium.write_again taken later

/-- A call that writes succeeds in a store that serves; the store has its edit then. -/
theorem make {call : StoreCall} (writes : call.writes = true) {held : Entries}
    (read : store.read = .ok held) :
    (store.make call).2 = .ok () ∧ (store.make call).1.read = .ok (call.edit held) ∧
      (store.make call).1.Serves := by
  rw [make_of_writes writes, kept_of_read read]
  exact ⟨serves.write _, serves.after_write _⟩

end Serves

end Backing

namespace Controller

inductive Operation where
  | login (session : SignedIn)
  | logout
  deriving DecidableEq, Repr

namespace Operation

def session : Operation → Session
  | login session => .authenticated session
  | logout => .anonymous

def call : Operation → StoreCall
  | login session => .save session
  | logout => .clear

theorem writes_call (operation : Operation) : operation.call.writes = true := by
  cases operation with
  | login session => rfl
  | logout => rfl

end Operation

def perform (controller : Controller) : Operation → Controller
  | .login session => (controller.login session).1
  | .logout => controller.logout

def performAll (controller : Controller) (operations : List Operation) : Controller :=
  operations.foldl perform controller

/-- What an operation leaves of a store that held some entries: the session and the flag are
its own, the store has its edit and serves again. -/
structure Leaves (operation : Operation) (held : Entries) (after : Controller) : Prop where
  session : after.session = operation.session
  watched : after.watched = operation.session.isAuthenticated
  read : after.store.read = .ok (operation.call.edit held)
  serves : after.store.Serves

section Operations

variable {controller : Controller} {held : Entries}

theorem login_succeeds (serves : controller.store.Serves) (session : SignedIn) :
    controller.login session = (controller.enter session, .ok ()) :=
  login_of_saved (serves.write _)

theorem leaves_perform (serves : controller.store.Serves)
    (read : controller.store.read = .ok held) (operation : Operation) :
    Leaves operation held (controller.perform operation) := by
  obtain ⟨_, after, again⟩ := serves.make operation.writes_call read
  cases operation with
  | login session =>
      rw [perform, login_succeeds serves]
      exact ⟨rfl, rfl, after, again⟩
  | logout => exact ⟨rfl, rfl, after, again⟩

/-- Operations leave a store that serves and every entry that is none of a session's. -/
theorem performAll_keeps (serves : controller.store.Serves)
    (read : controller.store.read = .ok held) (operations : List Operation) :
    (controller.performAll operations).store.Serves ∧
      ∃ left, (controller.performAll operations).store.read = .ok left ∧
        ∀ key, key ∉ Stored.keys → left.get? key = held.get? key := by
  induction operations generalizing controller held with
  | nil => exact ⟨serves, held, read, fun key _ => rfl⟩
  | cons operation operations ih =>
      have first := leaves_perform serves read operation
      obtain ⟨stillServes, left, found, others⟩ := ih first.serves first.read
      refine ⟨stillServes, left, found, ?_⟩
      intro key other
      rw [others key other, StoreCall.get?_edit_of_other other]

/-- After a sequence of operations everything is as its last one leaves it that finds the
entries of the beginning. -/
theorem leaves_performAll (serves : controller.store.Serves)
    (read : controller.store.read = .ok held) (earlier : List Operation) (last : Operation) :
    Leaves last held (controller.performAll (earlier ++ [last])) := by
  obtain ⟨stillServes, left, found, others⟩ := performAll_keeps serves read earlier
  have final := leaves_perform stillServes found last
  have same : last.call.edit left = last.call.edit held :=
    StoreCall.edit_eq_of_others last.writes_call others
  rw [performAll, List.foldl_append, List.foldl_cons, List.foldl_nil]
  rw [← performAll]
  exact ⟨final.session, final.watched, final.read.trans (congrArg _ same), final.serves⟩

end Operations

/-- Of logins and logouts over a store that can be read and written only the last one counts:
session, flag and entries are as if it had been the only one.  A logout leaves exactly the
entries that are none of a session's, and a login its own session beside these. -/
theorem only_last_operation_counts {controller : Controller}
    (serves : controller.store.Serves) (earlier : List Operation) (last : Operation) :
    let all := controller.performAll (earlier ++ [last])
    let once := controller.perform last
    (all.session = once.session ∧ all.watched = once.watched ∧
      all.store.entries = once.store.entries ∧ all.store.read = once.store.read) ∧
    (∀ before session after, earlier ++ [last] = before ++ .login session :: after →
      ((controller.performAll before).login session).2 = .ok ()) ∧
    match last with
    | .logout =>
      all.session = .anonymous ∧ all.watched = false ∧
        ∀ key, all.store.entries.get? key =
          if key ∈ Stored.keys then none else controller.store.entries.get? key
    | .login session =>
      all.session = .authenticated session ∧ all.watched = true ∧
        all.store.entries.Holds session ∧
        ∀ key, key ∉ Stored.keys →
          all.store.entries.get? key = controller.store.entries.get? key := by
  intro all once
  obtain ⟨held, read⟩ := serves.read
  have ofAll : Leaves last held all := leaves_performAll serves read earlier last
  have ofOnce : Leaves last held once := leaves_perform serves read last
  have entries : all.store.entries = last.call.edit held := Backing.entries_of_read ofAll.read
  refine ⟨⟨?_, ?_, ?_, ?_⟩, ?_, ?_⟩
  · rw [ofAll.session, ofOnce.session]
  · rw [ofAll.watched, ofOnce.watched]
  · rw [entries, Backing.entries_of_read ofOnce.read]
  · rw [ofAll.read, ofOnce.read]
  · intro before session after _
    obtain ⟨stillServes, _⟩ := performAll_keeps serves read before
    rw [login_succeeds stillServes]
  · rw [entries, Backing.entries_of_read read]
    cases last with
    | logout => exact ⟨ofAll.session, ofAll.watched, Entries.get?_withoutSession held⟩
    | login session =>
        refine ⟨ofAll.session, ofAll.watched, Entries.holds_withSession held session, ?_⟩
        intro key other
        exact StoreCall.get?_edit_of_other other held (.save session)

/-- Whoever has signed in before, a logout leaves the setting that was there, and a login leaves
its session beside it. -/
theorem setting_beside_the_last_login :
    let controller := start (.ofBase "http://localhost")
      (.memory (Dictionary.empty.insert "theme" "dark"))
    let earlier := [.login (sessionOf "first"), .logout, .login (sessionOf "second")]
    (controller.performAll (earlier ++ [.logout])).store.entries.get? "theme" = some "dark" ∧
      (controller.performAll (earlier ++ [.login (sessionOf "third")])).session =
        .authenticated (sessionOf "third") := by
  intro controller earlier
  have serves : controller.store.Serves := Backing.serves_memory _
  obtain ⟨_, _, _, _, left⟩ := only_last_operation_counts serves earlier .logout
  obtain ⟨_, _, signedIn, _⟩ :=
    only_last_operation_counts serves earlier (.login (sessionOf "third"))
  refine ⟨?_, signedIn⟩
  rw [left "theme", if_neg (by decide)]
  rfl

end Controller

end SignIn
