import SignIn.Proofs.Restoration
import SignIn.Proofs.System.Calls
import SignIn.Proofs.System.Endings
import Mathlib.Data.List.Infix

/-!
# Entries that are none of a session's

Whatever else is kept in a store outlives every session there.  It is lost in one way only:
a session is saved or removed while the store cannot be read but can be written.  Such a write
leaves what it is about and nothing else.  A write that fails leaves everything as it was.
-/

namespace SignIn

/-- What is called of a store on behalf of sessions, and that it comes to refuse other
things. -/
inductive StoreCall where
  | save (session : SignedIn)
  | clear
  | load
  | refuse (refusal : Refusal)
  deriving DecidableEq, Repr

namespace StoreCall

def writes : StoreCall → Bool
  | save _ => true
  | clear => true
  | load => false
  | refuse _ => false

/-- What a call makes of the entries that it has found. -/
def edit (entries : Entries) : StoreCall → Entries
  | save session => entries.withSession session
  | clear => entries.withoutSession
  | load => entries
  | refuse _ => entries

/-- The entries that are a call's own. -/
def own : StoreCall → List (String × String)
  | save session =>
    [(Stored.bearerKey, session.bearer), (Stored.profileKey, session.profile.print),
      (Stored.reputationKey, session.reputation.print)]
  | clear => []
  | load => []
  | refuse _ => []

theorem get?_edit_of_other {key : String} (other : key ∉ Stored.keys) (entries : Entries)
    (call : StoreCall) : (call.edit entries).get? key = entries.get? key := by
  have bearer : key ≠ Stored.bearerKey := fun same => other (by simp [same, Stored.keys])
  have profile : key ≠ Stored.profileKey := fun same => other (by simp [same, Stored.keys])
  have reputation : key ≠ Stored.reputationKey := fun same => other (by simp [same, Stored.keys])
  cases call with
  | save session =>
      rw [edit, Entries.withSession, Dictionary.get?_insert_of_ne _ _ reputation,
        Dictionary.get?_insert_of_ne _ _ profile, Dictionary.get?_insert_of_ne _ _ bearer]
  | clear => rw [edit, Entries.get?_withoutSession, if_neg other]
  | load => rfl
  | refuse refusal => rfl

theorem toList_edit_empty (call : StoreCall) : (call.edit .empty).toList = call.own := by
  have profileAfter : Stored.bearerKey < Stored.profileKey := by decide
  have reputationAfter : Stored.profileKey < Stored.reputationKey := by decide
  cases call with
  | save session =>
      have bearer : (Dictionary.empty.insert Stored.bearerKey session.bearer).toList =
          [(Stored.bearerKey, session.bearer)] := rfl
      have profile : ((Dictionary.empty.insert Stored.bearerKey session.bearer).insert
          Stored.profileKey session.profile.print).toList =
          [(Stored.bearerKey, session.bearer), (Stored.profileKey, session.profile.print)] := by
        rw [Dictionary.toList_insert_of_forall_lt, bearer]
        · rfl
        · rw [bearer, List.forall_mem_singleton]
          exact profileAfter
      rw [edit, Entries.withSession, Dictionary.toList_insert_of_forall_lt, profile]
      · rfl
      · rw [profile, List.forall_mem_cons, List.forall_mem_singleton]
        exact ⟨String.lt_trans profileAfter reputationAfter, reputationAfter⟩
  | clear => rfl
  | load => rfl
  | refuse refusal => rfl

end StoreCall

namespace Backing

/-- The store after a call, and how its write ended if it makes one. -/
def make (store : Backing) : StoreCall → Backing × Except StoreError Unit
  | .save session => store.save session
  | .clear => store.clear
  | .load => (store, .ok ())
  | .refuse refusal => (store.refuse refusal, .ok ())

def makeAll (store : Backing) (calls : List StoreCall) : Backing :=
  calls.foldl (fun store call => (store.make call).1) store

/-- A call that cannot read the store but writes it. -/
structure Wipes (store : Backing) (call : StoreCall) : Prop where
  writes : call.writes = true
  unread : ∃ error, store.read = .error error
  written : (store.make call).2 = .ok ()

/-- What a call makes of a store, by how its read and its write end. -/
inductive Treats (store : Backing) (call : StoreCall) : Prop where
  /-- A call that makes no write changes no entry and no file. -/
  | idle (idle : call.writes = false) (entries : (store.make call).1.entries = store.entries)
      (medium : (store.make call).1.medium = store.medium)
  /-- If the write fails every entry is as it was, and no file is lost. -/
  | failed {error : StoreError} (writes : call.writes = true)
      (failed : (store.make call).2 = .error error)
      (entries : (store.make call).1.entries = store.entries)
      (files : store.tree.Extends (store.make call).1.tree)
  /-- If the read and the write succeed all other entries are as they were. -/
  | kept {found : Entries} (writes : call.writes = true) (read : store.read = .ok found)
      (written : (store.make call).2 = .ok ())
      (others : ∀ key, key ∉ Stored.keys →
        (store.make call).1.entries.get? key = store.entries.get? key)
  /-- If the read fails and the write succeeds there are no other entries any more. -/
  | wiped (wipes : store.Wipes call) (left : (store.make call).1.entries.toList = call.own)

section Make

variable {store : Backing} {call : StoreCall}

theorem entries_of_read {found : Entries} (read : store.read = .ok found) :
    store.entries = found := by
  have kept := store.kept_eq
  rw [kept_of_read read, readable_of_read read] at kept
  exact kept.symm

theorem make_of_writes (writes : call.writes = true) :
    store.make call = store.write (call.edit store.kept) := by
  cases call with
  | save session => rfl
  | clear => rfl
  | load => contradiction
  | refuse refusal => contradiction

theorem medium_make_of_idle (idle : call.writes = false) :
    (store.make call).1.medium = store.medium := by
  cases call with
  | save session => contradiction
  | clear => contradiction
  | load => rfl
  | refuse refusal => rfl

theorem treats_make (store : Backing) (call : StoreCall) : store.Treats call := by
  cases writes : call.writes with
  | false =>
      have medium := @medium_make_of_idle store call writes
      exact .idle writes (by rw [entries, medium, entries]) medium
  | true =>
      have made := @make_of_writes store call writes
      cases outcome : (store.make call).2 with
      | error error =>
          have failed : store.write (call.edit store.kept) =
              ((store.make call).1, .error error) := by
            rw [← made]
            exact Prod.ext rfl outcome
          exact .failed writes outcome (entries_write_error failed) (extends_write_error failed)
      | ok _ =>
          have written : store.write (call.edit store.kept) = ((store.make call).1, .ok ()) := by
            rw [← made]
            exact Prod.ext rfl outcome
          have now := entries_write written
          cases read : store.read with
          | ok found =>
              refine .kept writes read outcome fun key other => ?_
              rw [now, StoreCall.get?_edit_of_other other, kept_of_read read, entries_of_read read]
          | error error =>
              have nothing : store.kept = .empty := by rw [kept, read]
              refine .wiped ⟨writes, ⟨error, read⟩, outcome⟩ ?_
              rw [now, nothing, StoreCall.toList_edit_empty]

/-- A call that wipes nothing out keeps every other entry. -/
theorem get?_make (spares : ¬ store.Wipes call) {key : String} (other : key ∉ Stored.keys) :
    (store.make call).1.entries.get? key = store.entries.get? key := by
  cases store.treats_make call with
  | idle _ entries _ => rw [entries]
  | failed _ _ entries _ => rw [entries]
  | kept _ _ _ others => exact others key other
  | wiped wipes _ => exact absurd wipes spares

theorem get?_makeAll {calls : List StoreCall}
    (spares : ∀ earlier call later, calls = earlier ++ call :: later →
      ¬ (store.makeAll earlier).Wipes call)
    {key : String} (other : key ∉ Stored.keys) :
    (store.makeAll calls).entries.get? key = store.entries.get? key := by
  induction calls generalizing store with
  | nil => rfl
  | cons call calls ih =>
      have first := get?_make (spares [] call calls rfl) other
      have rest := @ih (store.make call).1 fun earlier next later split =>
        spares (call :: earlier) next later (by rw [split, List.cons_append])
      exact rest.trans first

end Make

end Backing

/-- What becomes of a store when nothing is done to it, or one call that writes. -/
inductive Backing.Once (store : Backing) : Option StoreCall → Backing → Prop where
  | nothing : Once store none store
  | call (call : StoreCall) (writes : call.writes = true) :
      Once store (some call) (store.make call).1

namespace Controller

/-- Whatever a controller has done to its store is at most one call that writes. -/
def WritesOnce (store : Backing) (after : Controller) : Prop :=
  ∃ call, store.Once call after.store

section WritesOnce

variable (controller : Controller)

theorem writesOnce_of_same {store : Backing} {after : Controller} (same : after.store = store) :
    WritesOnce store after := by
  rw [WritesOnce, same]
  exact ⟨none, .nothing⟩

theorem writesOnce_enter (session : SignedIn) :
    WritesOnce controller.store (controller.enter session) :=
  ⟨some (.save session), .call (.save session) rfl⟩

theorem writesOnce_miss (session : SignedIn) :
    WritesOnce controller.store (controller.miss session) :=
  ⟨some (.save session), .call (.save session) rfl⟩

theorem writesOnce_logout : WritesOnce controller.store controller.logout :=
  ⟨some .clear, .call .clear rfl⟩

theorem writesOnce_login (session : SignedIn) :
    WritesOnce controller.store (controller.login session).1 := by
  rcases controller.login_cases session with ⟨_, result⟩ | ⟨_, _, result⟩
  · rw [result]
    exact controller.writesOnce_enter session
  · rw [result]
    exact controller.writesOnce_miss session

theorem writesOnce_loginIfAnonymous (cancelled : Bool) (session : SignedIn) :
    WritesOnce controller.store (controller.loginIfAnonymous cancelled session).1 := by
  rcases controller.loginIfAnonymous_cases cancelled session with
    ⟨_, result⟩ | ⟨_, result⟩ | ⟨_, _, ⟨_, result⟩ | ⟨_, _, result⟩⟩
  · rw [result]
    exact writesOnce_of_same rfl
  · rw [result]
    exact writesOnce_of_same rfl
  · rw [result]
    exact controller.writesOnce_enter session
  · rw [result]
    exact controller.writesOnce_miss session

theorem writesOnce_finishTokenLogin (token : String) (answer : Except FetchError Account) :
    WritesOnce controller.store (controller.finishTokenLogin token answer).1 := by
  rcases controller.finishTokenLogin_cases token answer with
    ⟨_, result⟩ | ⟨_, _, ⟨_, result⟩ | ⟨_, _, result⟩⟩
  · rw [result]
    exact writesOnce_of_same rfl
  · rw [result]
    exact controller.writesOnce_enter _
  · rw [result]
    exact controller.writesOnce_miss _

theorem writesOnce_finishValidation (bearer : String) (answer : Except FetchError Reputation) :
    WritesOnce controller.store (controller.finishValidation bearer answer).1 := by
  rcases controller.finishValidation_cases bearer answer with
    same | dropped | ⟨current, reputation, _, _, _, result⟩
  · rw [same]
    exact writesOnce_of_same rfl
  · rw [dropped]
    exact controller.writesOnce_logout
  · rw [result]
    exact controller.writesOnce_login _

theorem writesOnce_adopt (restored : Restored) :
    WritesOnce controller.store (controller.adopt restored) := by
  unfold adopt
  split
  · split <;> exact writesOnce_of_same rfl
  · exact controller.writesOnce_logout

theorem writesOnce_ofRestored (client : Client) (store : Backing) (restored : Restored) :
    WritesOnce store (ofRestored client store restored) := by
  cases restored with
  | session session => exact writesOnce_of_same rfl
  | corrupted => exact ⟨some .clear, .call .clear rfl⟩

end WritesOnce

end Controller

namespace System

/-- The store of a system as it is when an event writes to it. -/
def storeAt (system : System) (event : Event) : Backing :=
  system.controller.store.refuse
    (match event with
      | .refuse refusal => refusal
      | .reload later => later
      | .restart later => later
      | _ => system.controller.store.refusal)

/-- An event in which a call wipes out the other entries. -/
def Wipes (system : System) (event : Event) : Prop :=
  ∃ call, (system.storeAt event).Once (some call) (system.step event).controller.store ∧
    (system.storeAt event).Wipes call

theorem writesOnce_step (system : System) (event : Event) :
    Controller.WritesOnce (system.storeAt event) (system.step event).controller := by
  have quiet {after : System} (same : Quiet system after) :
      Controller.WritesOnce system.controller.store after.controller := by
    rw [same.controller]
    exact Controller.writesOnce_of_same rfl
  cases event with
  | refuse refusal => exact Controller.writesOnce_of_same rfl
  | reload later =>
      exact ({ system.controller with
        store := system.controller.store.refuse later }).writesOnce_adopt _
  | restart later => exact Controller.writesOnce_ofRestored _ _ _
  | login session =>
      have once := system.controller.writesOnce_login session
      show Controller.WritesOnce system.controller.store (system.login session).controller
      unfold login
      revert once
      rcases system.controller.login session with ⟨after, _ | _⟩ <;> exact id
  | loginIfAnonymous cancelled session =>
      have once := system.controller.writesOnce_loginIfAnonymous cancelled session
      show Controller.WritesOnce system.controller.store
        (system.loginIfAnonymous cancelled session).controller
      unfold loginIfAnonymous
      revert once
      rcases system.controller.loginIfAnonymous cancelled session with ⟨after, _ | attempt⟩
      · exact id
      · cases attempt <;> exact id
  | logout => exact system.controller.writesOnce_logout
  | endTokenLogin number answer =>
      show Controller.WritesOnce system.controller.store
        (system.endTokenLogin number answer).controller
      cases waits : system.pending? (.tokenLogin number) with
      | none =>
          have there : system.tokenLogins[number]?.join = none := waits
          have stays : system.endTokenLogin number answer = system := by
            rw [endTokenLogin, there]
          rw [stays]
          exact Controller.writesOnce_of_same rfl
      | some token =>
          rw [system.controller_endTokenLogin waits]
          exact system.controller.writesOnce_finishTokenLogin token _
  | endValidation number answer =>
      show Controller.WritesOnce system.controller.store
        (system.endValidation number answer).controller
      cases waits : system.pending? (.validation number) with
      | none =>
          have there : system.validations[number]?.join = none := waits
          have stays : system.endValidation number answer = system := by
            rw [endValidation, there]
          rw [stays]
          exact Controller.writesOnce_of_same rfl
      | some bearer =>
          rw [system.controller_endValidation waits]
          exact system.controller.writesOnce_finishValidation bearer _
  | poll number action =>
      show Controller.WritesOnce system.controller.store (system.poll number action).controller
      rcases system.poll_cases number action with ⟨same, _⟩ | attempt
      · rw [same]
        exact Controller.writesOnce_of_same rfl
      · cases attempt with
        | entered free saved now ended =>
            rw [now]
            exact system.controller.writesOnce_enter free.session
        | missed free unsaved now ended =>
            rw [now]
            exact system.controller.writesOnce_miss free.session
  | beginTokenLogin token => exact quiet (quiet_beginTokenLogin system token)
  | beginLinkLogin input => exact quiet (quiet_beginLinkLogin system input)
  | beginValidation => exact quiet (quiet_beginValidation system)
  | startPolling ticket interval => exact quiet (quiet_of_eq rfl rfl)
  | handle number action => exact quiet (quiet_handle system number action)
  | openPrompt interval => exact quiet (quiet_of_eq rfl rfl)
  | prompt number action => exact quiet (quiet_prompt system number action)

theorem get?_step_of_other {system : System} {event : Event} (spares : ¬ system.Wipes event)
    {key : String} (other : key ∉ Stored.keys) :
    (system.step event).controller.store.entries.get? key =
      system.controller.store.entries.get? key := by
  obtain ⟨call, once⟩ := system.writesOnce_step event
  have before : (system.storeAt event).entries = system.controller.store.entries :=
    Backing.entries_refuse _ _
  rw [← before]
  cases call with
  | none =>
      generalize (system.step event).controller.store = after at once
      cases once
      rfl
  | some call =>
      have harmless : ¬ (system.storeAt event).Wipes call :=
        fun wipes => spares ⟨call, once, wipes⟩
      generalize (system.step event).controller.store = after at once
      cases once
      exact Backing.get?_make harmless other

theorem get?_run_of_other {system : System} {events : List Event}
    (spares : ∀ earlier event later, events = earlier ++ event :: later →
      ¬ (system.run earlier).Wipes event)
    {key : String} (other : key ∉ Stored.keys) :
    (system.run events).controller.store.entries.get? key =
      system.controller.store.entries.get? key := by
  induction events generalizing system with
  | nil => rfl
  | cons event events ih =>
      have first := get?_step_of_other (spares [] event events rfl) other
      have rest := @ih (system.step event) fun earlier next later split =>
        spares (event :: earlier) next later (by rw [split, List.cons_append])
      exact rest.trans first

end System

end SignIn
