import SignIn.Proofs.System.Logins
import SignIn.Proofs.System.Soundness
import SignIn.Proofs.System.Validation

/-!
# Logouts that last

Whoever is logged out stays so until somebody logs in.  Calls and pollers whose requests
were under way when the session was dropped may end later; none of them puts anything into
memory or into the store unless it is a login that takes effect.  If the store could not be
cleared, the session that it still holds comes back when the store is read again, and only
then.
-/

namespace SignIn

/-- Whether an event takes up what the store holds. -/
def Event.rereads : Event → Bool
  | .reload _ => true
  | .restart _ => true
  | _ => false

namespace System

/-- An event drops the session, and this is what comes of clearing the store: a call to log
out, the end of a check of the bearer that is held, if it is not accepted, and reading a
store that holds no more than parts of a session. -/
inductive LogsOut (system : System) : Event → Except StoreError Unit → Prop where
  | call : LogsOut system .logout system.controller.store.clear.2
  | revoked {number : Nat} {bearer : String} {answer : Answer} {error : FetchError}
      (waits : system.pending? (.validation number) = some bearer)
      (held : system.controller.session.bearer? = some bearer)
      (refused : (system.hear (system.client.checkRequest? bearer) answer).2.reputation =
        .error error) :
      LogsOut system (.endValidation number answer) system.controller.store.clear.2
  | reloaded {later : Refusal}
      (corrupted : system.controller.store.load.restore = .corrupted) :
      LogsOut system (.reload later) (system.controller.store.refuse later).clear.2
  | restarted {later : Refusal}
      (corrupted : system.controller.store.load.restore = .corrupted) :
      LogsOut system (.restart later) (system.controller.store.refuse later).clear.2

/-- However the session is dropped, it is a logout over the store that was there. -/
theorem LogsOut.exists_logout {system : System} {event : Event}
    {outcome : Except StoreError Unit} (drops : system.LogsOut event outcome) :
    ∃ controller : Controller, (system.step event).controller = controller.logout ∧
      controller.store.entries = system.controller.store.entries ∧
      controller.store.clear.2 = outcome := by
  cases drops with
  | call => exact ⟨system.controller, rfl, rfl, rfl⟩
  | @revoked number bearer answer error waits held refused =>
      have ended := system.controller_endValidation waits answer
      rw [refused, Controller.finishValidation, if_pos held] at ended
      exact ⟨system.controller, ended, rfl, rfl⟩
  | @reloaded later corrupted =>
      let store := system.controller.store.refuse later
      refine ⟨system.controller.withStore store, ?_, rfl, rfl⟩
      simp only [step, reload, corrupted]
      rfl
  | @restarted later corrupted =>
      let store := system.controller.store.refuse later
      refine ⟨⟨system.client, .anonymous, false, 0, store⟩, ?_, rfl, rfl⟩
      simp only [step, restart, start, corrupted]
      rfl

theorem not_silent_of_committed {before between after : System} {session : SignedIn}
    (silent : Silent before between)
    (told : after.journal = between.journal ++ [.committed session]) :
    ¬ Silent before after := by
  obtain ⟨earlier, grown, _⟩ := silent
  rintro ⟨all, whole, none⟩
  have same : all = earlier ++ [.committed session] := by
    rw [told, grown, List.append_assoc] at whole
    exact (List.append_cancel_left whole).symm
  apply none session
  rw [same]
  exact List.mem_append_right _ (List.mem_singleton_self _)

theorem Change.exists_told {before after : System} (change : Change before after) :
    ∃ told, after.journal = before.journal ++ told := by
  cases change with
  | quiet quiet => exact quiet.silent.imp fun _ grown => grown.1
  | refused _ _ silent => exact silent.imp fun _ grown => grown.1
  | missed _ _ _ _ silent => exact silent.imp fun _ grown => grown.1
  | login session _ _ between silent told =>
      obtain ⟨earlier, grown, _⟩ := silent
      exact ⟨earlier ++ [.committed session], by rw [told, grown, List.append_assoc]⟩
  | refresh _ _ _ _ _ _ silent => exact silent.imp fun _ grown => grown.1
  | logout _ silent => exact silent.imp fun _ grown => grown.1
  | reload _ _ silent => exact silent.imp fun _ grown => grown.1
  | restart _ _ silent => exact silent.imp fun _ grown => grown.1

theorem exists_told_run (system : System) (events : List Event) :
    ∃ told, (system.run events).journal = system.journal ++ told := by
  induction events generalizing system with
  | nil => exact ⟨[], (List.append_nil _).symm⟩
  | cons event events ih =>
      obtain ⟨first, grown⟩ := (change_step system event).exists_told
      obtain ⟨rest, grownRest⟩ := ih (system.step event)
      exact ⟨first ++ rest, by rw [run_cons, grownRest, grown, List.append_assoc]⟩

/-- If nobody logs in during a run, nobody does before any point of it nor after. -/
theorem silent_split {system : System} (before : List Event) {after : List Event}
    (silent : Silent system (system.run (before ++ after))) :
    Silent system (system.run before) ∧
      Silent (system.run before) ((system.run before).run after) := by
  rw [run_append] at silent
  obtain ⟨all, whole, none⟩ := silent
  obtain ⟨first, grown⟩ := system.exists_told_run before
  obtain ⟨rest, grownRest⟩ := (system.run before).exists_told_run after
  have same : all = first ++ rest := by
    rw [grownRest, grown, List.append_assoc] at whole
    exact (List.append_cancel_left whole).symm
  subst same
  refine ⟨⟨first, grown, ?_⟩, ⟨rest, grownRest, ?_⟩⟩
  · exact fun session member => none session (List.mem_append_left _ member)
  · exact fun session member => none session (List.mem_append_right _ member)

/-- Nobody is signed in, and the store has no entry of a session. -/
structure Vacant (controller : Controller) : Prop where
  session : controller.session = .anonymous
  entries : ∀ key ∈ Stored.keys, controller.store.entries.get? key = none

theorem ofEntries_of_absent {entries : Entries}
    (absent : ∀ key ∈ Stored.keys, entries.get? key = none) : Stored.ofEntries entries = {} := by
  have bearer := absent Stored.bearerKey (by decide)
  have profile := absent Stored.profileKey (by decide)
  have reputation := absent Stored.reputationKey (by decide)
  simp [Stored.ofEntries, bearer, profile, reputation]

namespace Vacant

variable {controller : Controller}

theorem load (vacant : Vacant controller) : controller.store.load = {} := by
  rw [Backing.load_eq, Backing.kept_eq]
  split
  · rfl
  · exact ofEntries_of_absent vacant.entries

theorem restore (vacant : Vacant controller) :
    controller.store.load.restore = .session .anonymous := by
  rw [vacant.load]
  rfl

theorem withStore (vacant : Vacant controller) {store : Backing}
    (same : store.entries = controller.store.entries) : Vacant (controller.withStore store) where
  session := vacant.session
  entries key member := by
    rw [Controller.withStore_store, same]
    exact vacant.entries key member

theorem logout (vacant : Vacant controller) : Vacant controller.logout where
  session := rfl
  entries key member := by
    rw [Controller.logout_store]
    rcases controller.store.entries_clear with cleared | same
    · rw [cleared, Entries.get?_withoutSession, if_pos member]
    · rw [same]
      exact vacant.entries key member

end Vacant

/-- Clearing the store leaves no session anywhere. -/
theorem vacant_logout {controller : Controller} (cleared : controller.store.clear.2 = .ok ()) :
    Vacant controller.logout where
  session := rfl
  entries key member := by
    rcases controller.loggedOut_logout.entries with ⟨_, found⟩ | ⟨error, failed, _⟩
    · rw [found, if_pos member]
    · rw [cleared] at failed
      contradiction

/-- Where there is no session, no event brings one unless somebody logs in: there is nothing
to refresh and nothing to take up. -/
theorem vacant_of_change {before after : System} (change : Change before after)
    (silent : Silent before after) (vacant : Vacant before.controller) :
    Vacant after.controller := by
  cases change with
  | quiet quiet =>
      rw [quiet.controller]
      exact vacant
  | refused refusal now _ =>
      rw [now]
      exact vacant.withStore (Backing.entries_refuse _ refusal)
  | missed session error unsaved now _ =>
      rw [now]
      exact vacant.withStore (Backing.entries_save_error (Prod.ext rfl unsaved))
  | login session _ _ between earlier told =>
      exact absurd silent (not_silent_of_committed earlier told)
  | refresh current _ held _ _ _ _ =>
      rw [vacant.session] at held
      contradiction
  | logout now _ =>
      rw [now]
      exact vacant.logout
  | reload later now _ =>
      rw [now, vacant.restore, Controller.adopt, Controller.withStore_session, if_pos vacant.session]
      exact vacant.withStore (Backing.entries_refuse _ later)
  | restart later now _ =>
      rw [now, vacant.restore]
      exact ⟨rfl, vacant.entries⟩

theorem vacant_run {system : System} (vacant : Vacant system.controller) {events : List Event}
    (silent : Silent system (system.run events)) : Vacant (system.run events).controller := by
  induction events generalizing system with
  | nil => exact vacant
  | cons event events ih =>
      obtain ⟨first, rest⟩ := silent_split [event] silent
      exact ih (vacant_of_change (change_step system event) first vacant) rest

section Session

variable {system : System}

theorem session_login_of_silent {session : SignedIn}
    (silent : Silent system (system.login session)) :
    (system.login session).controller.session = system.controller.session := by
  unfold login at silent ⊢
  rcases system.controller.login_cases session with ⟨_, result⟩ | ⟨_, _, result⟩
  · rw [result] at silent
    exact absurd silent (not_silent_of_committed (silent_of_journal_eq rfl) rfl)
  · rw [result]
    rfl

theorem session_loginIfAnonymous_of_silent {cancelled : Bool} {session : SignedIn}
    (silent : Silent system (system.loginIfAnonymous cancelled session)) :
    (system.loginIfAnonymous cancelled session).controller.session =
      system.controller.session := by
  unfold loginIfAnonymous at silent ⊢
  rcases system.controller.loginIfAnonymous_cases cancelled session with
    ⟨_, result⟩ | ⟨_, result⟩ | ⟨_, _, ⟨_, result⟩ | ⟨_, _, result⟩⟩
  · rw [result]
  · rw [result]
  · rw [result] at silent
    exact absurd silent (not_silent_of_committed (silent_of_journal_eq rfl) rfl)
  · rw [result]
    rfl

theorem session_endTokenLogin_of_silent {number : Nat} {answer : Answer}
    (silent : Silent system (system.endTokenLogin number answer)) :
    (system.endTokenLogin number answer).controller.session = system.controller.session := by
  cases waits : system.tokenLogins[number]?.join with
  | none => simp only [endTokenLogin, waits]
  | some token =>
      have heard := quiet_hear system (system.client.accountRequest? token) answer
      cases came : system.hear (system.client.accountRequest? token) answer with
      | mk between answer =>
      rw [came] at heard
      simp only [endTokenLogin, waits, came] at silent ⊢
      rw [heard.controller] at silent ⊢
      rcases system.controller.finishTokenLogin_cases token answer.account with
        ⟨error, result⟩ | ⟨account, received, ⟨_, result⟩ | ⟨_, _, result⟩⟩
      · rw [result]
        split
        · simp_all
        · rename_i ended _
          rw [← (Prod.mk.inj ended).1]
      · rw [result, received] at silent
        exact absurd silent (not_silent_of_committed heard.silent rfl)
      · rw [result, received]
        rfl

theorem session_commitPoll_of_silent {number : Nat} {task : PollTask}
    (silent : Silent system (system.commitPoll number task)) :
    (system.commitPoll number task).controller.session = system.controller.session := by
  rw [controller_commitPoll]
  rcases task.poller.commit_cases system.controller with
    ⟨same, _⟩ | ⟨session, phase, _, _, ⟨_, result⟩ | ⟨_, _, result⟩⟩
  · rw [same]
  · simp only [commitPoll, result, phase, Poller.finish] at silent
    exact absurd silent (not_silent_of_committed (silent_of_journal_eq rfl) rfl)
  · rw [result]
    rfl

/-- A check has nothing to refresh and nothing to drop when nobody is signed in. -/
theorem session_endValidation_of_anonymous (anonymous : system.controller.session = .anonymous)
    (number : Nat) (answer : Answer) :
    (system.endValidation number answer).controller.session = .anonymous := by
  cases waits : system.pending? (.validation number) with
  | none =>
      have absent : system.validations[number]?.join = none := waits
      simp only [endValidation, absent, anonymous]
  | some bearer =>
      rw [system.controller_endValidation waits answer]
      generalize (system.hear _ answer).2.reputation = reported
      rcases system.controller.finishValidation_cases bearer reported with
        same | dropped | ⟨current, _, held, _⟩
      · rw [same]
        exact anonymous
      · rw [dropped]
        rfl
      · rw [anonymous] at held
        contradiction

/-- Nobody who is not signed in comes to be by an event that neither is a login nor reads the
store. -/
theorem session_step_of_silent (anonymous : system.controller.session = .anonymous)
    {event : Event} (silent : Silent system (system.step event))
    (elsewhere : event.rereads = false) :
    (system.step event).controller.session = .anonymous := by
  cases event with
  | login session => exact (session_login_of_silent silent).trans anonymous
  | loginIfAnonymous cancelled session =>
      exact (session_loginIfAnonymous_of_silent silent).trans anonymous
  | logout => rfl
  | reload later => contradiction
  | restart later => contradiction
  | endTokenLogin number answer =>
      exact (session_endTokenLogin_of_silent silent).trans anonymous
  | endValidation number answer => exact session_endValidation_of_anonymous anonymous number answer
  | beginValidation =>
      rw [step, (quiet_beginValidation system).controller]
      exact anonymous
  | poll number action =>
      by_cases commits : action = .commit
      · subst commits
        cases there : system.poller? number with
        | none => simpa only [step, poll, there] using anonymous
        | some task =>
            simp only [step, poll, there] at silent ⊢
            exact (session_commitPoll_of_silent silent).trans anonymous
      · rw [step, (system.quiet_poll commits).controller]
        exact anonymous
  | refuse refusal => exact anonymous
  | beginTokenLogin token => exact anonymous
  | startPolling ticket interval => exact anonymous
  | openPrompt interval => exact anonymous
  | beginLinkLogin input =>
      rw [step, (quiet_beginLinkLogin system input).controller]
      exact anonymous
  | handle number action =>
      rw [step, (quiet_handle system number action).controller]
      exact anonymous
  | prompt number action =>
      rw [step, (quiet_prompt system number action).controller]
      exact anonymous

/-- A session that comes to be held by reading the store is the one that the store holds. -/
theorem restored_of_rereads (anonymous : system.controller.session = .anonymous) {event : Event}
    (rereads : event.rereads = true) {session : SignedIn}
    (back : (system.step event).controller.session = .authenticated session) :
    system.controller.store.load.restore = .session (.authenticated session) := by
  cases event with
  | reload later =>
      simp only [step, reload] at back
      cases found : system.controller.store.load.restore with
      | corrupted =>
          rw [found] at back
          contradiction
      | session restored =>
          rw [found, Controller.adopt] at back
          split at back
          · exact absurd (anonymous.symm.trans back) (by simp)
          · exact congrArg Restored.session back
  | restart later =>
      simp only [step, restart, start] at back
      cases found : system.controller.store.load.restore with
      | corrupted =>
          rw [found] at back
          contradiction
      | session restored =>
          rw [found] at back
          exact congrArg Restored.session back
  | _ => contradiction

end Session

/-- While nobody is signed in the store keeps what it holds or is left without a session. -/
theorem kept_or_vacant_of_change {before after : System} (change : Change before after)
    (silent : Silent before after) (anonymous : before.controller.session = .anonymous) :
    after.controller.store.entries = before.controller.store.entries ∨ Vacant after.controller := by
  have dropped (controller : Controller)
      (same : controller.store.entries = before.controller.store.entries)
      (now : after.controller = controller.logout) :
      after.controller.store.entries = before.controller.store.entries ∨
        Vacant after.controller := by
    rw [now]
    cases cleared : controller.store.clear.2 with
    | ok _ => exact .inr (vacant_logout cleared)
    | error error => exact .inl ((Backing.entries_write_error (Prod.ext rfl cleared)).trans same)
  cases change with
  | quiet quiet => exact .inl (by rw [quiet.controller])
  | refused refusal now _ => exact .inl (by rw [now]; rfl)
  | missed session error unsaved now _ =>
      rw [now]
      exact .inl (Backing.entries_save_error (Prod.ext rfl unsaved))
  | login session _ _ between earlier told =>
      exact absurd silent (not_silent_of_committed earlier told)
  | refresh current _ held _ _ _ _ =>
      rw [anonymous] at held
      contradiction
  | logout now _ => exact dropped before.controller rfl now
  | reload later now _ =>
      cases found : before.controller.store.load.restore with
      | corrupted =>
          rw [found] at now
          exact dropped (before.controller.withStore (before.controller.store.refuse later)) rfl now
      | session restored =>
          rw [found, Controller.adopt] at now
          rw [now]
          split <;> exact .inl rfl
  | restart later now _ =>
      cases found : before.controller.store.load.restore with
      | corrupted =>
          rw [found] at now
          exact dropped ⟨before.client, .anonymous, false, 0, before.controller.store.refuse later⟩
            rfl now
      | session restored =>
          rw [found] at now
          rw [now]
          exact .inl rfl

theorem kept_or_vacant_run {system : System} {entries : Entries}
    (known : system.controller.store.entries = entries ∨ Vacant system.controller)
    {events : List Event} (silent : Silent system (system.run events))
    (anonymous : ∀ earlier, earlier <+: events →
      (system.run earlier).controller.session = .anonymous) :
    (system.run events).controller.store.entries = entries ∨
      Vacant (system.run events).controller := by
  induction events generalizing system with
  | nil => exact known
  | cons event events ih =>
      obtain ⟨first, rest⟩ := silent_split [event] silent
      have change := change_step system event
      have now := anonymous [] (List.nil_prefix)
      refine @ih (system.step event) ?_ rest ?_
      · rcases known with held | vacant
        · have kept := kept_or_vacant_of_change change first now
          rw [held] at kept
          exact kept
        · exact .inr (vacant_of_change change first vacant)
      · intro earlier initial
        exact anonymous (event :: earlier) (List.prefix_cons_inj event |>.mpr initial)

theorem silent_endValidation {system : System} {number : Nat} {bearer : String}
    (waits : system.pending? (.validation number) = some bearer) (answer : Answer) :
    Silent system (system.step (.endValidation number answer)) := by
  refine ⟨_, journal_endValidation waits answer, ?_⟩
  intro session member
  simp at member

/-- A session has come back in a run: an event that reads the store has taken it up from
there, and if that is the first session since, it is the one that some entries hold. -/
structure ComesBack (out : System) (persisted : Entries) (before : List Event) (next : Event)
    (session : SignedIn) : Prop where
  rereads : next.rereads = true
  restored : (out.run before).controller.store.load.restore = .session (.authenticated session)
  persisted : (∀ earlier, earlier <+: before →
    (out.run earlier).controller.session = .anonymous) → persisted.Holds session

end System

end SignIn
