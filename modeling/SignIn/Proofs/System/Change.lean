import SignIn.Proofs.System.Basic
import SignIn.Proofs.Poller

/-!
# What one event can do to the controller

Most events leave the controller alone.  The others enter a session that was saved, fail
to save one, log out, or take up what the store holds; a session is entered either by a
login, which is told, or by a check, which only replaces the reputation of the session
that is held by one that the server has just reported for its bearer.
-/

namespace SignIn

namespace System

/-- The server has accepted a bearer: it answered a check of it with the plain status of
success and reported a reputation. -/
def Accepted (system : System) (bearer : String) (reputation : Reputation) : Prop :=
  ∃ request response, system.client.checkRequest? bearer = some request ∧
    .answered request (.received response) ∈ system.journal ∧ response.status = .ok ∧
    response.decode Reputation.decodeReport = .ok reputation

/-- More may have been told, but no login. -/
def Silent (before after : System) : Prop :=
  ∃ told, after.journal = before.journal ++ told ∧ ∀ session, .committed session ∉ told

theorem silent_of_journal_eq {before after : System}
    (same : after.journal = before.journal) : Silent before after := by
  refine ⟨[], by rw [same, List.append_nil], ?_⟩
  intro session member
  cases member

theorem Silent.trans {first second third : System} (earlier : Silent first second)
    (later : Silent second third) : Silent first third := by
  obtain ⟨told, grown, none⟩ := earlier
  obtain ⟨told', grown', none'⟩ := later
  refine ⟨told ++ told', by rw [grown', grown, List.append_assoc], ?_⟩
  intro session member
  rcases List.mem_append.mp member with there | there
  · exact none session there
  · exact none' session there

/-- The controller is left alone and no login is told. -/
structure Quiet (before after : System) : Prop where
  controller : after.controller = before.controller
  silent : Silent before after

namespace Quiet

theorem refl (system : System) : Quiet system system where
  controller := rfl
  silent := silent_of_journal_eq rfl

theorem trans {first second third : System} (earlier : Quiet first second)
    (later : Quiet second third) : Quiet first third where
  controller := later.controller.trans earlier.controller
  silent := earlier.silent.trans later.silent

end Quiet

theorem quiet_of_eq {before after : System} (controller : after.controller = before.controller)
    (journal : after.journal = before.journal) : Quiet before after where
  controller := controller
  silent := silent_of_journal_eq journal

section Quiet

variable (system : System)

theorem quiet_send (request : Option Request) : Quiet system (system.send request) where
  controller := rfl
  silent := by
    refine ⟨request.toList.map .asked, rfl, ?_⟩
    intro session member
    simp at member

theorem quiet_hear (request : Option Request) (answer : Answer) :
    Quiet system (system.hear request answer).1 := by
  cases request with
  | none => exact Quiet.refl system
  | some request =>
      constructor
      · rfl
      · refine ⟨[.answered request answer], rfl, ?_⟩
        intro session member
        simp at member

theorem quiet_withPoller (number : Nat) (task : PollTask) :
    Quiet system (system.withPoller number task) :=
  quiet_of_eq rfl rfl

theorem quiet_withPrompt (number : Nat) (opened : Option OpenPrompt) :
    Quiet system (system.withPrompt number opened) :=
  quiet_of_eq rfl rfl

theorem quiet_beginTokenLogin (token : String) :
    Quiet system (system.beginTokenLogin token) := by
  refine Quiet.trans ?_ (quiet_send _ _)
  exact quiet_of_eq rfl rfl

theorem quiet_beginLinkLogin (input : String) :
    Quiet system (system.beginLinkLogin input) := by
  unfold beginLinkLogin
  split
  · exact Quiet.refl system
  · exact quiet_beginTokenLogin system _

theorem quiet_beginValidation : Quiet system system.beginValidation := by
  unfold beginValidation
  split
  · exact Quiet.refl system
  · refine Quiet.trans ?_ (quiet_send _ _)
    exact quiet_of_eq rfl rfl

theorem quiet_receive (number : Nat) (task : PollTask) (answer : Answer) :
    Quiet system (system.receive number task answer) := by
  unfold receive
  split
  · exact Quiet.refl system
  · exact ((quiet_hear system _ answer).trans (quiet_withPoller _ _ _)).trans (quiet_send _ _)

theorem quiet_release (number : Nat) : Quiet system (system.release number) := by
  unfold release
  split
  · exact Quiet.refl system
  · exact quiet_withPoller system _ _

theorem quiet_handle (number : Nat) (action : HandleAction) :
    Quiet system (system.handle number action) := by
  unfold handle
  split
  · exact Quiet.refl system
  · split
    · exact quiet_withPoller system _ _
    · exact quiet_release system number
    · exact quiet_withPoller system _ _
    · exact quiet_release system number
    · exact Quiet.refl system

theorem quiet_startPrompt (number : Nat) (opened : OpenPrompt) (ticket : Ticket) :
    Quiet system (system.startPrompt number opened ticket) := by
  unfold startPrompt
  split
  · exact quiet_withPrompt system _ _
  · exact quiet_of_eq rfl rfl

theorem quiet_getTicket (number : Nat) (opened : OpenPrompt) (starts : Bool) :
    Quiet system (system.getTicket number opened starts) := by
  unfold getTicket
  split
  · exact (quiet_withPrompt system _ _).trans (quiet_send _ _)
  · split
    · exact quiet_startPrompt system _ _ _
    · exact Quiet.refl system

theorem quiet_receiveTicket (number : Nat) (opened : OpenPrompt) (starts : Bool)
    (answer : Answer) : Quiet system (system.receiveTicket number opened starts answer) := by
  have heard := quiet_hear system system.client.ticketRequest? answer
  unfold receiveTicket
  revert heard
  generalize system.hear system.client.ticketRequest? answer = result
  intro heard
  simp only
  split
  · exact heard.trans (quiet_withPrompt _ _ _)
  · split
    · exact heard.trans (quiet_startPrompt _ _ _ _)
    · exact heard.trans (quiet_withPrompt _ _ _)

theorem quiet_closePrompt (number : Nat) (opened : OpenPrompt) :
    Quiet system (system.closePrompt number opened) := by
  unfold closePrompt
  split
  · exact quiet_withPrompt system _ _
  · exact (quiet_release system _).trans (quiet_withPrompt _ _ _)

theorem quiet_actPrompt (number : Nat) (opened : OpenPrompt) (action : PromptAction) :
    Quiet system (system.actPrompt number opened action) := by
  unfold actPrompt
  split
  · cases action with
    | ticket => exact quiet_getTicket system _ _ _
    | start => exact quiet_getTicket system _ _ _
    | wait =>
        simp only
        split
        · exact Quiet.refl system
        · exact quiet_withPrompt system _ _
    | close => exact quiet_closePrompt system _ _
    | drop => exact quiet_closePrompt system _ _
    | receive answer => exact Quiet.refl system
    | leave => exact Quiet.refl system
  · cases action with
    | receive answer => exact quiet_receiveTicket system _ _ _ _
    | leave => exact quiet_withPrompt system _ _
    | _ => exact Quiet.refl system
  · cases action with
    | leave => exact (quiet_release system _).trans (quiet_withPrompt _ _ _)
    | _ => exact Quiet.refl system

theorem quiet_prompt (number : Nat) (action : PromptAction) :
    Quiet system (system.prompt number action) := by
  unfold prompt
  split
  · exact Quiet.refl system
  · exact quiet_actPrompt system _ _ _

end Quiet

/-- What one event can do to the controller. -/
inductive Change (before after : System) : Prop where
  | quiet (quiet : Quiet before after)
  | refused (refusal : Refusal)
      (now : after.controller =
        before.controller.withStore (before.controller.store.refuse refusal))
      (silent : Silent before after)
  | missed (session : SignedIn) (error : StoreError)
      (unsaved : (before.controller.store.save session).2 = .error error)
      (now : after.controller = before.controller.miss session)
      (silent : Silent before after)
  | login (session : SignedIn)
      (saved : (before.controller.store.save session).2 = .ok ())
      (now : after.controller = before.controller.enter session)
      (between : System) (silent : Silent before between)
      (told : after.journal = between.journal ++ [.committed session])
  | refresh (current : SignedIn) (reputation : Reputation)
      (held : before.controller.session = .authenticated current)
      (accepted : after.Accepted current.bearer reputation)
      (saved : (before.controller.store.save { current with reputation }).2 = .ok ())
      (now : after.controller = before.controller.enter { current with reputation })
      (silent : Silent before after)
  | logout (now : after.controller = before.controller.logout) (silent : Silent before after)
  | reload (later : Refusal)
      (now : after.controller =
        (before.controller.withStore (before.controller.store.refuse later)).adopt
          before.controller.store.load.restore)
      (silent : Silent before after)
  | restart (later : Refusal)
      (now : after.controller = .ofRestored before.controller.client
        (before.controller.store.refuse later) before.controller.store.load.restore)
      (silent : Silent before after)

theorem change_login (system : System) (session : SignedIn) :
    Change system (system.login session) := by
  unfold login
  rcases system.controller.login_cases session with ⟨saved, result⟩ | ⟨error, unsaved, result⟩
  · rw [result]
    exact .login session saved rfl system (silent_of_journal_eq rfl) rfl
  · rw [result]
    exact .missed session error unsaved rfl (silent_of_journal_eq rfl)

theorem change_loginIfAnonymous (system : System) (cancelled : Bool) (session : SignedIn) :
    Change system (system.loginIfAnonymous cancelled session) := by
  unfold loginIfAnonymous
  rcases system.controller.loginIfAnonymous_cases cancelled session with
    ⟨_, result⟩ | ⟨_, result⟩ | ⟨_, _, ⟨saved, result⟩ | ⟨error, unsaved, result⟩⟩
  · rw [result]
    exact .quiet (Quiet.refl system)
  · rw [result]
    exact .quiet (Quiet.refl system)
  · rw [result]
    exact .login session saved rfl system (silent_of_journal_eq rfl) rfl
  · rw [result]
    exact .missed session error unsaved rfl (silent_of_journal_eq rfl)

theorem change_endTokenLogin (system : System) (number : Nat) (answer : Answer) :
    Change system (system.endTokenLogin number answer) := by
  unfold endTokenLogin
  split
  · exact .quiet (Quiet.refl system)
  · rename_i token _
    have heard := quiet_hear system (system.client.accountRequest? token) answer
    revert heard
    generalize system.hear (system.client.accountRequest? token) answer = result
    obtain ⟨between, answer⟩ := result
    intro heard
    simp only
    rw [heard.controller]
    rcases system.controller.finishTokenLogin_cases token answer.account with
      ⟨error, result⟩ | ⟨account, received, ⟨saved, result⟩ | ⟨error, unsaved, result⟩⟩
    · rw [result]
      split
      · simp_all
      · rename_i ended _
        obtain ⟨rfl, _⟩ := Prod.mk.inj ended
        exact .quiet ⟨rfl, heard.silent⟩
    · rw [result, received]
      exact .login _ saved rfl between heard.silent rfl
    · rw [result, received]
      exact .missed _ error unsaved rfl heard.silent

/-- What the server accepted when it answered a check. -/
theorem accepted_hear (system : System) {bearer : String} {answer : Answer}
    {reputation : Reputation}
    (reported : (system.hear (system.client.checkRequest? bearer) answer).2.reputation =
      .ok reputation) :
    (system.hear (system.client.checkRequest? bearer) answer).1.Accepted bearer reputation := by
  cases built : system.client.checkRequest? bearer with
  | none =>
      rw [built] at reported
      simp [hear, Answer.reputation] at reported
  | some request =>
      rw [built] at reported
      simp only [hear] at reported ⊢
      cases answer with
      | failed => simp [Answer.reputation] at reported
      | received response =>
          simp only [Answer.reputation] at reported
          split at reported
          · rename_i accepted
            exact ⟨request, response, built, by simp, accepted, reported⟩
          · contradiction

theorem change_endValidation (system : System) (number : Nat) (answer : Answer) :
    Change system (system.endValidation number answer) := by
  unfold endValidation
  split
  · exact .quiet (Quiet.refl system)
  · rename_i bearer _
    have heard := quiet_hear system (system.client.checkRequest? bearer) answer
    have accepts := @accepted_hear system bearer answer
    revert heard accepts
    generalize system.hear (system.client.checkRequest? bearer) answer = result
    obtain ⟨between, answer⟩ := result
    intro heard accepts
    simp only
    rw [heard.controller]
    rcases system.controller.finishValidation_cases bearer answer.reputation with
      same | dropped | ⟨current, reputation, held, mine, reported, result⟩
    · rw [same]
      exact .quiet ⟨rfl, heard.silent⟩
    · rw [dropped]
      exact .logout rfl heard.silent
    · rw [result]
      rcases system.controller.login_cases { current with reputation } with
        ⟨saved, entered⟩ | ⟨error, unsaved, missed⟩
      · rw [entered]
        have accepted := accepts reported
        rw [← mine] at accepted
        refine .refresh current reputation held ?_ saved rfl heard.silent
        obtain ⟨request, response, built, told, status, decoded⟩ := accepted
        have same : between.controller = system.controller := heard.controller
        refine ⟨request, response, ?_, told, status, decoded⟩
        rw [← built]
        simp [client, same, Controller.enter]
      · rw [missed]
        exact .missed _ error unsaved rfl heard.silent

theorem change_commitPoll (system : System) (number : Nat) (task : PollTask) :
    Change system (system.commitPoll number task) := by
  unfold commitPoll
  rcases task.poller.commit_cases system.controller with
    ⟨same, ended⟩ | ⟨session, phase, _, _, ⟨saved, result⟩ | ⟨error, unsaved, result⟩⟩
  · simp only
    split
    · rename_i committing loggedIn
      rcases ended with ended | ended | ended <;> simp_all [Poller.finish]
    · rw [same]
      exact .quiet (quiet_of_eq rfl rfl)
  · simp only [result, phase, Poller.finish]
    exact .login session saved rfl _ (silent_of_journal_eq rfl) rfl
  · simp only [result, phase, Poller.finish]
    exact .missed session error unsaved rfl (silent_of_journal_eq rfl)

theorem change_poll (system : System) (number : Nat) (action : PollAction) :
    Change system (system.poll number action) := by
  unfold poll
  split
  · exact .quiet (Quiet.refl system)
  · cases action with
    | begin => exact .quiet (quiet_withPoller system _ _)
    | noticeCancel => exact .quiet (quiet_withPoller system _ _)
    | noticeLogin => exact .quiet (quiet_withPoller system _ _)
    | ask =>
        simp only
        split
        · exact .quiet ((quiet_withPoller system _ _).trans (quiet_send _ _))
        · exact .quiet (Quiet.refl system)
    | receive answer => exact .quiet (quiet_receive system _ _ _)
    | commit => exact change_commitPoll system _ _

/-- Every event is one of these changes. -/
theorem change_step (system : System) (event : Event) : Change system (system.step event) := by
  cases event with
  | refuse refusal => exact .refused refusal rfl (silent_of_journal_eq rfl)
  | login session => exact change_login system session
  | loginIfAnonymous cancelled session => exact change_loginIfAnonymous system cancelled session
  | logout => exact .logout rfl (silent_of_journal_eq rfl)
  | reload later => exact .reload later rfl (silent_of_journal_eq rfl)
  | restart later => exact .restart later rfl (silent_of_journal_eq rfl)
  | beginTokenLogin token => exact .quiet (quiet_beginTokenLogin system token)
  | beginLinkLogin input => exact .quiet (quiet_beginLinkLogin system input)
  | endTokenLogin number answer => exact change_endTokenLogin system number answer
  | beginValidation => exact .quiet (quiet_beginValidation system)
  | endValidation number answer => exact change_endValidation system number answer
  | startPolling ticket interval => exact .quiet (quiet_of_eq rfl rfl)
  | poll number action => exact change_poll system number action
  | handle number action => exact .quiet (quiet_handle system number action)
  | openPrompt interval => exact .quiet (quiet_of_eq rfl rfl)
  | prompt number action => exact .quiet (quiet_prompt system number action)

end System

end SignIn
