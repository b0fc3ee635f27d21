import SignIn.Proofs.System.Basic
import SignIn.Proofs.Poller

/-!
# What one event can do to the pollers

Pollers keep their numbers.  In one event each of them stays, acts, is cancelled, or is
gone for good; new ones get numbers of their own.
-/

namespace SignIn

namespace System

theorem number_lt_of_poller? {system : System} {number : Nat} {task : PollTask}
    (there : system.poller? number = some task) : number < system.pollers.length := by
  apply Decidable.byContradiction
  intro large
  rw [poller?, List.getElem?_eq_none (Nat.le_of_not_lt large)] at there
  contradiction

theorem poller?_withPoller {system : System} {number : Nat}
    (small : number < system.pollers.length) (other : PollTask) :
    (system.withPoller number other).poller? number = some other := by
  rw [poller?, withPoller, List.getElem?_set_self small]
  rfl

theorem poller?_withPoller_ne {system : System} {number other : Nat} (apart : other ≠ number)
    (task : PollTask) : (system.withPoller other task).poller? number = system.poller? number := by
  rw [poller?, withPoller, List.getElem?_set_ne apart]
  rfl

/-- Whether something that happens to an open prompt takes the lock of the controller. -/
def locksPrompt (opened : OpenPrompt) (action : PromptAction) : Bool :=
  match opened.call with
  | .idle =>
    match action with
    | .start => opened.prompt.ticket.isSome && opened.prompt.poller.isNone
    | .close => opened.prompt.poller.isSome
    | .drop => opened.prompt.poller.isSome
    | _ => false
  | .fetching starts =>
    match action with
    | .receive answer =>
      starts && answer.ticket.toOption.isSome && opened.prompt.poller.isNone
    | _ => false
  | .waiting _ => action = .leave

/-- Whether an event takes the lock of the controller.  A restart does not wait for the
lock; it takes it away from whoever has it. -/
def locks (system : System) : Event → Bool
  | .refuse _ => false
  | .login _ => true
  | .loginIfAnonymous _ _ => true
  | .logout => true
  | .reload _ => true
  | .restart _ => true
  | .beginTokenLogin _ => false
  | .beginLinkLogin input => (TokenLink.token? input).isSome
  | .endTokenLogin _ answer => answer.account.toOption.isSome
  | .beginValidation => true
  | .endValidation _ _ => true
  | .startPolling _ _ => false
  | .poll _ action => action = .begin || action = .commit
  | .handle _ action => action != .finished
  | .openPrompt _ => false
  | .prompt number action =>
    match system.prompt? number with
    | none => false
    | some opened => locksPrompt opened action

/-- What can become of the poller of one number, in an event that takes the lock or not. -/
inductive TaskMoves : Bool → Option PollTask → Option PollTask → Prop where
  | absent (locks : Bool) : TaskMoves locks none none
  | gone (before : PollTask) : TaskMoves true (some before) none
  | moved {locks : Bool} {before after : PollTask}
      (moves : before.poller.Moves locks after.poller) :
      TaskMoves locks (some before) (some after)

theorem TaskMoves.refl (locks : Bool) (task : Option PollTask) :
    TaskMoves locks task task := by
  cases task with
  | none => exact .absent locks
  | some task => exact .moved (.stay locks)

/-- A table of pollers that follows another one. -/
structure Follow (locks : Bool) (before after : List (Option PollTask)) : Prop where
  length : before.length ≤ after.length
  moves : ∀ number, number < before.length →
    TaskMoves locks before[number]?.join after[number]?.join

namespace Follow

variable {locks : Bool} (pollers : List (Option PollTask))

theorem refl : Follow locks pollers pollers where
  length := Nat.le_refl _
  moves number _ := TaskMoves.refl locks pollers[number]?.join

theorem append (task : Option PollTask) : Follow locks pollers (pollers ++ [task]) where
  length := by simp
  moves number small := by
    rw [List.getElem?_append_left small]
    exact TaskMoves.refl locks pollers[number]?.join

variable {pollers}

theorem set {number : Nat} {before after : PollTask}
    (there : pollers[number]?.join = some before)
    (moves : before.poller.Moves locks after.poller) :
    Follow locks pollers (pollers.set number (some after)) where
  length := by simp
  moves other small := by
    by_cases same : number = other
    · subst same
      rw [there, List.getElem?_set_self small]
      exact .moved moves
    · rw [List.getElem?_set_ne same]
      exact TaskMoves.refl locks pollers[other]?.join

variable (pollers)

theorem clear : Follow true pollers (pollers.map fun _ => none) where
  length := by simp
  moves number small := by
    have absent : ((pollers.map fun _ => (none : Option PollTask))[number]?).join = none := by
      rw [List.getElem?_map]
      cases pollers[number]? <;> rfl
    rw [absent]
    cases pollers[number]?.join with
    | none => exact .absent true
    | some task => exact .gone task

end Follow

/-- What can become of the table of pollers while none of them acts, with the lock or
without it: one is started, goes to another holder or is cancelled, or all are gone. -/
inductive Managed (before : List (Option PollTask)) : Bool → List (Option PollTask) → Prop where
  | same (locks : Bool) : Managed before locks before
  | start (locks : Bool) (task : PollTask) (fresh : task.poller.phase = .fresh) :
      Managed before locks (before ++ [some task])
  | hand (locks : Bool) {number : Nat} {task : PollTask}
      (there : before[number]?.join = some task) (holder : Holder) :
      Managed before locks (before.set number (some { task with holder }))
  | cancel {number : Nat} {task : PollTask} (there : before[number]?.join = some task)
      (holder : Holder) :
      Managed before true (before.set number (some ⟨task.poller.cancel, holder⟩))
  | clear : Managed before true (before.map fun _ => none)

theorem Managed.follow {locks : Bool} {before after : List (Option PollTask)}
    (managed : Managed before locks after) : Follow locks before after := by
  cases managed with
  | same => exact Follow.refl before
  | start => exact Follow.append before _
  | hand _ there holder => exact Follow.set there (.stay locks)
  | cancel there holder => exact Follow.set there .cancel
  | clear => exact Follow.clear before

theorem Follow.exists_before {system after : System} {locks : Bool} {number : Nat}
    {task : PollTask} (follow : Follow locks system.pollers after.pollers)
    (small : number < system.pollers.length) (there : after.poller? number = some task) :
    ∃ earlier, system.poller? number = some earlier ∧
      earlier.poller.Moves locks task.poller := by
  have moves : TaskMoves locks (system.poller? number) (after.poller? number) :=
    follow.moves number small
  rw [there] at moves
  cases found : system.poller? number with
  | none =>
      rw [found] at moves
      cases moves
  | some earlier =>
      rw [found] at moves
      cases moves with
      | moved moves => exact ⟨earlier, rfl, moves⟩

theorem Follow.exists_after {system after : System} {number : Nat} {task : PollTask}
    (follow : Follow false system.pollers after.pollers)
    (there : system.poller? number = some task) :
    ∃ later, after.poller? number = some later ∧
      task.poller.Moves false later.poller := by
  have moves : TaskMoves false (system.poller? number) (after.poller? number) :=
    follow.moves number (number_lt_of_poller? there)
  rw [there] at moves
  cases found : after.poller? number with
  | none =>
      rw [found] at moves
      cases moves
  | some later =>
      rw [found] at moves
      cases moves with
      | moved moves => exact ⟨later, rfl, moves⟩

section Follow

variable (system : System)

theorem follow_withPoller {locks : Bool} {number : Nat} {before after : PollTask}
    (there : system.poller? number = some before)
    (moves : before.poller.Moves locks after.poller) :
    Follow locks system.pollers (system.withPoller number after).pollers :=
  Follow.set there moves

@[simp]
theorem pollers_hear (request : Option Request) (answer : Answer) :
    (system.hear request answer).1.pollers = system.pollers := by
  cases request <;> rfl

theorem pollers_login (session : SignedIn) :
    (system.login session).pollers = system.pollers := by
  unfold login
  split <;> rfl

theorem pollers_loginIfAnonymous (cancelled : Bool) (session : SignedIn) :
    (system.loginIfAnonymous cancelled session).pollers = system.pollers := by
  unfold loginIfAnonymous
  split <;> rfl

theorem pollers_beginLinkLogin (input : String) :
    (system.beginLinkLogin input).pollers = system.pollers := by
  unfold beginLinkLogin
  split <;> rfl

theorem pollers_endTokenLogin (number : Nat) (answer : Answer) :
    (system.endTokenLogin number answer).pollers = system.pollers := by
  unfold endTokenLogin
  split
  · rfl
  · rename_i token _
    have same := system.pollers_hear (system.client.accountRequest? token) answer
    revert same
    generalize system.hear (system.client.accountRequest? token) answer = result
    intro same
    simp only
    split <;> exact same

theorem pollers_beginValidation : system.beginValidation.pollers = system.pollers := by
  unfold beginValidation
  split <;> rfl

theorem pollers_endValidation (number : Nat) (answer : Answer) :
    (system.endValidation number answer).pollers = system.pollers := by
  unfold endValidation
  split
  · rfl
  · exact system.pollers_hear _ answer

theorem follow_receive (locks : Bool) {number : Nat} {task : PollTask}
    (there : system.poller? number = some task) (answer : Answer) :
    Follow locks system.pollers (system.receive number task answer).pollers := by
  unfold receive
  split
  · exact Follow.refl system.pollers
  · rename_i request _
    have same := system.pollers_hear request answer
    revert same
    generalize system.hear request answer = result
    obtain ⟨between, answer⟩ := result
    intro same
    simp only at same
    have follow : Follow locks system.pollers
        (system.withPoller number { task with poller := task.poller.receive answer }).pollers :=
      system.follow_withPoller there (.receive locks answer)
    simp only [withPoller] at follow
    simp only [send, withPoller, same]
    exact follow

theorem follow_commitPoll {number : Nat} {task : PollTask}
    (there : system.poller? number = some task) :
    Follow true system.pollers (system.commitPoll number task).pollers := by
  have follow : Follow true system.pollers (system.withPoller number
      { task with poller := (task.poller.commit system.controller).2 }).pollers :=
    system.follow_withPoller there (.commit system.controller)
  unfold commitPoll
  simp only
  split <;> exact follow

theorem follow_poll (number : Nat) (action : PollAction) :
    Follow (system.locks (.poll number action)) system.pollers
      (system.poll number action).pollers := by
  unfold poll
  split
  · exact Follow.refl system.pollers
  · rename_i task there
    cases action with
    | begin => exact system.follow_withPoller there (.begin _)
    | noticeCancel => exact system.follow_withPoller there (.noticeCancel _)
    | noticeLogin => exact system.follow_withPoller there (.noticeLogin _ _)
    | ask =>
        simp only
        split
        · exact system.follow_withPoller there (.ask _)
        · exact Follow.refl system.pollers
    | receive answer => exact system.follow_receive _ there answer
    | commit => exact system.follow_commitPoll there

theorem managed_release (number : Nat) :
    Managed system.pollers true (system.release number).pollers := by
  unfold release
  split
  · exact .same true
  · rename_i task there
    exact .cancel there .nobody

theorem managed_handle (number : Nat) (action : HandleAction) :
    Managed system.pollers (system.locks (.handle number action))
      (system.handle number action).pollers := by
  unfold handle
  split
  · exact .same _
  · rename_i task there
    split
    · exact .cancel there task.holder
    · exact system.managed_release number
    · exact .hand _ there .future
    · exact system.managed_release number
    · exact .same _

theorem managed_startPrompt (locks : Bool) (number : Nat) (opened : OpenPrompt)
    (ticket : Ticket) :
    Managed system.pollers locks (system.startPrompt number opened ticket).pollers := by
  unfold startPrompt
  split
  · exact .same locks
  · rename_i poller starts
    have fresh : poller.phase = .fresh := by
      unfold Prompt.pollerToStart? at starts
      split at starts
      · obtain rfl := Option.some.inj starts
        rfl
      · contradiction
    exact .start locks { poller, holder := .prompt } fresh

theorem managed_getTicket (locks : Bool) (number : Nat) (opened : OpenPrompt)
    (starts : Bool) :
    Managed system.pollers locks (system.getTicket number opened starts).pollers := by
  unfold getTicket
  split
  · exact .same locks
  · split
    · exact system.managed_startPrompt locks number opened _
    · exact .same locks

theorem managed_receiveTicket (locks : Bool) (number : Nat) (opened : OpenPrompt)
    (starts : Bool) (answer : Answer) :
    Managed system.pollers locks
      (system.receiveTicket number opened starts answer).pollers := by
  have same := system.pollers_hear system.client.ticketRequest? answer
  unfold receiveTicket
  revert same
  generalize system.hear system.client.ticketRequest? answer = result
  intro same
  simp only
  rw [← same]
  split
  · exact .same locks
  · split
    · exact managed_startPrompt _ locks _ _ _
    · exact .same locks

theorem managed_closePrompt (number : Nat) (opened : OpenPrompt) :
    Managed system.pollers opened.prompt.poller.isSome
      (system.closePrompt number opened).pollers := by
  unfold closePrompt
  cases opened.prompt.poller with
  | none => exact .same false
  | some task => exact system.managed_release task

theorem managed_actPrompt (number : Nat) (opened : OpenPrompt) (action : PromptAction) :
    Managed system.pollers (locksPrompt opened action)
      (system.actPrompt number opened action).pollers := by
  obtain ⟨prompt, call⟩ := opened
  cases call with
  | idle =>
      cases action with
      | ticket => exact system.managed_getTicket _ number _ false
      | start => exact system.managed_getTicket _ number _ true
      | receive answer => exact .same _
      | wait =>
          unfold actPrompt
          simp only
          split <;> exact .same _
      | leave => exact .same _
      | close => exact system.managed_closePrompt number _
      | drop => exact system.managed_closePrompt number _
  | fetching starts =>
      cases action with
      | receive answer => exact system.managed_receiveTicket _ number _ _ _
      | _ => exact .same _
  | waiting task =>
      cases action with
      | leave => exact system.managed_release task
      | _ => exact .same _

theorem managed_prompt (number : Nat) (action : PromptAction) :
    Managed system.pollers (system.locks (.prompt number action))
      (system.prompt number action).pollers := by
  unfold prompt
  rw [locks]
  cases system.prompt? number with
  | none => exact .same _
  | some opened => exact system.managed_actPrompt number opened action

/-- Whatever happens but the actions of pollers leaves each of them where it stands, or
ends them all. -/
theorem managed_step (event : Event) (apart : ∀ number action, event ≠ .poll number action) :
    Managed system.pollers (system.locks event) (system.step event).pollers := by
  cases event with
  | refuse refusal => exact .same _
  | login session =>
      rw [step, pollers_login]
      exact .same _
  | loginIfAnonymous cancelled session =>
      rw [step, pollers_loginIfAnonymous]
      exact .same _
  | logout => exact .same _
  | reload later => exact .same _
  | restart later => exact .clear
  | beginTokenLogin token => exact .same _
  | beginLinkLogin input =>
      rw [step, pollers_beginLinkLogin]
      exact .same _
  | endTokenLogin number answer =>
      rw [step, pollers_endTokenLogin]
      exact .same _
  | beginValidation =>
      rw [step, pollers_beginValidation]
      exact .same _
  | endValidation number answer =>
      rw [step, pollers_endValidation]
      exact .same _
  | startPolling ticket interval => exact .start _ _ rfl
  | poll number action => exact absurd rfl (apart number action)
  | handle number action => exact system.managed_handle number action
  | openPrompt interval => exact .same _
  | prompt number action => exact system.managed_prompt number action

/-- In every event pollers stay, act, are cancelled, or go. -/
theorem follow_step (event : Event) :
    Follow (system.locks event) system.pollers (system.step event).pollers := by
  cases event with
  | poll number action => exact system.follow_poll number action
  | _ => exact (system.managed_step _ (by simp)).follow

end Follow

end System

end SignIn
