import SignIn.Proofs.System.Endings
import SignIn.Proofs.System.LinkLogin

/-!
# Operations that fail

An operation that nothing else comes between changes nothing when it fails, at whatever it
failed: nobody is signed in or out, nobody who watches is told anything, and every entry of
the store is what it was, whether it belongs to the session or not.
-/

namespace SignIn

/-- Whether an event only makes the store refuse other things than before. -/
def Event.isRefusal : Event → Bool
  | .refuse _ => true
  | _ => false

/-- Whether an event is one of a poller, or makes the store refuse other things. -/
def Event.isOfPoller (number : Nat) : Event → Bool
  | .refuse _ => true
  | .poll other _ => other = number
  | _ => false

namespace System

/-- The events of an operation that fails.  The store may come to refuse other things while
the operation waits for an answer, but no other operation comes between. -/
inductive Fails (system : System) : List Event → Prop where
  | login {session : SignedIn} {error : StoreError}
      (returned : system.returned? (.login session) = some (.login (.error error))) :
      Fails system [.login session]
  | attempt {cancelled : Bool} {session : SignedIn} {result : Except StoreError LoginAttempt}
      (returned : system.returned? (.loginIfAnonymous cancelled session) = some (.attempt result))
      (uncommitted : result ≠ .ok .committed) :
      Fails system [.loginIfAnonymous cancelled session]
  | tokenLogin {token : String} {waiting : List Event} {answer : Answer} {error : SessionError}
      (alone : ∀ event ∈ waiting, event.isRefusal = true)
      (returned : (system.run (.beginTokenLogin token :: waiting)).returned?
        (.endTokenLogin system.tokenLogins.length answer) = some (.tokenLogin (.error error))) :
      Fails system (.beginTokenLogin token :: waiting ++
        [.endTokenLogin system.tokenLogins.length answer])
  | unused {input : String}
      (returned : system.returned? (.beginLinkLogin input) = some .unused) :
      Fails system [.beginLinkLogin input]
  | linkLogin {input : String} {waiting : List Event} {answer : Answer} {error : SessionError}
      (alone : ∀ event ∈ waiting, event.isRefusal = true)
      (returned : (system.run (.beginLinkLogin input :: waiting)).returned?
        (.endTokenLogin system.tokenLogins.length answer) = some (.tokenLogin (.error error))) :
      Fails system (.beginLinkLogin input :: waiting ++
        [.endTokenLogin system.tokenLogins.length answer])
  | prompt {number : Nat} {call : PromptAction} {waiting : List Event} {answer : Answer}
      {error : SessionError} (calls : call = .ticket ∨ call = .start)
      (alone : ∀ event ∈ waiting, event.isRefusal = true)
      (returned : (system.run (.prompt number call :: waiting)).returned?
        (.prompt number (.receive answer)) = some (.ticket (.error error))) :
      Fails system (.prompt number call :: waiting ++ [.prompt number (.receive answer)])
  | poller {number : Nat} {events : List Event} {error : SessionError}
      (alone : ∀ event ∈ events, event.isOfPoller number = true)
      (ended : (system.run events).Ended number (.failed error)) : Fails system events

theorem unchanged_of_quiet {before after : System} (quiet : Quiet before after) :
    before.controller.Unchanged after.controller :=
  Controller.unchanged_of_eq quiet.controller

theorem unchanged_of_isRefusal (system : System) {event : Event}
    (refusal : event.isRefusal = true) :
    system.controller.Unchanged (system.step event).controller := by
  cases event with
  | refuse other =>
      exact ⟨rfl, rfl, rfl, Backing.entries_refuse _ other, FileTree.Extends.refl _⟩
  | _ => simp [Event.isRefusal] at refusal

theorem unchanged_waiting (system : System) {waiting : List Event}
    (alone : ∀ event ∈ waiting, event.isRefusal = true) :
    system.controller.Unchanged (system.run waiting).controller := by
  induction waiting generalizing system with
  | nil => exact Controller.Unchanged.refl _
  | cons event waiting ih =>
      have first := system.unchanged_of_isRefusal (alone event (List.mem_cons_self ..))
      have rest := ih (system.step event) fun other member =>
        alone other (List.mem_cons_of_mem event member)
      exact first.trans rest

theorem unchanged_of_ends {system : System} {first last : Event} {waiting : List Event}
    (begins : Quiet system (system.step first))
    (alone : ∀ event ∈ waiting, event.isRefusal = true)
    (ends : (system.run (first :: waiting)).controller.Unchanged
      ((system.run (first :: waiting)).step last).controller) :
    system.controller.Unchanged (system.run (first :: waiting ++ [last])).controller := by
  rw [run_append, run_cons, run_nil]
  exact ((unchanged_of_quiet begins).trans (unchanged_waiting _ alone)).trans ends

theorem unchanged_login {system : System} {session : SignedIn} {error : StoreError}
    (returned : system.returned? (.login session) = some (.login (.error error))) :
    system.controller.Unchanged (system.login session).controller := by
  unfold login
  rcases system.controller.login_cases session with ⟨_, result⟩ | ⟨_, unsaved, result⟩
  · simp [returned?, result] at returned
  · rw [result]
    exact Controller.unchanged_miss unsaved

theorem unchanged_loginIfAnonymous {system : System} {cancelled : Bool} {session : SignedIn}
    {result : Except StoreError LoginAttempt}
    (returned : system.returned? (.loginIfAnonymous cancelled session) = some (.attempt result))
    (uncommitted : result ≠ .ok .committed) :
    system.controller.Unchanged (system.loginIfAnonymous cancelled session).controller := by
  unfold loginIfAnonymous
  rcases system.controller.loginIfAnonymous_cases cancelled session with
    ⟨_, tried⟩ | ⟨_, tried⟩ | ⟨_, _, ⟨_, tried⟩ | ⟨error, unsaved, tried⟩⟩
  · rw [tried]
    exact Controller.Unchanged.refl _
  · rw [tried]
    exact Controller.Unchanged.refl _
  · simp only [returned?, tried, Option.some.injEq, Returned.attempt.injEq] at returned
    exact absurd returned.symm uncommitted
  · rw [tried]
    exact Controller.unchanged_miss unsaved

theorem unchanged_endTokenLogin {system : System} {number : Nat} {answer : Answer}
    {error : SessionError}
    (returned : system.returned? (.endTokenLogin number answer) =
      some (.tokenLogin (.error error))) :
    system.controller.Unchanged (system.step (.endTokenLogin number answer)).controller := by
  cases waits : system.pending? (.tokenLogin number) with
  | none => simp [returned?, waits] at returned
  | some token =>
      cases tokenLoginEnds_of_pending waits answer with
      | refused _ _ unchanged => exact unchanged
      | missed _ _ _ unchanged => exact unchanged
      | entered _ _ succeeded =>
          rw [returned] at succeeded
          simp at succeeded

/-- As long as only one poller acts nothing changes, or that poller has logged in. -/
theorem unchanged_or_settled {system : System} {number : Nat} {events : List Event}
    (alone : ∀ event ∈ events, event.isOfPoller number = true) :
    system.controller.Unchanged (system.run events).controller ∨
      ∃ profile, Settled (.loggedIn profile) (system.run events) number := by
  -- A poller that has logged in stays so, hence each event keeps the one or the other.
  suffices grows : ∀ now : System,
      (system.controller.Unchanged now.controller ∨
        ∃ profile, Settled (.loggedIn profile) now number) →
      system.controller.Unchanged (now.run events).controller ∨
        ∃ profile, Settled (.loggedIn profile) (now.run events) number from
    grows system (.inl (Controller.Unchanged.refl _))
  induction events with
  | nil => exact fun now known => known
  | cons event events ih =>
      intro now known
      apply ih (fun other member => alone other (List.mem_cons_of_mem event member))
      rcases known with unchanged | ⟨profile, settled⟩
      · have mine := alone event (List.mem_cons_self ..)
        cases event with
        | refuse refusal => exact .inl (unchanged.trans (now.unchanged_of_isRefusal rfl))
        | poll other action =>
            obtain rfl : other = number := by simpa [Event.isOfPoller] using mine
            rcases now.poll_cases other action with ⟨same, _⟩ | attempt
            · exact .inl (unchanged.trans (Controller.unchanged_of_eq same))
            · cases attempt with
              | entered free _ _ ended => exact .inr ⟨_, ended.settled⟩
              | missed free unsaved left _ =>
                  have missed := Controller.unchanged_miss unsaved
                  rw [← left] at missed
                  exact .inl (unchanged.trans missed)
        | _ => simp [Event.isOfPoller] at mine
      · exact .inr ⟨profile, settled.follow (now.follow_step event)⟩

end System

end SignIn
