import SignIn.Proofs.System.Calls

/-!
# Logins with the token of a link

A link is used only if nobody is signed in.  That is looked at once, before the account is
asked for; when the answer comes the login takes the place of whoever has signed in since.
-/

namespace SignIn

namespace System

def accountHeard (system : System) (token : String) (answer : Answer) :
    Except FetchError Account :=
  (system.hear (system.client.accountRequest? token) answer).2.account

/-- What the login of a token with a number does when it ends.  Without an account, or if its
session cannot be saved, the controller is left unchanged; otherwise the session is entered,
whoever is signed in by then. -/
inductive TokenLoginEnds (current : System) (number : Nat) (token : String) (answer : Answer) :
    Prop where
  | refused {error : FetchError} (heard : current.accountHeard token answer = .error error)
      (returned : current.returned? (.endTokenLogin number answer) =
        some (.tokenLogin (.error (.tokenLogin error))))
      (unchanged : current.controller.Unchanged
        (current.step (.endTokenLogin number answer)).controller)
  | missed {account : Account} {error : StoreError}
      (heard : current.accountHeard token answer = .ok account)
      (unsaved : (current.controller.store.save
        ⟨token, account.profile, account.reputation⟩).2 = .error error)
      (returned : current.returned? (.endTokenLogin number answer) =
        some (.tokenLogin (.error (.store error))))
      (unchanged : current.controller.Unchanged
        (current.step (.endTokenLogin number answer)).controller)
  | entered {account : Account} (heard : current.accountHeard token answer = .ok account)
      (saved : (current.controller.store.save
        ⟨token, account.profile, account.reputation⟩).2 = .ok ())
      (returned : current.returned? (.endTokenLogin number answer) = some (.tokenLogin (.ok ())))
      (now : (current.step (.endTokenLogin number answer)).controller =
        current.controller.enter ⟨token, account.profile, account.reputation⟩)

theorem tokenLoginEnds_of_pending {current : System} {number : Nat} {token : String}
    (waits : current.pending? (.tokenLogin number) = some token) (answer : Answer) :
    current.TokenLoginEnds number token answer := by
  have left : (current.step (.endTokenLogin number answer)).controller =
      (current.controller.finishTokenLogin token (current.accountHeard token answer)).1 :=
    current.controller_endTokenLogin waits answer
  have returned : current.returned? (.endTokenLogin number answer) =
      some (.tokenLogin
        (current.controller.finishTokenLogin token (current.accountHeard token answer)).2) := by
    simp only [returned?, waits, Option.map_some, accountHeard]
  cases heard : current.accountHeard token answer with
  | error error =>
      rw [heard, Controller.finishTokenLogin] at left returned
      exact .refused heard returned (Controller.unchanged_of_eq left)
  | ok account =>
      rw [heard, Controller.finishTokenLogin] at left returned
      rcases current.controller.login_cases ⟨token, account.profile, account.reputation⟩ with
        ⟨saved, result⟩ | ⟨error, unsaved, result⟩
      · rw [result] at left returned
        exact .entered heard saved returned left
      · rw [result] at left returned
        refine .missed heard unsaved returned ?_
        rw [left]
        exact Controller.unchanged_miss unsaved

theorem tokenToUse?_eq_some_iff {controller : Controller} {input token : String} :
    controller.tokenToUse? input = some token ↔
      TokenLink.token? input = some token ∧ controller.session = .anonymous := by
  unfold Controller.tokenToUse?
  cases TokenLink.token? input <;> cases controller.session <;>
    simp [Session.isAuthenticated]

theorem tokenToUse?_eq_none_iff {controller : Controller} {input : String} :
    controller.tokenToUse? input = none ↔
      TokenLink.token? input = none ∨ controller.session.isAuthenticated = true := by
  unfold Controller.tokenToUse?
  cases TokenLink.token? input <;> simp

theorem beginLinkLogin_of_unused {system : System} {input : String}
    (unused : system.controller.tokenToUse? input = none) :
    system.beginLinkLogin input = system := by
  unfold beginLinkLogin
  rw [unused]

theorem beginLinkLogin_of_used {system : System} {input token : String}
    (used : system.controller.tokenToUse? input = some token) :
    system.beginLinkLogin input = system.beginTokenLogin token := by
  unfold beginLinkLogin
  rw [used]

theorem step_beginLinkLogin (system : System) (input : String) :
    system.step (.beginLinkLogin input) = system.beginLinkLogin input :=
  rfl

/-- Whether a link is used is decided when its login begins.  Without a token, or while
someone is signed in, nothing is done; otherwise the login ends like any other with its
token, whatever has happened meanwhile. -/
theorem linkLogin_decides_when_it_begins (system : System) (input : String)
    {between : List Event} (answer : Answer)
    (waits : ∀ event ∈ between, event.ends (.tokenLogin system.tokenLogins.length) = false) :
    let begun := system.step (.beginLinkLogin input)
    let returned := system.returned? (.beginLinkLogin input)
    (((TokenLink.token? input = none ∨ system.controller.session.isAuthenticated = true) ∧
        begun = system ∧ returned = some .unused) ∨
      ∃ token, TokenLink.token? input = some token ∧ system.controller.session = .anonymous ∧
        returned = none ∧ begun.controller = system.controller ∧
        (begun.run between).TokenLoginEnds system.tokenLogins.length token answer) := by
  intro begun returned
  have began : begun = system.beginLinkLogin input := system.step_beginLinkLogin input
  cases used : system.controller.tokenToUse? input with
  | none =>
      refine .inl ⟨tokenToUse?_eq_none_iff.mp used, ?_, ?_⟩
      · rw [began, beginLinkLogin_of_unused used]
      · simp only [returned, returned?, used, Option.isNone_none, if_pos]
  | some token =>
      obtain ⟨found, anonymous⟩ := tokenToUse?_eq_some_iff.mp used
      rw [beginLinkLogin_of_used used] at began
      refine .inr ⟨token, found, anonymous, ?_, ?_, ?_⟩
      · simp [returned, returned?, used]
      · rw [began]
        rfl
      · have pending : begun.pending? (.tokenLogin system.tokenLogins.length) = some token := by
          rw [began]
          exact system.pending?_beginTokenLogin token
        exact tokenLoginEnds_of_pending (pending?_run pending waits) answer

/-- Someone who signs in while the account of a link is asked for is replaced. -/
theorem linkLogin_over_a_later_login :
    let system := start (.ofBase "http://localhost") (.memory .empty) {}
    let between := [Event.login (Controller.sessionOf "first")]
    let current := (system.step (.beginLinkLogin "?token=second")).run between
    let number := system.tokenLogins.length
    let ended := current.step (.endTokenLogin number (.accountOf "bob"))
    (∀ event ∈ between, event.ends (.tokenLogin number) = false) ∧
      current.TokenLoginEnds number "second" (.accountOf "bob") ∧
      current.controller.session = .authenticated (Controller.sessionOf "first") ∧
      ended.controller.session.bearer? = some "second" := by
  intro system between current number ended
  have waits : ∀ event ∈ between, event.ends (.tokenLogin number) = false := by decide
  have anonymous : system.controller.session = .anonymous := rfl
  have token : TokenLink.token? "?token=second" = some "second" := by decide +kernel
  have entered : current.controller.session = .authenticated (Controller.sessionOf "first") := by
    decide +kernel
  have replaced : ended.controller.session.bearer? = some "second" := by decide +kernel
  refine ⟨waits, ?_, entered, replaced⟩
  rcases system.linkLogin_decides_when_it_begins "?token=second" (.accountOf "bob") waits with
    ⟨unused | authenticated, _⟩ | ⟨found, same, _, _, _, ends⟩
  · rw [token] at unused
    contradiction
  · rw [anonymous] at authenticated
    contradiction
  · obtain rfl : "second" = found := Option.some.inj (token.symm.trans same)
    exact ends

/-- It is not the case that the login of a link leaves whoever is signed in by its end. -/
theorem not_forall_linkLogin_keeps_session :
    ¬ ∀ (client : Client) (store : Backing) (later : Refusal) (input token : String)
        (between : List Event) (answer : Answer),
      let system := start client store later
      let current := (system.step (.beginLinkLogin input)).run between
      let ended := current.step (.endTokenLogin system.tokenLogins.length answer)
      system.controller.tokenToUse? input = some token →
        (∀ event ∈ between, event.ends (.tokenLogin system.tokenLogins.length) = false) →
        current.controller.session.isAuthenticated = true →
        current.controller.Unchanged ended.controller := by
  intro keeps
  have unchanged := keeps (.ofBase "http://localhost") (.memory .empty) {} "?token=second"
    "second" [.login (Controller.sessionOf "first")] (.accountOf "bob") (by decide +kernel)
    (by decide) (by decide +kernel)
  have same := unchanged.session
  revert same
  decide +kernel

end System

end SignIn
