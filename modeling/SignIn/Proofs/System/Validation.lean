import SignIn.Proofs.Client
import SignIn.Proofs.System.Calls
import SignIn.Proofs.System.Provenance

/-!
# Checks of a bearer

A check asks once about the bearer that is held when it begins.  When the answer comes
somebody else may be signed in, or nobody, or the same bearer again; only the session of the
bearer that was checked is refreshed or dropped.
-/

namespace SignIn

namespace Controller

/-- The session has been dropped, and its entries with it unless the store refused. -/
structure LoggedOut (before after : Controller) : Prop where
  session : after.session = .anonymous
  watched : after.watched = false
  entries : (before.store.clear.2 = .ok () ∧ ∀ key, after.store.entries.get? key =
      if key ∈ Stored.keys then none else before.store.kept.get? key) ∨
    ∃ error, before.store.clear.2 = .error error ∧ after.store.entries = before.store.entries

theorem loggedOut_logout (controller : Controller) : controller.LoggedOut controller.logout where
  session := rfl
  watched := rfl
  entries := by
    rw [logout_store]
    cases cleared : controller.store.clear with
    | mk store outcome =>
        cases outcome with
        | ok _ =>
            refine .inl ⟨rfl, ?_⟩
            intro key
            rw [Backing.entries_write cleared]
            exact Entries.get?_withoutSession controller.store.kept key
        | error error => exact .inr ⟨error, rfl, Backing.entries_write_error cleared⟩

/-- What a controller makes of a reputation that the server reports for a bearer: whoever is
signed in with another one is left alone, and so is everything if the fresh session cannot be
saved; otherwise it is in memory and in the store, with all but its reputation as it was. -/
inductive Refreshed (before : Controller) (bearer : String) (reputation : Reputation)
    (after : Controller) : Prop where
  | elsewhere (other : before.session.bearer? ≠ some bearer) (same : after = before)
  | missed {current : SignedIn} {error : StoreError}
      (held : before.session = .authenticated current) (mine : current.bearer = bearer)
      (unsaved : (before.store.save { current with reputation }).2 = .error error)
      (unchanged : before.Unchanged after)
  | entered {current : SignedIn} (held : before.session = .authenticated current)
      (mine : current.bearer = bearer)
      (saved : (before.store.save { current with reputation }).2 = .ok ())
      (session : after.session = .authenticated { current with reputation })
      (watched : after.watched = true)
      (holds : after.store.entries.Holds { current with reputation })

/-- What a controller makes of a bearer that the server does not accept. -/
inductive Revoked (before : Controller) (bearer : String) (after : Controller) : Prop where
  | elsewhere (other : before.session.bearer? ≠ some bearer) (same : after = before)
  | dropped (held : before.session.bearer? = some bearer) (out : before.LoggedOut after)

theorem refreshed_refresh (controller : Controller) (bearer : String) (reputation : Reputation) :
    controller.Refreshed bearer reputation (controller.refresh bearer reputation) := by
  rcases controller.refresh_cases bearer reputation with
    ⟨other, same⟩ | ⟨current, held, mine, result⟩
  · exact .elsewhere other same
  · rw [result]
    rcases controller.login_cases { current with reputation } with
      ⟨saved, entered⟩ | ⟨error, unsaved, missed⟩
    · have sound := sound_enter saved
      rw [entered]
      exact .entered held mine saved rfl rfl (sound.holds _ rfl)
    · rw [missed]
      exact .missed held mine unsaved (unchanged_miss unsaved)

end Controller

namespace System

theorem client_run (system : System) (events : List Event) :
    (system.run events).client = system.client := by
  induction events generalizing system with
  | nil => rfl
  | cons event events ih =>
      rw [run_cons, ih (system.step event)]
      exact (change_step system event).client

/-- The request for a check could be built, and its answer accepts the bearer. -/
structure Accepts (request : Option Request) (answer : Answer) (reputation : Reputation) :
    Prop where
  asked : request ≠ none
  reported : ∃ response, answer = .received response ∧ response.status.code = 200 ∧
    response.body.complete = true ∧
    Reputation.decodeReport response.body.octets = .ok reputation

/-- What the check of a bearer with a number does when its request has been answered. -/
inductive ValidationEnds (current : System) (number : Nat) (bearer : String)
    (request : Option Request) (answer : Answer) : Prop where
  | valid {reputation : Reputation} (accepts : Accepts request answer reputation)
      (returned : current.returned? (.endValidation number answer) = some (.validation .valid))
      (refreshed : current.controller.Refreshed bearer reputation
        (current.step (.endValidation number answer)).controller)
  | invalidated (refuses : ∀ reputation, ¬ Accepts request answer reputation)
      (returned : current.returned? (.endValidation number answer) =
        some (.validation .invalidated))
      (revoked : current.controller.Revoked bearer
        (current.step (.endValidation number answer)).controller)

theorem accepts_iff_heard (system : System) (request : Option Request) (answer : Answer)
    (reputation : Reputation) :
    Accepts request answer reputation ↔
      (system.hear request answer).2.reputation = .ok reputation := by
  cases request with
  | none =>
      constructor
      · intro accepts
        exact absurd rfl accepts.asked
      · intro heard
        simp [hear, Answer.reputation] at heard
  | some request =>
      constructor
      · intro accepts
        exact Answer.reputation_eq_ok_iff.mpr accepts.reported
      · intro heard
        exact ⟨by simp, Answer.reputation_eq_ok_iff.mp heard⟩

theorem validationEnds_of_pending {current : System} {number : Nat} {bearer : String}
    (waits : current.pending? (.validation number) = some bearer) (answer : Answer) :
    current.ValidationEnds number bearer (current.client.checkRequest? bearer) answer := by
  have left := current.controller_endValidation waits answer
  have returned : current.returned? (.endValidation number answer) =
      some (.validation (current.controller.finishValidation bearer
        (current.hear (current.client.checkRequest? bearer) answer).2.reputation).2) := by
    simp only [returned?, waits, Option.map_some]
  have heard := current.accepts_iff_heard (current.client.checkRequest? bearer) answer
  cases outcome : (current.hear (current.client.checkRequest? bearer) answer).2.reputation with
  | ok reputation =>
      rw [outcome, Controller.finishValidation] at left returned
      refine .valid ((heard reputation).mpr outcome) returned ?_
      rw [step, left]
      exact current.controller.refreshed_refresh bearer reputation
  | error error =>
      rw [outcome, Controller.finishValidation] at left returned
      refine .invalidated ?_ returned ?_
      · intro reputation accepts
        rw [(heard reputation).mp accepts] at outcome
        contradiction
      · rw [step, left]
        by_cases held : current.controller.session.bearer? = some bearer
        · rw [if_pos held]
          exact .dropped held current.controller.loggedOut_logout
        · rw [if_neg held]
          exact .elsewhere held rfl

theorem journal_hear (system : System) (request : Option Request) (answer : Answer) :
    (system.hear request answer).1.journal =
      system.journal ++ request.toList.map (.answered · answer) := by
  cases request <;> simp [hear]

theorem journal_endValidation {current : System} {number : Nat} {bearer : String}
    (waits : current.pending? (.validation number) = some bearer) (answer : Answer) :
    (current.step (.endValidation number answer)).journal =
      current.journal ++
        (current.client.checkRequest? bearer).toList.map (.answered · answer) := by
  have there : current.validations[number]?.join = some bearer := waits
  show (current.endValidation number answer).journal = _
  unfold endValidation
  rw [there]
  exact journal_hear current _ answer

/-- A check of whoever is signed in acts only on the bearer that it was begun with, whatever
has happened before it ends.  Without a bearer nothing is asked.  Otherwise a request for that
bearer is sent if it can be built, and no other; the bearer is valid exactly if the server
accepts it. -/
theorem validation_acts_on_its_bearer (system : System) {between : List Event} (answer : Answer)
    (waits : ∀ event ∈ between, event.ends (.validation system.validations.length) = false) :
    let begun := system.step .beginValidation
    let returned := system.returned? .beginValidation
    (system.controller.session.bearer? = none ∧ begun = system ∧
        returned = some (.validation .noSession)) ∨
      ∃ bearer request, system.controller.session.bearer? = some bearer ∧ returned = none ∧
        system.client.Builds "GET" "/auth/check" (some bearer) "" request ∧
        begun.controller = system.controller ∧
        begun.journal = system.journal ++ request.toList.map .asked ∧
        let number := system.validations.length
        let current := begun.run between
        (current.step (.endValidation number answer)).journal =
            current.journal ++ request.toList.map (.answered · answer) ∧
          current.ValidationEnds number bearer request answer := by
  intro begun returned
  cases held : system.controller.session.bearer? with
  | none =>
      refine .inl ⟨rfl, ?_, ?_⟩
      · simp only [begun, step, beginValidation, held]
      · simp [returned, returned?, held]
  | some bearer =>
      have built := system.client.builds_call? "GET" "/auth/check" (some bearer) ""
      have began : begun = { system with
          validations := system.validations ++ [some bearer] }.send
            (system.client.checkRequest? bearer) := by
        simp only [begun, step, beginValidation, held]
      have pending : (begun.run between).pending? (.validation system.validations.length) =
          some bearer :=
        pending?_run (system.pending?_beginValidation held) waits
      have client : (begun.run between).client = system.client := by
        rw [client_run, began]
        rfl
      refine .inr ⟨bearer, _, rfl, ?_, built, ?_, ?_, ?_, ?_⟩
      · simp [returned, returned?, held]
      · rw [began]
        rfl
      · rw [began]
        rfl
      · rw [journal_endValidation pending, client]
        rfl
      · have ends := validationEnds_of_pending pending answer
        rw [client] at ends
        exact ends

/-- A login with the bearer that is being checked keeps its own profile; only its reputation
becomes the one that the server reports. -/
theorem validation_after_a_later_login :
    let session := { Controller.sessionOf "token" with reputation := { reputation := 3 } }
    let system := (start (.ofBase "http://localhost") (.memory .empty) {}).run [.login session]
    let number := system.validations.length
    let between := [Event.logout, .login (Controller.sessionOf "token")]
    let current := (system.step .beginValidation).run between
    (∀ event ∈ between, event.ends (.validation number) = false) ∧
      (∃ request, current.ValidationEnds number "token" request (.reportOf 7)) ∧
      (current.step (.endValidation number (.reportOf 7))).controller.session =
        .authenticated { Controller.sessionOf "token" with reputation := { reputation := 7 } } := by
  intro session system number between current
  have waits : ∀ event ∈ between, event.ends (.validation number) = false := by decide
  have held : system.controller.session.bearer? = some "token" := rfl
  refine ⟨waits, ?_, ?_⟩
  · rcases system.validation_acts_on_its_bearer (.reportOf 7) waits with
      ⟨none, _⟩ | ⟨bearer, _, same, _, _, _, _, _, ends⟩
    · rw [held] at none
      contradiction
    · obtain rfl : "token" = bearer := Option.some.inj (held.symm.trans same)
      exact ⟨_, ends⟩
  · decide +kernel

end System

end SignIn
