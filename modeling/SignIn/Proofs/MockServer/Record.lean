import SignIn.Proofs.MockServer.History

/-!
# What a history comes to

Not every event does something: a ticket that was never issued cannot be redeemed, nor can any
with a token that is no bearer at that moment, and a question redeems a ticket only if the
ticket is due and nothing has become of it.  The record of a history is the list of what its
events have done, each in the light of what was done before.  It is told without a server; that
a server is as its record says is preserved by every event.
-/

namespace SignIn

namespace MockServer

/-- What has become of a ticket. -/
inductive Standing where
  | pending
  | redeemed (token : String) (account : MockAccount)
  | failed (message : String)

/-- What an event may do. -/
inductive Deed where
  | limited (polls : Nat)
  | checking (status : Option Status)
  | issued (ticket : String)
  | asked (ticket : String)
  | settled (ticket : String) (standing : Standing)
  | registered (token : String) (account : MockAccount)
  | revoked (token : String)
  | rated (token : String) (reputation : UInt32) (reputationData : Json.Value)

namespace Deed

def limit? : Deed → Option Nat
  | limited polls => some polls
  | _ => none

def check? : Deed → Option (Option Status)
  | checking status => some status
  | _ => none

def standing? (ticket : String) : Deed → Option Standing
  | issued other => if other = ticket then some .pending else none
  | settled other standing => if other = ticket then some standing else none
  | _ => none

/-- A token is revoked by a deed after which nobody holds it. -/
def holder? (token : String) : Deed → Option (Option MockAccount)
  | registered other account => if other = token then some (some account) else none
  | revoked other => if other = token then some none else none
  | _ => none

def rating? (token : String) : Deed → Option (UInt32 × Json.Value)
  | registered other account =>
    if other = token then some (account.reputation, account.reputationData) else none
  | rated other reputation reputationData =>
    if other = token then some (reputation, reputationData) else none
  | _ => none

/-- How many questions about a ticket there were, counted anew when it is issued. -/
def count (ticket : String) (polls : Nat) : Deed → Nat
  | issued other => if other = ticket then 0 else polls
  | asked other => if other = ticket then polls + 1 else polls
  | _ => polls

end Deed

/-- What the latest of the deeds that tell something tells. -/
def latest? {α : Type} (tells : Deed → Option α) (past : List Deed) : Option α :=
  (past.filterMap tells).getLast?

def limit? (past : List Deed) : Option Nat :=
  latest? Deed.limit? past

/-- The status with which every check of a bearer is answered, if there is one. -/
def check? (past : List Deed) : Option Status :=
  (latest? Deed.check? past).join

/-- What has become of a ticket since it was issued last, if it ever was. -/
def standing? (past : List Deed) (ticket : String) : Option Standing :=
  latest? (Deed.standing? ticket) past

/-- The account for which a token was registered last, unless the token was revoked since. -/
def holder? (past : List Deed) (token : String) : Option MockAccount :=
  (latest? (Deed.holder? token) past).join

/-- The reputation that was given last to the account behind a token. -/
def rating? (past : List Deed) (token : String) : Option (UInt32 × Json.Value) :=
  latest? (Deed.rating? token) past

/-- How often a ticket has been asked about since it was issued last. -/
def polls (past : List Deed) (ticket : String) : Nat :=
  past.foldl (Deed.count ticket) 0

/-- Whether the next question about a ticket is one with which tickets redeem themselves. -/
def isDue (past : List Deed) (ticket : String) : Bool :=
  (limit? past).any (· ≤ polls past ticket + 1)

def fixtureUser : MockAccount :=
  .sample 1000 "fixture-user"

def fixtureToken (ticket : String) : String :=
  "fixture-token-" ++ ticket

/-- What a question about a ticket does. -/
def asking (past : List Deed) (ticket : String) : List Deed :=
  match standing? past ticket with
  | none => []
  | some .pending =>
    if isDue past ticket then
      [.asked ticket, .settled ticket (.redeemed (fixtureToken ticket) fixtureUser)] ++
        if (holder? past (fixtureToken ticket)).isNone then
          [.registered (fixtureToken ticket) fixtureUser]
        else []
    else [.asked ticket]
  | some _ => [.asked ticket]

/-- What it does to settle a ticket, which must have been issued. -/
def settling (past : List Deed) (ticket : String) (standing : Standing) : List Deed :=
  if (standing? past ticket).isSome then [.settled ticket standing] else []

/-- What an event does after what was done before. -/
def deeds (past : List Deed) : Event → List Deed
  | .redeemAfter polls => [.limited polls]
  | .call (.setCheckStatus code) => [.checking (Status.ofNat? code)]
  | .call (.register token account) => [.registered token account]
  | .call (.revoke token) => [.revoked token]
  | .call (.setReputation token reputation reputationData) =>
    if (holder? past token).isSome then [.rated token reputation reputationData] else []
  | .call (.redeem ticket token) =>
    match holder? past token with
    | some account => settling past ticket (.redeemed token account)
    | none => []
  | .call (.redeemUnregistered ticket token account) =>
    settling past ticket (.redeemed token account)
  | .call (.failTicket ticket message) => settling past ticket (.failed message)
  | .call _ => []
  | .request freshId method path _ =>
    if resource? method path = some .newTicket then [.issued freshId]
    else
      match asked? method path with
      | some ticket => asking past ticket
      | none => []

/-- What the events of a history have done. -/
def record (events : List Event) : List Deed :=
  events.foldl (fun past event => past ++ deeds past event) []

@[simp]
theorem record_concat (events : List Event) (event : Event) :
    record (events ++ [event]) = record events ++ deeds (record events) event := by
  simp [record]

section Append

variable {α : Type} (past more : List Deed) (name : String)

theorem latest?_append (tells : Deed → Option α) :
    latest? tells (past ++ more) = (latest? tells more).or (latest? tells past) := by
  rw [latest?, List.filterMap_append, List.getLast?_append]
  rfl

theorem standing?_append :
    standing? (past ++ more) name = (standing? more name).or (standing? past name) :=
  latest?_append past more _

theorem rating?_append :
    rating? (past ++ more) name = (rating? more name).or (rating? past name) :=
  latest?_append past more _

theorem polls_append :
    polls (past ++ more) name = more.foldl (Deed.count name) (polls past name) :=
  List.foldl_append

end Append

/-- What is held of a token after some deeds: the account that it was registered for, with the
reputation that was given last and any users muted. -/
inductive Holds (past : List Deed) (token : String) : Option MockAccount → Prop where
  | nobody (unheld : holder? past token = none) : Holds past token none
  | account {account : MockAccount} {reputation : UInt32} {reputationData : Json.Value}
      (held : holder? past token = some account)
      (rated : rating? past token = some (reputation, reputationData))
      (mutedUsers : List String) :
      Holds past token (some { account with reputation, reputationData, mutedUsers })

def Standing.status : Standing → TicketStatus
  | pending => .pending
  | redeemed token account => .redeemed token account.profileValue
  | failed message => .failed message

@[simp]
theorem Standing.status_eq_pending_iff (standing : Standing) :
    standing.status = .pending ↔ standing = .pending := by
  cases standing <;> simp [status]

def heldTicket? (past : List Deed) (ticket : String) : Option IssuedTicket :=
  (standing? past ticket).map fun standing => ⟨polls past ticket, standing.status⟩

section Held

variable {past : List Deed} {ticket : String}

@[simp]
theorem heldTicket?_issued :
    heldTicket? (past ++ [.issued ticket]) ticket = some {} := by
  simp [heldTicket?, polls_append, standing?, latest?, Deed.standing?, Deed.count,
    Standing.status]

@[simp]
theorem heldTicket?_asked :
    heldTicket? (past ++ [.asked ticket]) ticket =
      (heldTicket? past ticket).map fun held => { held with polls := held.polls + 1 } := by
  rw [heldTicket?, standing?_append, polls_append, heldTicket?, Option.map_map]
  simp [standing?, latest?, Deed.standing?, Deed.count, Function.comp_def]

@[simp]
theorem heldTicket?_settled (standing : Standing) :
    heldTicket? (past ++ [.settled ticket standing]) ticket =
      some ⟨polls past ticket, standing.status⟩ := by
  simp [heldTicket?, polls_append, standing?, latest?, Deed.standing?, Deed.count]

def Deed.ticket? : Deed → Option String
  | issued ticket | asked ticket | settled ticket _ => some ticket
  | _ => none

def Deed.token? : Deed → Option String
  | registered token _ | revoked token | rated token _ _ => some token
  | _ => none

variable {deed : Deed} {token : String} {held : Option MockAccount}

theorem heldTicket?_of_other (other : deed.ticket? ≠ some ticket) :
    heldTicket? (past ++ [deed]) ticket = heldTicket? past ticket := by
  rw [heldTicket?, standing?_append, polls_append]
  cases deed with
  | issued | asked | settled =>
      have apart : _ ≠ ticket := fun same => other (congrArg some same)
      simp [standing?, latest?, Deed.standing?, Deed.count, apart, heldTicket?]
  | _ => rfl

theorem holder?_of_other (other : deed.token? ≠ some token) :
    holder? (past ++ [deed]) token = holder? past token := by
  rw [holder?, latest?_append]
  cases deed with
  | registered | revoked =>
      have apart : _ ≠ token := fun same => other (congrArg some same)
      simp [holder?, latest?, Deed.holder?, apart]
  | _ => rfl

theorem rating?_of_other (other : deed.token? ≠ some token) :
    rating? (past ++ [deed]) token = rating? past token := by
  rw [rating?_append]
  cases deed with
  | registered | rated =>
      have apart : _ ≠ token := fun same => other (congrArg some same)
      simp [rating?, latest?, Deed.rating?, apart]
  | _ => rfl

theorem settings_of_other (other : deed.ticket? ≠ none ∨ deed.token? ≠ none) :
    (limit? (past ++ [deed]), check? (past ++ [deed])) = (limit? past, check? past) := by
  cases deed with
  | limited | checking => simp [Deed.ticket?, Deed.token?] at other
  | _ => simp [limit?, check?, latest?, Deed.limit?, Deed.check?]

theorem Holds.of_other (holds : Holds past token held) (other : deed.token? ≠ some token) :
    Holds (past ++ [deed]) token held := by
  cases holds with
  | nobody unheld => exact .nobody ((holder?_of_other other).trans unheld)
  | account held rated muted =>
      exact .account ((holder?_of_other other).trans held)
        ((rating?_of_other other).trans rated) muted

theorem Holds.registered (account : MockAccount) :
    Holds (past ++ [.registered token account]) token (some account) :=
  .account (by simp [holder?, latest?, Deed.holder?]) (by simp [rating?, latest?, Deed.rating?])
    account.mutedUsers

theorem Holds.revoked : Holds (past ++ [.revoked token]) token none :=
  .nobody (by simp [holder?, latest?, Deed.holder?])

theorem Holds.isSome_eq (holds : Holds past token held) :
    held.isSome = (holder? past token).isSome := by
  cases holds with
  | nobody unheld => rw [unheld]
  | account held => rw [held, Option.isSome_some, Option.isSome_some]

theorem Holds.eq_none_of_unheld (holds : Holds past token held)
    (unheld : holder? past token = none) : held = none := by
  rw [← Option.not_isSome_iff_eq_none, holds.isSome_eq, unheld]
  simp

theorem Holds.rated {account : MockAccount} (holds : Holds past token (some account))
    (reputation : UInt32) (reputationData : Json.Value) :
    Holds (past ++ [.rated token reputation reputationData]) token
      (some { account with reputation, reputationData }) := by
  cases holds with
  | @account first _ _ held _ muted =>
      have still : holder? (past ++ [.rated token reputation reputationData]) token =
          some first := by
        simpa [holder?, latest?, Deed.holder?] using held
      have now : rating? (past ++ [.rated token reputation reputationData]) token =
          some (reputation, reputationData) := by
        simp [rating?, latest?, Deed.rating?]
      exact .account still now muted

end Held

/-- What is set for all tickets and all checks. -/
def settings (server : MockServer) : Option Nat × Option Status :=
  (server.autoRedeemAfter, server.checkStatus)

/-- A server is as some deeds say. -/
structure Follows (server : MockServer) (past : List Deed) : Prop where
  settings : server.settings = (limit? past, check? past)
  tickets : ∀ ticket, server.tickets.get? ticket = heldTicket? past ticket
  accounts : ∀ token, Holds past token (server.accounts.get? token)

namespace Follows

variable {server after : MockServer} {past : List Deed} {deed : Deed}

theorem of_setting (follows : Follows server past) (unticketed : deed.ticket? = none)
    (unnamed : deed.token? = none) (tickets : after.tickets = server.tickets)
    (accounts : after.accounts = server.accounts)
    (settings : after.settings = (limit? (past ++ [deed]), check? (past ++ [deed]))) :
    Follows after (past ++ [deed]) where
  settings := settings
  tickets ticket := by
    rw [tickets, follows.tickets, heldTicket?_of_other (by simp [unticketed])]
  accounts token := by
    rw [accounts]
    exact (follows.accounts token).of_other (by simp [unnamed])

/-- A deed about an account leaves the tickets as they are. -/
theorem of_token {token : String} (follows : Follows server past)
    (about : deed.token? = some token) (settings : after.settings = server.settings)
    (tickets : after.tickets = server.tickets)
    (others : ∀ other, other ≠ token → after.accounts.get? other = server.accounts.get? other)
    (account : Holds (past ++ [deed]) token (after.accounts.get? token)) :
    Follows after (past ++ [deed]) where
  settings := by
    rw [settings, follows.settings, settings_of_other (.inr (by simp [about]))]
  tickets ticket := by
    have apart : deed.ticket? ≠ some ticket := by
      cases deed with
      | issued | asked | settled => contradiction
      | _ => simp [Deed.ticket?]
    rw [tickets, follows.tickets, heldTicket?_of_other apart]
  accounts other := by
    by_cases same : other = token
    · rw [same]
      exact account
    · rw [others other same]
      exact (follows.accounts other).of_other (by simp [about, Ne.symm same])

theorem of_ticket {ticket : String} (follows : Follows server past)
    (about : deed.ticket? = some ticket)
    (settings : after.settings = server.settings)
    (accounts : after.accounts = server.accounts)
    (others : ∀ other, other ≠ ticket → after.tickets.get? other = server.tickets.get? other)
    (held : after.tickets.get? ticket = heldTicket? (past ++ [deed]) ticket) :
    Follows after (past ++ [deed]) where
  settings := by
    rw [settings, follows.settings, settings_of_other (.inl (by simp [about]))]
  tickets other := by
    by_cases same : other = ticket
    · rw [same, held]
    · rw [others other same, follows.tickets,
        heldTicket?_of_other (by simp [about, Ne.symm same])]
  accounts token := by
    have apart : deed.token? ≠ some token := by
      cases deed with
      | registered | revoked | rated => contradiction
      | _ => simp [Deed.token?]
    rw [accounts]
    exact (follows.accounts token).of_other apart

theorem register (follows : Follows server past) (token : String) (account : MockAccount) :
    Follows (server.register token account) (past ++ [.registered token account]) := by
  refine follows.of_token rfl rfl rfl (fun other apart => ?_) ?_
  · exact Dictionary.get?_insert_of_ne _ _ apart
  · show Holds _ _ ((server.accounts.insert token account).get? token)
    rw [Dictionary.get?_insert_same]
    exact .registered account

theorem revoke (follows : Follows server past) (token : String) :
    Follows (server.revoke token) (past ++ [.revoked token]) := by
  refine follows.of_token rfl rfl rfl (fun other apart => ?_) ?_
  · exact Dictionary.get?_erase_of_ne _ apart
  · show Holds _ _ ((server.accounts.erase token).get? token)
    rw [Dictionary.get?_erase_same]
    exact .revoked

theorem setReputation (follows : Follows server past) (token : String) (reputation : UInt32)
    (reputationData : Json.Value) :
    Follows (server.setReputation token reputation reputationData)
      (past ++ if (holder? past token).isSome then [.rated token reputation reputationData]
        else []) := by
  have holds := follows.accounts token
  rw [← holds.isSome_eq]
  cases there : server.accounts.get? token with
  | none => simpa [MockServer.setReputation, changeAccount, there] using follows
  | some account =>
      rw [there] at holds
      have set : server.setReputation token reputation reputationData =
          server.register token { account with reputation, reputationData } := by
        simp [MockServer.setReputation, changeAccount, there]
      rw [set]
      refine follows.of_token rfl rfl rfl (fun other apart => ?_) ?_
      · exact Dictionary.get?_insert_of_ne _ _ apart
      · show Holds _ _ ((server.accounts.insert token _).get? token)
        rw [Dictionary.get?_insert_same]
        exact holds.rated reputation reputationData

/-- Whom the account behind a token mutes is nowhere told. -/
theorem changeAccount (follows : Follows server past) (token : String)
    (change : List String → List String) :
    Follows (server.changeAccount token fun account =>
      { account with mutedUsers := change account.mutedUsers }) past where
  settings := by
    rw [← follows.settings]
    unfold MockServer.changeAccount
    split <;> rfl
  tickets ticket := by
    rw [tickets_changeAccount]
    exact follows.tickets ticket
  accounts other := by
    have holds := follows.accounts other
    rw [get?_changeAccount]
    split
    · generalize server.accounts.get? other = account at holds
      cases holds with
      | nobody unheld => exact .nobody unheld
      | account held rated muted => exact .account held rated (change muted)
    · exact holds

theorem settle (follows : Follows server past) (ticket : String) (standing : Standing) :
    Follows (server.changeTicket ticket standing.status)
      (past ++ settling past ticket standing) := by
  have tickets := follows.tickets ticket
  rw [settling]
  cases told : standing? past ticket with
  | none =>
      have missing : server.tickets.get? ticket = none := by simp [tickets, heldTicket?, told]
      simpa [changeTicket, missing] using follows
  | some before =>
      refine follows.of_ticket rfl ?_ (accounts_changeTicket server ticket _) ?_ ?_
      · unfold changeTicket
        split <;> rfl
      · intro other apart
        rw [get?_changeTicket, if_neg (Ne.symm apart)]
      · rw [get?_changeTicket, if_pos rfl, tickets, heldTicket?, told, heldTicket?_settled]
        rfl

theorem redeem (follows : Follows server past) (ticket token : String) :
    Follows (server.redeem ticket token) (past ++ deeds past (.call (.redeem ticket token))) := by
  have holds := follows.accounts token
  unfold MockServer.redeem deeds
  generalize server.accounts.get? token = account at holds
  cases holds with
  | nobody unheld => simpa [unheld] using follows
  | @account first reputation data held rated muted =>
      simp only [held]
      exact follows.settle ticket (.redeemed token first)

theorem issue (follows : Follows server past) (ticket : String) :
    Follows (server.issue ticket).1 (past ++ [.issued ticket]) := by
  refine follows.of_ticket rfl rfl rfl (fun other apart => ?_) ?_
  · exact Dictionary.get?_insert_of_ne _ _ apart
  · rw [heldTicket?_issued]
    exact Dictionary.get?_insert_same _ _ _

theorem ask (follows : Follows server past) {ticket : String} {held : IssuedTicket}
    (there : server.tickets.get? ticket = some held) :
    Follows { server with
        tickets := server.tickets.insert ticket { held with polls := held.polls + 1 } }
      (past ++ [.asked ticket]) := by
  refine follows.of_ticket rfl rfl rfl (fun other apart => ?_) ?_
  · exact Dictionary.get?_insert_of_ne _ _ apart
  · rw [heldTicket?_asked, ← follows.tickets, there]
    exact Dictionary.get?_insert_same _ _ _

/-- A ticket redeems itself if it is pending and due. -/
theorem redeemsItself_iff (follows : Follows server past) (ticket : String) :
    server.RedeemsItself ticket ↔
      standing? past ticket = some .pending ∧ isDue past ticket = true := by
  have limit : server.autoRedeemAfter = limit? past := congrArg Prod.fst follows.settings
  simp only [RedeemsItself, follows.tickets, limit, heldTicket?, isDue,
    Option.map_eq_some_iff, IssuedTicket.mk.injEq, Standing.status_eq_pending_iff,
    Option.any_eq_true, decide_eq_true_eq]
  constructor
  · rintro ⟨_, threshold, ⟨_, told, rfl, rfl⟩, limit, reached⟩
    exact ⟨told, threshold, limit, reached⟩
  · rintro ⟨told, threshold, limit, reached⟩
    exact ⟨_, threshold, ⟨_, told, rfl, rfl⟩, limit, reached⟩

theorem enroll (follows : Follows server past) (token : String) (account : MockAccount) :
    Follows (server.enroll token account)
      (past ++ if (holder? past token).isNone then [.registered token account] else []) := by
  have known := (follows.accounts token).isSome_eq
  rw [MockServer.enroll, known]
  cases held : holder? past token with
  | none => simpa using follows.register token account
  | some holder => simpa using follows

theorem asking_of_still {ticket : String} {standing : Standing}
    (told : standing? past ticket = some standing)
    (still : ¬ (standing? past ticket = some .pending ∧ isDue past ticket = true)) :
    asking past ticket = [.asked ticket] := by
  cases standing <;> simp_all [asking]

/-- A ticket that is pending and due has been asked about and redeemed, and its token is
registered unless it is already. -/
theorem redeemItself {ticket : String} (follows : Follows server past)
    (pending : standing? past ticket = some .pending) (due : isDue past ticket = true)
    (there : server.tickets.get? ticket = some ⟨polls past ticket, .pending⟩) :
    Follows
      (({ server with
          tickets := server.tickets.insert ticket ⟨polls past ticket + 1, autoStatus ticket⟩
        } : MockServer).enroll (autoToken ticket) autoAccount)
      (past ++ asking past ticket) := by
  have settled : Follows
      { server with
        tickets := server.tickets.insert ticket ⟨polls past ticket + 1, autoStatus ticket⟩ }
      (past ++ [.asked ticket] ++
        [.settled ticket (.redeemed (fixtureToken ticket) fixtureUser)]) := by
    refine (follows.ask there).of_ticket rfl rfl rfl (fun other apart => ?_) ?_
    · rw [Dictionary.get?_insert_of_ne _ _ apart, Dictionary.get?_insert_of_ne _ _ apart]
    · rw [heldTicket?_settled, polls_append, Dictionary.get?_insert_same]
      simp only [List.foldl_cons, List.foldl_nil, Deed.count, if_true]
      rfl
  have enrolled := settled.enroll (fixtureToken ticket) fixtureUser
  rw [holder?_of_other (by simp [Deed.token?]), holder?_of_other (by simp [Deed.token?])]
    at enrolled
  have done : asking past ticket =
      [.asked ticket, .settled ticket (.redeemed (fixtureToken ticket) fixtureUser)] ++
        if (holder? past (fixtureToken ticket)).isNone then
          [.registered (fixtureToken ticket) fixtureUser]
        else [] := by
    simp only [asking, pending, due, if_true]
  rw [done, ← List.append_assoc, List.append_cons past]
  exact enrolled

theorem poll (follows : Follows server past) (ticket : String) :
    Follows (server.poll ticket).1 (past ++ asking past ticket) := by
  have tickets := follows.tickets ticket
  have itself_iff := follows.redeemsItself_iff ticket
  have polled := polled_poll server ticket
  generalize server.poll ticket = answered at polled
  cases polled with
  | unknown absent =>
      have unissued : standing? past ticket = none := by
        simpa [heldTicket?, absent] using tickets.symm
      simpa [asking, unissued] using follows
  | told there still =>
      rw [there] at tickets
      obtain ⟨standing, told, _⟩ := Option.map_eq_some_iff.mp tickets.symm
      rw [asking_of_still told (mt itself_iff.mpr still)]
      exact follows.ask there
  | redeemed there itself =>
      obtain ⟨pending, due⟩ := itself_iff.mp itself
      rw [there, heldTicket?, pending] at tickets
      obtain ⟨rfl, _⟩ := IssuedTicket.mk.inj (Option.some.inj tickets)
      exact follows.redeemItself pending due there

end Follows

section Record

variable {server after : MockServer} {past : List Deed} {events : List Event}

theorem Follows.play (follows : Follows server past) (call : Stage.ServerStep) :
    Follows (call.play server).1 (past ++ deeds past (.call call)) := by
  cases call with
  | register token account => exact follows.register token account
  | revoke token => exact follows.revoke token
  | setReputation token reputation data => exact follows.setReputation token reputation data
  | redeem ticket token => exact follows.redeem ticket token
  | redeemUnregistered ticket token account => exact follows.settle ticket (.redeemed token account)
  | failTicket ticket message => exact follows.settle ticket (.failed message)
  | setCheckStatus code =>
      have limit : server.autoRedeemAfter = limit? past := congrArg Prod.fst follows.settings
      refine follows.of_setting rfl rfl rfl rfl ?_
      simp [MockServer.settings, Stage.ServerStep.play, MockServer.setCheckStatus, limit, limit?,
        check?, latest?, Deed.limit?, Deed.check?]
  | mute token username =>
      show Follows _ (past ++ [])
      rw [List.append_nil]
      exact follows.changeAccount token (· ++ [username])
  | _ =>
      show Follows _ (past ++ [])
      rw [List.append_nil]
      exact follows

theorem Follows.served {freshId method path : String} {authorization : Option Octets}
    (follows : Follows server past)
    (served : Served server freshId method path authorization after) :
    Follows after (past ++ deeds past (.request freshId method path authorization)) := by
  cases served with
  | issued issues =>
      rw [deeds, if_pos issues]
      exact follows.issue freshId
  | @polled ticket asks =>
      rw [deeds, if_neg (resource?_ne_of_asked asks), asks]
      exact follows.poll ticket
  | @unmuted _ username token found =>
      have nothing : deeds past (.request freshId method path authorization) = [] := by
        simp [deeds, asked?, found]
      rw [nothing, List.append_nil]
      exact follows.changeAccount token (·.filter (· != username))
  | unmoved unissued unasked =>
      rw [deeds, if_neg unissued, unasked, List.append_nil]
      exact follows

/-- A server that is as some deeds say is so after one more event. -/
theorem follows_step (follows : Follows server past) (event : Event) :
    Follows (server.step event) (past ++ deeds past event) := by
  cases event with
  | redeemAfter polls =>
      have checks : server.checkStatus = check? past := congrArg Prod.snd follows.settings
      refine follows.of_setting rfl rfl rfl rfl ?_
      simp [settings, step, checks, limit?, check?, latest?, Deed.limit?, Deed.check?]
  | call call => exact follows.play call
  | request freshId method path authorization =>
      exact follows.served (served_step server freshId method path authorization)

/-- A server is as the record of its history says. -/
theorem follows_ofEvents (events : List Event) : Follows (ofEvents events) (record events) := by
  induction events using List.reverseRecOn with
  | nil => exact ⟨rfl, fun ticket => rfl, fun token => .nobody rfl⟩
  | append_singleton events event ih =>
      rw [ofEvents_concat, record_concat]
      exact follows_step ih event

end Record

end MockServer

end SignIn
