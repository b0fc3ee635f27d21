import SignIn.Proofs.MockServer.Record
import SignIn.Proofs.MockServer.Replies
import SignIn.Proofs.MockServer.Requests

/-!
# How a mock server answers for its tickets

Everything that a mock server says of a ticket is decided by its history: whether the ticket
was issued, how often it has been asked about since, and what has become of it.  Both requests
to read a ticket and requests for the head of such a reply ask about it.
-/

namespace SignIn

open Url

namespace MockServer

def Event.threshold? : Event → Option Nat
  | redeemAfter polls => some polls
  | _ => none

def Issued (events : List Event) (id : String) : Prop :=
  ∃ event ∈ events, event.issues? = some id

/-- The number of questions after which a ticket redeems itself, as it was decided last. -/
def threshold? (events : List Event) : Option Nat :=
  (events.filterMap Event.threshold?).getLast?

theorem issued_concat_iff {events : List Event} {event : Event} {id : String} :
    Issued (events ++ [event]) id ↔ Issued events id ∨ event.issues? = some id := by
  simp [Issued, or_and_right, exists_or]

/-- How many tickets were issued, which was the last, and when tickets redeem themselves. -/
def counts (server : MockServer) : Nat × Option String × Option Nat :=
  (server.issued, server.lastTicket, server.autoRedeemAfter)

section Counts

variable (server : MockServer)

@[simp]
theorem counts_changeTicket (ticket : String) (status : TicketStatus) :
    (server.changeTicket ticket status).counts = server.counts := by
  unfold changeTicket
  split <;> rfl

@[simp]
theorem counts_changeAccount (token : String) (change : MockAccount → MockAccount) :
    (server.changeAccount token change).counts = server.counts := by
  unfold changeAccount
  split <;> rfl

@[simp]
theorem counts_poll (id : String) : (server.poll id).1.counts = server.counts := by
  have polled := polled_poll server id
  generalize server.poll id = answered at polled
  cases polled with
  | unknown | told => rfl
  | redeemed =>
      unfold enroll
      split <;> rfl

theorem counts_step (event : Event) :
    (server.step event).counts =
      (server.counts.1 + event.issues?.toList.length, event.issues?.or server.counts.2.1,
        event.threshold?.or server.counts.2.2) := by
  cases event with
  | redeemAfter polls => rfl
  | call call =>
      show (call.play server).1.counts = server.counts
      cases call with
      | redeem ticket token =>
          show (server.redeem ticket token).counts = server.counts
          unfold redeem
          split <;> simp
      | redeemUnregistered | failTicket => exact counts_changeTicket server _ _
      | setReputation | mute => exact counts_changeAccount server _ _
      | _ => rfl
  | request freshId method path authorization =>
      have served := served_step server freshId method path authorization
      generalize server.step (.request freshId method path authorization) = after at served
      cases served with
      | issued issues => simp [Event.issues?, Event.threshold?, issues, issue, counts]
      | polled asks =>
          have issues : (Event.request freshId method path authorization).issues? = none :=
            Event.issues?_of_asks asks
          simp [issues, Event.threshold?]
      | unmuted found carried => simp [Event.issues?, Event.threshold?, found]
      | unmoved unissued unasked => simp [Event.issues?, Event.threshold?, unissued]

theorem counts_ofEvents (events : List Event) :
    (ofEvents events).counts =
      ((events.filterMap Event.issues?).length, (events.filterMap Event.issues?).getLast?,
        threshold? events) := by
  induction events using List.reverseRecOn with
  | nil => rfl
  | append_singleton events event ih =>
      rw [ofEvents_concat, counts_step, ih, threshold?, threshold?]
      cases issues : event.issues? <;> simp [List.getLast?_append, issues]

end Counts

section Polls

variable {server : MockServer} {events later : List Event} {issuing : Event} {id : String}

theorem polls_changeTicket (ticket : String) (status : TicketStatus) :
    ((server.changeTicket ticket status).tickets.get? id).map IssuedTicket.polls =
      (server.tickets.get? id).map IssuedTicket.polls := by
  rw [get?_changeTicket]
  split
  · rw [Option.map_map]
    rfl
  · rfl

theorem polls_poll (ticket : String) :
    ((server.poll ticket).1.tickets.get? id).map IssuedTicket.polls =
      (server.tickets.get? id).map fun held =>
        held.polls + if ticket = id then 1 else 0 := by
  have polled := polled_poll server ticket
  generalize server.poll ticket = answered at polled
  by_cases same : ticket = id
  · subst same
    cases polled with
    | unknown absent => simp [absent]
    | redeemed there => simp [there]
    | told there => simp [there]
  · cases polled with
    | unknown absent => simp [same]
    | redeemed there => simp [same, Dictionary.get?_insert_of_ne _ _ (Ne.symm same)]
    | told there => simp [same, Dictionary.get?_insert_of_ne _ _ (Ne.symm same)]

theorem polls_play (server : MockServer) (call : Stage.ServerStep) (id : String) :
    ((call.play server).1.tickets.get? id).map IssuedTicket.polls =
      (server.tickets.get? id).map IssuedTicket.polls := by
  cases call with
  | redeem ticket token =>
      show ((server.redeem ticket token).tickets.get? id).map _ = _
      unfold redeem
      split
      · exact polls_changeTicket _ _
      · rfl
  | redeemUnregistered | failTicket => exact polls_changeTicket _ _
  | setReputation token reputation data =>
      show ((server.changeAccount token _).tickets.get? id).map _ = _
      rw [tickets_changeAccount]
  | mute token username =>
      show ((server.changeAccount token _).tickets.get? id).map _ = _
      rw [tickets_changeAccount]
  | _ => rfl

/-- A ticket is counted from the event that issues it, and then with each question. -/
theorem polls_step (server : MockServer) (event : Event) (id : String) :
    ((server.step event).tickets.get? id).map IssuedTicket.polls =
      if event.issues? = some id then some 0
      else (server.tickets.get? id).map fun held =>
        held.polls + if event.asks? = some id then 1 else 0 := by
  cases event with
  | redeemAfter polls => rfl
  | call call => exact polls_play server call id
  | request freshId method path authorization =>
      have served := served_step server freshId method path authorization
      generalize server.step (.request freshId method path authorization) = after at served
      cases served with
      | issued issues =>
          by_cases same : freshId = id
          · subst same
            simp [issue, Event.issues?, issues]
          · have unasked : asked? method path ≠ some id := by simp [asked?, issues]
            simp [issue, Event.issues?, Event.asks?, issues, same, unasked,
              Dictionary.get?_insert_of_ne _ _ (Ne.symm same)]
      | @polled ticket asks =>
          have unissuing : (Event.request freshId method path authorization).issues? = none :=
            Event.issues?_of_asks asks
          rw [polls_poll]
          simp [unissuing, Event.asks?, asks]
      | unmuted found => simp [Event.issues?, Event.asks?, asked?, found]
      | unmoved unissued unasked => simp [Event.issues?, Event.asks?, unissued, unasked]

/-- What was never issued is not there. -/
theorem isSome_get?_ofEvents_iff :
    ((ofEvents events).tickets.get? id).isSome ↔ Issued events id := by
  induction events using List.reverseRecOn with
  | nil => simp [ofEvents, run, Issued, Dictionary.get?_empty]
  | append_singleton events event ih =>
      rw [ofEvents_concat, issued_concat_iff, ← ih, ← Option.isSome_map (f := IssuedTicket.polls),
        polls_step]
      by_cases issues : event.issues? = some id
      · simp [issues]
      · simp [issues]

/-- With each question since a ticket was issued last, it is counted once. -/
theorem polls_run_of_issuing (server : MockServer) (issues : issuing.issues? = some id)
    (once : ∀ event ∈ later, event.issues? ≠ some id) :
    ((server.run (issuing :: later)).tickets.get? id).map IssuedTicket.polls =
      some (later.countP (·.asks? == some id)) := by
  induction later using List.reverseRecOn with
  | nil => exact (polls_step server issuing id).trans (if_pos issues)
  | append_singleton later event ih =>
      obtain ⟨before, last⟩ := List.forall_mem_append.mp once
      obtain ⟨held, there, counted⟩ := Option.map_eq_some_iff.mp (ih before)
      have unissuing : event.issues? ≠ some id := last event (List.mem_singleton_self event)
      rw [← List.cons_append, run, List.foldl_append]
      show (((server.run (issuing :: later)).step event).tickets.get? id).map _ = _
      rw [polls_step, if_neg unissuing, there, List.countP_append, List.countP_singleton, ← counted]
      simp

end Polls

/-- A reply that hands over a token and the profile of an account, and is read so. -/
structure HandsOver (token : String) (account : MockAccount) (reply : Reply) : Prop where
  told : reply = {
    status := .ok
    contentType := some "application/json"
    body := (Json.Value.object [
      ("authToken", .text token),
      ("profile", account.profileValue)]).print }
  read : Redemption.decode (Utf8.encode reply.body) = .ok ⟨token, account.profile⟩

/-- What a question about a ticket is answered after some deeds. -/
inductive TicketAnswer (past : List Deed) (id : String) : Reply → Prop where
  | unknown (unissued : standing? past id = none) :
      TicketAnswer past id {
        status := .notFound
        contentType := some "text/plain; charset=utf-8"
        body := "authentication id not found\n" }
  | pending (pending : standing? past id = some .pending) (early : isDue past id = false) :
      TicketAnswer past id { status := .noContent }
  | itself {reply : Reply} (pending : standing? past id = some .pending)
      (due : isDue past id = true)
      (hands : HandsOver (fixtureToken id) fixtureUser reply) : TicketAnswer past id reply
  | redeemed {reply : Reply} {token : String} {account : MockAccount}
      (redeemed : standing? past id = some (.redeemed token account))
      (hands : HandsOver token account reply) : TicketAnswer past id reply
  | failed {message : String} (failed : standing? past id = some (.failed message)) :
      TicketAnswer past id {
        status := .serverError
        contentType := some "text/plain; charset=utf-8"
        body := message }

section Answers

variable {server : MockServer} {past : List Deed} {events : List Event} {id : String}

theorem handsOver_statusReply (token : String) (account : MockAccount) :
    HandsOver token account (statusReply (.redeemed token account.profileValue)) :=
  ⟨rfl, MockAccount.decode_redeemed token account⟩

theorem Follows.answers (follows : Follows server past) (id : String) :
    TicketAnswer past id (server.poll id).2 := by
  have itself_iff := follows.redeemsItself_iff id
  have tickets := follows.tickets id
  have polled := polled_poll server id
  generalize server.poll id = answered at polled
  cases polled with
  | unknown absent =>
      rw [absent] at tickets
      exact .unknown (Option.map_eq_none_iff.mp tickets.symm)
  | redeemed there itself =>
      obtain ⟨pending, due⟩ := itself_iff.mp itself
      exact .itself pending due (handsOver_statusReply _ _)
  | told there still =>
      rw [there] at tickets
      obtain ⟨standing, stands, rfl⟩ := Option.map_eq_some_iff.mp tickets.symm
      cases standing with
      | pending => exact .pending stands (by simpa [itself_iff, stands] using still)
      | redeemed token account => exact .redeemed stands (handsOver_statusReply token account)
      | failed message => exact .failed stands

theorem standing?_record_eq_none_iff :
    standing? (record events) id = none ↔ ¬ Issued events id := by
  rw [← isSome_get?_ofEvents_iff, (follows_ofEvents events).tickets]
  simp [heldTicket?]

theorem TicketAnswer.notFound_iff {reply : Reply} (answer : TicketAnswer past id reply) :
    reply.status = .notFound ↔ standing? past id = none := by
  cases answer with
  | unknown unissued => simp [unissued]
  | pending pending =>
      have other : Status.noContent ≠ .notFound := by decide
      simp [pending, other]
  | itself stands _ hands | redeemed stands hands =>
      have other : Status.ok ≠ .notFound := by decide
      simp [hands.told, stands, other]
  | failed failed =>
      have other : Status.serverError ≠ .notFound := by decide
      simp [failed, other]

theorem TicketAnswer.handsOver {reply : Reply} {token : String} {account : MockAccount}
    (answer : TicketAnswer past id reply)
    (redeemed : standing? past id = some (.redeemed token account)) :
    HandsOver token account reply := by
  cases answer with
  | redeemed stands hands =>
      obtain ⟨rfl, rfl⟩ := Standing.redeemed.inj (Option.some.inj (stands.symm.trans redeemed))
      exact hands
  | unknown stands | pending stands | itself stands | failed stands =>
      cases stands.symm.trans redeemed

/-- A ticket that was issued has been asked about as often as the record says. -/
theorem pollCount_of_issued (issued : Issued events id) :
    (ofEvents events).pollCount id = polls (record events) id := by
  have known : standing? (record events) id ≠ none :=
    fun unissued => standing?_record_eq_none_iff.mp unissued issued
  obtain ⟨standing, stands⟩ := Option.ne_none_iff_exists'.mp known
  rw [pollCount, (follows_ofEvents events).tickets, heldTicket?, stands]
  rfl

theorem pollCount_of_not_issued (unissued : ¬ Issued events id) :
    (ofEvents events).pollCount id = 0 := by
  rw [← isSome_get?_ofEvents_iff, Option.not_isSome_iff_eq_none] at unissued
  rw [pollCount, unissued]
  rfl

theorem serve_of_asked {path : String} (asks : asked? "GET" path = some id)
    (server : MockServer) (freshId : String) (authorization : Option Octets) :
    server.serve freshId "GET" path authorization = server.poll id := by
  unfold asked? at asks
  split at asks
  · rename_i escaped found
    rw [serve_get found]
    simp only [handle, asks]
  · contradiction

theorem asked?_of_plain (plain : isPlainSegment id = true) (other : id ≠ "check") :
    asked? "GET" ("/auth/" ++ id) = some id := by
  let url : Url :=
    { scheme := "http", username := "", password := none, host := .name "localhost", port := none,
      segments := ["auth", id], query := none, fragment := none }
  have segments : ∀ segment ∈ url.segments, isPlainSegment segment = true := by
    have auth : isPlainSegment "auth" = true := by decide
    simp [url, auth, plain]
  have routed : route? url.target = some (.ticket id) := route?_ticket rfl segments rfl other
  have target : url.target = "/auth/" ++ id := by
    apply String.toList_inj.mp
    rw [toList_target rfl]
    simp [url, join, List.intercalate]
  rw [target] at routed
  rw [asked?, resource?, routed]
  exact unescape?_of_plain plain

/-- What is not issued cannot be redeemed or failed. -/
theorem changeTicket_of_not_issued (unissued : ¬ Issued events id) (status : TicketStatus) :
    (ofEvents events).changeTicket id status = ofEvents events := by
  rw [← isSome_get?_ofEvents_iff, Option.not_isSome_iff_eq_none] at unissued
  rw [changeTicket, unissued]

end Answers

/-- However a mock server has been called and asked, what it answers about a ticket and how
often it counts such questions is what the history says.  A ticket that is not there cannot be
redeemed or failed, nor can any be redeemed with a token that is no bearer. -/
theorem tickets_follow_history (events : List Event) :
    (∀ freshId path authorization id, asked? "GET" path = some id →
      let reply := ((ofEvents events).serve freshId "GET" path authorization).2
      TicketAnswer (record events) id reply ∧ (reply.status = .notFound ↔ ¬ Issued events id)) ∧
    (∀ id, ¬ Issued events id → (ofEvents events).pollCount id = 0) ∧
    (∀ id, Issued events id → (ofEvents events).pollCount id = polls (record events) id) ∧
    (∀ earlier issuing later id, events = earlier ++ issuing :: later →
      issuing.issues? = some id → (∀ event ∈ later, event.issues? ≠ some id) →
      (ofEvents events).pollCount id = later.countP (·.asks? == some id)) ∧
    (∀ event id, (event.issues? = some id → ¬ Issued events id) → event.asks? ≠ some id →
      ((ofEvents events).step event).pollCount id = (ofEvents events).pollCount id) ∧
    (ofEvents events).issued = (events.filterMap Event.issues?).length ∧
    (ofEvents events).lastTicket = (events.filterMap Event.issues?).getLast? ∧
    (∀ ticket token, holder? (record events) token = none →
      (ofEvents events).redeem ticket token = ofEvents events) ∧
    ∀ ticket, ¬ Issued events ticket →
      (∀ token, (ofEvents events).redeem ticket token = ofEvents events) ∧
      (∀ token account,
        (ofEvents events).redeemUnregistered ticket token account = ofEvents events) ∧
      ∀ message, (ofEvents events).failTicket ticket message = ofEvents events := by
  have follows := follows_ofEvents events
  have counts := counts_ofEvents events
  refine ⟨?answers, fun id => pollCount_of_not_issued, fun id => pollCount_of_issued, ?counted,
    ?others, congrArg (·.1) counts, congrArg (·.2.1) counts, ?noBearer, ?noTicket⟩
  case answers =>
    intro freshId path authorization id asks
    have answer := follows.answers id
    rw [serve_of_asked asks]
    exact ⟨answer, answer.notFound_iff.trans standing?_record_eq_none_iff⟩
  case counted =>
    rintro earlier issuing later id rfl issues once
    have counted := polls_run_of_issuing (ofEvents earlier) issues once
    rw [← ofEvents_append] at counted
    rw [pollCount, counted]
    rfl
  case others =>
    intro event id fresh unasked
    have counted := polls_step (ofEvents events) event id
    by_cases issues : event.issues? = some id
    · rw [if_pos issues] at counted
      rw [pollCount, counted, pollCount_of_not_issued (fresh issues)]
      rfl
    · simp only [if_neg issues, if_neg unasked, Nat.add_zero] at counted
      rw [pollCount, counted]
      rfl
  case noBearer =>
    intro ticket token unheld
    rw [redeem, (follows.accounts token).eq_none_of_unheld unheld]
  case noTicket =>
    intro ticket unissued
    have same := changeTicket_of_not_issued unissued
    refine ⟨fun token => ?_, fun token account => same _, fun message => same _⟩
    unfold redeem
    split
    · exact same _
    · rfl

/-- A ticket redeemed by hand with a token that is revoked afterwards. -/
theorem ticket_redeemed_before_revoking :
    let account := MockAccount.sample 7 "alice"
    let issuing : Event := .request "t" "GET" "/auth" none
    let later : List Event := [.request "" "GET" "/auth/t" none,
      .call (.register "secret" account), .call (.redeem "t" "secret"), .call (.revoke "secret")]
    let reply := ((ofEvents (issuing :: later)).serve "" "GET" "/auth/t" none).2
    asked? "GET" "/auth/t" = some "t" ∧ HandsOver "secret" account reply ∧
      issuing.issues? = some "t" ∧ (∀ event ∈ later, event.issues? ≠ some "t") ∧
      (ofEvents (issuing :: later)).pollCount "t" = 1 ∧
      holder? (record (issuing :: later)) "secret" = none ∧
      (ofEvents (issuing :: later)).redeem "t" "secret" = ofEvents (issuing :: later) := by
  intro account issuing later reply
  have asks : asked? "GET" "/auth/t" = some "t" :=
    @asked?_of_plain "t" (by decide) (by decide)
  have issues : issuing.issues? = some "t" := by decide +kernel
  have once : ∀ event ∈ later, event.issues? ≠ some "t" := by
    simp only [later, List.forall_mem_cons]
    decide +kernel
  have redeemed : standing? (record (issuing :: later)) "t" =
      some (.redeemed "secret" account) := by with_unfolding_all rfl
  have unheld : holder? (record (issuing :: later)) "secret" = none := by with_unfolding_all rfl
  obtain ⟨answers, _, _, counted, _, _, _, noBearer, _⟩ :=
    tickets_follow_history (issuing :: later)
  refine ⟨asks, (answers "" "/auth/t" none "t" asks).1.handsOver redeemed, issues, once, ?_,
    unheld, noBearer "t" "secret" unheld⟩
  rw [counted [] issuing later "t" rfl issues once]
  decide +kernel

end MockServer

end SignIn
