import SignIn.Proofs.MockServer.Record
import SignIn.Proofs.MockServer.Replies

/-!
# Which bearers a mock server accepts

A token is a bearer from its registration, by hand or by the ticket that redeems itself with
it, until it is revoked.  A mock server tells a bearer with the reputation that it was given
last, and refuses whoever comes with anything else.
-/

namespace SignIn

namespace MockServer

open Utf8

/-- A header of visible ASCII, blanks and tabs carries what follows the word for a bearer. -/
def Carries (authorization : Option Octets) (token : String) : Prop :=
  ∃ octets, authorization = some octets ∧
    (∀ octet ∈ octets, octet = 0x09 ∨ (0x20 ≤ octet ∧ octet ≤ 0x7E)) ∧
    octets = Utf8.encode ("Bearer " ++ token)

theorem toNat_ofNat_of_ascii {code : Nat} (ascii : code < 0x80) :
    (Char.ofNat code).toNat = code := by
  rw [Char.ofNat, dif_pos (.inl (by omega))]
  rfl

theorem encode_ofList_of_ascii {octets : Octets} (ascii : ∀ octet ∈ octets, octet < 0x80) :
    Utf8.encode (String.ofList (octets.map fun octet => Char.ofNat octet.toNat)) = octets := by
  have code (octet : UInt8) (member : octet ∈ octets) :
      (Char.ofNat octet.toNat).toNat = octet.toNat :=
    toNat_ofNat_of_ascii (UInt8.lt_iff_toNat_lt.mp (ascii octet member))
  rw [encode_ofList, encodeChars_of_ascii, List.map_map]
  · refine (List.map_congr_left fun octet member => ?_).trans (List.map_id _)
    rw [Function.comp, asciiOctet, code octet member, id, UInt8.ofNat_toNat]
  · simp only [List.forall_mem_map]
    intro octet member
    rw [code octet member]
    exact UInt8.lt_iff_toNat_lt.mp (ascii octet member)

theorem encode_injective {first second : String} (same : Utf8.encode first = Utf8.encode second) :
    first = second := by
  have decoded := decode?_encode first
  rw [same, decode?_encode] at decoded
  exact (Option.some.inj decoded).symm

theorem visible_iff (octets : Octets) :
    octets.all (fun octet => octet = 0x09 || (0x20 ≤ octet && octet < 0x7F)) = true ↔
      ∀ octet ∈ octets, octet = 0x09 ∨ (0x20 ≤ octet ∧ octet ≤ 0x7E) := by
  have below (octet : UInt8) : octet < 0x7F ↔ octet ≤ 0x7E := by
    rw [UInt8.lt_iff_toNat_lt, UInt8.le_iff_toNat_le]
    exact Nat.lt_succ_iff
  simp only [List.all_eq_true, Bool.or_eq_true, Bool.and_eq_true, decide_eq_true_eq, below]

theorem ascii_of_visible {octet : UInt8}
    (visible : octet = 0x09 ∨ (0x20 ≤ octet ∧ octet ≤ 0x7E)) : octet < 0x80 := by
  rcases visible with rfl | ⟨_, below⟩
  · decide
  · exact UInt8.lt_of_le_of_lt below (by decide)

theorem drop_of_starts_iff {word text rest : List Char} :
    (if word.isPrefixOf text then some (String.ofList (text.drop word.length)) else none) =
        some (String.ofList rest) ↔ text = word ++ rest := by
  simp only [List.isPrefixOf_iff_prefix]
  constructor
  · intro found
    split at found
    · rename_i starts
      have same := String.ofList_injective (Option.some.inj found)
      rw [← same]
      exact (List.prefix_iff_eq_append.mp starts).symm
    · contradiction
  · rintro rfl
    simp

theorem bearer?_eq_some_iff {authorization : Option Octets} {token : String} :
    bearer? authorization = some token ↔ Carries authorization token := by
  cases authorization with
  | none =>
      constructor
      · intro found
        contradiction
      · rintro ⟨_, missing, _⟩
        contradiction
  | some octets =>
      have carries_iff : Carries (some octets) token ↔
          (∀ octet ∈ octets, octet = 0x09 ∨ (0x20 ≤ octet ∧ octet ≤ 0x7E)) ∧
            octets = Utf8.encode ("Bearer " ++ token) := by
        constructor
        · rintro ⟨_, ⟨⟩, carries⟩
          exact carries
        · exact fun carries => ⟨octets, rfl, carries⟩
      rw [carries_iff, ← visible_iff]
      unfold bearer?
      simp only [Option.bind_eq_bind, Option.bind_some]
      split
      · rename_i visible
        have spelled := encode_ofList_of_ascii fun octet member =>
          ascii_of_visible ((visible_iff octets).mp visible octet member)
        generalize octets.map (fun octet => Char.ofNat octet.toNat) = text at spelled
        obtain ⟨rest, rfl⟩ : ∃ rest, token = String.ofList rest := ⟨token.toList, by simp⟩
        calc
          _ ↔ text = "Bearer ".toList ++ rest := drop_of_starts_iff
          _ ↔ String.ofList text = "Bearer " ++ String.ofList rest := by
            rw [← String.toList_inj]
            simp
          _ ↔ octets = Utf8.encode ("Bearer " ++ String.ofList rest) := by
            constructor
            · intro same
              rw [← spelled, same]
            · exact fun same => encode_injective (spelled.trans same)
          _ ↔ _ := (and_iff_right visible).symm
      · rename_i hidden
        constructor
        · intro found
          contradiction
        · exact fun carries => absurd carries.1 hidden

/-- A document that reports a reputation, whatever it is made of. -/
structure Reports (reputation : UInt32) (breakdown : Json.Value) (reply : Reply) : Prop where
  status : reply.status = .ok
  contentType : reply.contentType = some "application/json"
  body : ∃ members, reply.body = (Json.Value.object members).print ∧
    members.lookup "reputation" = some (.natural reputation.toNat) ∧
    members.lookup "reputationData" = some breakdown

/-- What whoever comes with a header is answered after some deeds, when a bearer is told of an
account in a form of which a client reads something. -/
inductive BearerAnswer (past : List Deed) (authorization : Option Octets)
    (reads : Octets → Profile → Reputation → Prop) : Reply → Prop where
  | accepted {token : String} {account : MockAccount} {reputation : UInt32}
      {breakdown : Json.Value} {reply : Reply} (carries : Carries authorization token)
      (held : holder? past token = some account)
      (rated : rating? past token = some (reputation, breakdown))
      (reports : Reports reputation breakdown reply)
      (read : ∀ data, ReputationData.decode (Utf8.encode breakdown.print) = .ok data →
        reads (Utf8.encode reply.body) account.profile ⟨reputation, data⟩) :
      BearerAnswer past authorization reads reply
  | refused (unheld : ∀ token, Carries authorization token → holder? past token = none) :
      BearerAnswer past authorization reads {
        status := .unauthorized
        contentType := some "text/plain; charset=utf-8"
        body := "Invalid token\n" }

def ReadsAccount (octets : Octets) (profile : Profile) (reputation : Reputation) : Prop :=
  Account.decode octets = .ok ⟨profile, reputation⟩

def ReadsReport (octets : Octets) (_ : Profile) (reputation : Reputation) : Prop :=
  Reputation.decodeReport octets = .ok reputation

/-- What whoever comes with a header is told of their account. -/
def tellBearer (server : MockServer) (tell : MockAccount → Json.Value)
    (authorization : Option Octets) : Reply :=
  match server.accountFor? authorization with
  | none => .invalidToken
  | some account => .document (tell account)

/-- A form in which accounts are told, and what a client reads of it. -/
structure Form (tell : MockAccount → Json.Value)
    (reads : Octets → Profile → Reputation → Prop) : Prop where
  reports (account : MockAccount) :
    Reports account.reputation account.reputationData (.document (tell account))
  read (account : MockAccount) {data : ReputationData}
    (readable : ReputationData.shape.reader.Reads account.reputationData.print data) :
    reads (Utf8.encode (tell account).print) account.profile ⟨account.reputation, data⟩

theorem form_accountValue : Form MockAccount.accountValue ReadsAccount where
  reports _ := ⟨rfl, rfl, _, rfl, rfl, rfl⟩
  read _ _ readable := MockAccount.decode_accountValue readable

theorem form_reportValue : Form MockAccount.reportValue ReadsReport where
  reports _ := ⟨rfl, rfl, _, rfl, rfl, rfl⟩
  read _ _ readable := MockAccount.decode_reportValue readable

section Answers

variable {server : MockServer} {past : List Deed} {events : List Event}
  {authorization : Option Octets} {reads : Octets → Profile → Reputation → Prop}

theorem carries_unique {token other : String} (carries : Carries authorization token)
    (carriesOther : Carries authorization other) : token = other :=
  Option.some.inj ((bearer?_eq_some_iff.mpr carries).symm.trans
    (bearer?_eq_some_iff.mpr carriesOther))

theorem Follows.tells {tell : MockAccount → Json.Value} (follows : Follows server past)
    (form : Form tell reads) (authorization : Option Octets) :
    BearerAnswer past authorization reads (server.tellBearer tell authorization) := by
  unfold tellBearer accountFor?
  cases carried : bearer? authorization with
  | none =>
      refine .refused fun token carries => ?_
      rw [← bearer?_eq_some_iff, carried] at carries
      contradiction
  | some token =>
      have carries := bearer?_eq_some_iff.mp carried
      have holds := follows.accounts token
      rw [Option.bind_some]
      generalize server.accounts.get? token = account at holds
      cases holds with
      | nobody unheld =>
          exact .refused fun other carriesOther => carries_unique carries carriesOther ▸ unheld
      | @account first reputation breakdown held rated muted =>
          let account : MockAccount :=
            { first with reputation, reputationData := breakdown, mutedUsers := muted }
          have reports : Reports reputation breakdown (.document (tell account)) :=
            form.reports account
          refine .accepted carries held rated reports fun data decoded => ?_
          have readable := (ReputationData.decisive breakdown).reads_of_decode decoded
          exact form.read account readable

theorem BearerAnswer.ok_iff {reply : Reply} (answer : BearerAnswer past authorization reads reply) :
    reply.status = .ok ↔
      ∃ token, Carries authorization token ∧ (holder? past token).isSome := by
  cases answer with
  | accepted carries held _ reports =>
      exact ⟨fun _ => ⟨_, carries, Option.isSome_of_eq_some held⟩, fun _ => reports.status⟩
  | refused unheld =>
      have other : Status.unauthorized ≠ .ok := by decide
      constructor
      · exact fun same => absurd same other
      · rintro ⟨token, carries, held⟩
        rw [unheld token carries] at held
        contradiction

theorem serve_profile {freshId path : String} (found : resource? "GET" path = some .profile)
    (server : MockServer) (authorization : Option Octets) :
    (server.serve freshId "GET" path authorization).2 =
      server.tellBearer MockAccount.accountValue authorization := by
  rw [serve_get found]
  rfl

theorem serve_check {freshId path : String} (found : resource? "GET" path = some .check)
    {server : MockServer} (honest : server.checkStatus = none) (authorization : Option Octets) :
    (server.serve freshId "GET" path authorization).2 =
      server.tellBearer MockAccount.reportValue authorization := by
  rw [serve_get found]
  show server.check authorization = _
  rw [check, honest]
  rfl

/-- What bearers are told hangs on the accounts and on the status that is set for checks. -/
theorem serve_congr {server other : MockServer} {freshId path : String}
    (found : resource? "GET" path = some .profile ∨ resource? "GET" path = some .check)
    (accounts : server.accounts = other.accounts)
    (checks : server.checkStatus = other.checkStatus) (authorization : Option Octets) :
    (server.serve freshId "GET" path authorization).2 =
      (other.serve freshId "GET" path authorization).2 := by
  rcases found with found | found
  · rw [serve_get found, serve_get found]
    show server.tellAccount authorization = other.tellAccount authorization
    rw [tellAccount, accountFor?, accounts]
    rfl
  · rw [serve_get found, serve_get found]
    show server.check authorization = other.check authorization
    rw [check, checks, accountFor?, accounts]
    rfl

theorem tellBearer_run_of_untouched (server : MockServer) {token : String} {others : List Event}
    (carries : Carries authorization token) (untouched : ∀ event ∈ others, ¬ event.touches token)
    (tell : MockAccount → Json.Value) :
    (server.run others).tellBearer tell authorization = server.tellBearer tell authorization := by
  unfold tellBearer accountFor?
  rw [bearer?_eq_some_iff.mpr carries, Option.bind_some, Option.bind_some]
  congr 1
  induction others generalizing server with
  | nil => rfl
  | cons event others ih =>
      obtain ⟨first, later⟩ := List.forall_mem_cons.mp untouched
      show ((server.step event).run others).accounts.get? token = _
      rw [ih (server.step event) later]
      exact get?_step_of_untouched first

theorem Follows.accounts_step {event : Event} {id token : String} {account : MockAccount}
    (follows : Follows server past) (asks : event.asks? = some id)
    (redeemed : standing? past id = some (.redeemed token account)) :
    (server.step event).accounts = server.accounts := by
  cases event with
  | request freshId method path authorization =>
      have served := served_step server freshId method path authorization
      generalize server.step (.request freshId method path authorization) = after at served
      cases served with
      | issued issues => simp [Event.asks?, asked?, issues] at asks
      | @polled ticket same =>
          obtain rfl : ticket = id := Option.some.inj (same.symm.trans asks)
          have polled := polled_poll server ticket
          generalize server.poll ticket = answered at polled
          cases polled with
          | unknown | told => rfl
          | redeemed _ itself =>
              obtain ⟨pending, _⟩ := (follows.redeemsItself_iff ticket).mp itself
              cases pending.symm.trans redeemed
      | unmuted found => simp [Event.asks?, asked?, found] at asks
      | unmoved => rfl
  | _ => contradiction

/-- To ask about a ticket that was redeemed does nothing else. -/
theorem deeds_of_redeemed {event : Event} {id token : String} {account : MockAccount}
    (asks : event.asks? = some id)
    (redeemed : standing? past id = some (.redeemed token account)) :
    deeds past event = [.asked id] := by
  cases event with
  | request freshId method path authorization =>
      rw [deeds, if_neg (resource?_ne_of_asked asks), show asked? method path = some id from asks]
      simp only [asking, redeemed]
  | _ => contradiction

end Answers

/-- However a mock server has been called and asked, it tells whoever comes with a registered
token of its account, with the reputation that was given last, and refuses everyone else.
What is done about other tokens changes nothing of that, nor does any question about a ticket
that was redeemed before. -/
theorem bearers_follow_history (events : List Event) :
    (∀ freshId path authorization, resource? "GET" path = some .profile →
      let reply := ((ofEvents events).serve freshId "GET" path authorization).2
      BearerAnswer (record events) authorization ReadsAccount reply ∧
        (reply.status = .ok ↔
          ∃ token, Carries authorization token ∧ (holder? (record events) token).isSome)) ∧
    (∀ freshId path authorization, resource? "GET" path = some .check →
      check? (record events) = none →
      let reply := ((ofEvents events).serve freshId "GET" path authorization).2
      BearerAnswer (record events) authorization ReadsReport reply ∧
        (reply.status = .ok ↔
          ∃ token, Carries authorization token ∧ (holder? (record events) token).isSome)) ∧
    (∀ token authorization others freshId path, Carries authorization token →
      (∀ event ∈ others, ¬ event.touches token) →
      (resource? "GET" path = some .profile ∨ resource? "GET" path = some .check ∧
        check? (record events) = none ∧ check? (record (events ++ others)) = none) →
      ((ofEvents (events ++ others)).serve freshId "GET" path authorization).2 =
        ((ofEvents events).serve freshId "GET" path authorization).2) ∧
    ∀ event id redeemer account, event.asks? = some id →
      standing? (record events) id = some (.redeemed redeemer account) →
      (∀ token, holder? (record (events ++ [event])) token = holder? (record events) token ∧
        rating? (record (events ++ [event])) token = rating? (record events) token) ∧
      ∀ freshId path authorization,
        (resource? "GET" path = some .profile ∨ resource? "GET" path = some .check) →
        ((ofEvents (events ++ [event])).serve freshId "GET" path authorization).2 =
          ((ofEvents events).serve freshId "GET" path authorization).2 := by
  have follows := follows_ofEvents events
  have checks (events : List Event) : (ofEvents events).checkStatus = check? (record events) :=
    congrArg Prod.snd (follows_ofEvents events).settings
  refine ⟨?profile, ?check, ?others, ?redeemed⟩
  case profile =>
    intro freshId path authorization found
    have answer := follows.tells form_accountValue authorization
    rw [serve_profile found]
    exact ⟨answer, answer.ok_iff⟩
  case check =>
    intro freshId path authorization found unset
    have answer := follows.tells form_reportValue authorization
    rw [serve_check found ((checks events).trans unset)]
    exact ⟨answer, answer.ok_iff⟩
  case others =>
    intro token authorization others freshId path carries untouched asked
    have same := tellBearer_run_of_untouched (ofEvents events) carries untouched
    rw [← ofEvents_append] at same
    rcases asked with found | ⟨found, before, after⟩
    · rw [serve_profile found, serve_profile found]
      exact same MockAccount.accountValue
    · rw [serve_check found ((checks _).trans before), serve_check found ((checks _).trans after)]
      exact same MockAccount.reportValue
  case redeemed =>
    intro event id redeemer account asks redeemed
    have done : record (events ++ [event]) = record events ++ [.asked id] := by
      rw [record_concat, deeds_of_redeemed asks redeemed]
    constructor
    · intro token
      rw [done]
      exact ⟨holder?_of_other (by simp [Deed.token?]), rating?_of_other (by simp [Deed.token?])⟩
    · intro freshId path authorization found
      refine serve_congr found ?_ ?_ authorization
      · rw [ofEvents_concat]
        exact follows.accounts_step asks redeemed
      · rw [checks, checks, done]
        exact congrArg Prod.snd (settings_of_other (.inl (by simp [Deed.ticket?])))

theorem BearerAnswer.told {past : List Deed} {authorization : Option Octets}
    {reads : Octets → Profile → Reputation → Prop} {reply : Reply} {token : String}
    {account : MockAccount} {reputation : UInt32} {breakdown : Json.Value} {data : ReputationData}
    (answer : BearerAnswer past authorization reads reply) (carries : Carries authorization token)
    (held : holder? past token = some account)
    (rated : rating? past token = some (reputation, breakdown))
    (readable : ReputationData.decode (Utf8.encode breakdown.print) = .ok data) :
    Reports reputation breakdown reply ∧
      reads (Utf8.encode reply.body) account.profile ⟨reputation, data⟩ := by
  cases answer with
  | accepted carried heldThen ratedThen reports read =>
      obtain rfl := carries_unique carries carried
      obtain rfl := Option.some.inj (held.symm.trans heldThen)
      obtain ⟨rfl, rfl⟩ := Prod.mk.inj (Option.some.inj (rated.symm.trans ratedThen))
      exact ⟨reports, read data readable⟩
  | refused unheld => cases held.symm.trans (unheld token carries)

/-- A bearer registered by the ticket that redeemed itself, and another token revoked. -/
theorem bearer_of_redeemed_ticket :
    let asking : Event := .request "" "GET" "/auth/t" none
    let breakdown : Json.Value := .object []
    let events : List Event := [.redeemAfter 1, .request "t" "GET" "/auth" none, asking,
      .call (.setReputation "fixture-token-t" 42 breakdown)]
    let others : List Event := [.call (.revoke "u")]
    let authorization := some (Utf8.encode "Bearer fixture-token-t")
    let profile := ((ofEvents events).serve "" "GET" "/profile" authorization).2
    let check := ((ofEvents events).serve "" "GET" "/auth/check" authorization).2
    Reports 42 breakdown profile ∧
      ReadsAccount (Utf8.encode profile.body) fixtureUser.profile ⟨42, {}⟩ ∧
      Reports 42 breakdown check ∧
      ReadsReport (Utf8.encode check.body) fixtureUser.profile ⟨42, {}⟩ ∧
      ((ofEvents (events ++ others)).serve "" "GET" "/profile" authorization).2 = profile ∧
      holder? (record (events ++ [asking])) "fixture-token-t" =
        holder? (record events) "fixture-token-t" ∧
      ((ofEvents (events ++ [asking])).serve "" "GET" "/auth/check" authorization).2 = check := by
  intro asking breakdown events others authorization profile check
  obtain ⟨profiles, checks, frame, polled⟩ := bearers_follow_history events
  have toldProfile : resource? "GET" "/profile" = some .profile := by decide +kernel
  have toldCheck : resource? "GET" "/auth/check" = some .check := by decide +kernel
  have carries : Carries authorization "fixture-token-t" :=
    bearer?_eq_some_iff.mp (by decide +kernel)
  have untouched : ∀ event ∈ others, ¬ event.touches "fixture-token-t" := by
    simp [others, Event.touches]
  have unset : check? (record events) = none := by with_unfolding_all rfl
  have held : holder? (record events) "fixture-token-t" = some fixtureUser := by
    with_unfolding_all rfl
  have rated : rating? (record events) "fixture-token-t" = some (42, breakdown) := by
    with_unfolding_all rfl
  have redeemed : standing? (record events) "t" =
      some (.redeemed "fixture-token-t" fixtureUser) := by with_unfolding_all rfl
  have readable : ReputationData.decode (Utf8.encode breakdown.print) = .ok {} := by
    decide +kernel
  have asks : asking.asks? = some "t" := by decide +kernel
  have toldAccount := (profiles "" "/profile" authorization toldProfile).1.told carries held rated
    readable
  have toldReport := (checks "" "/auth/check" authorization toldCheck unset).1.told carries held
    rated readable
  have again := polled asking "t" _ _ asks redeemed
  exact ⟨toldAccount.1, toldAccount.2, toldReport.1, toldReport.2,
    frame _ authorization others "" "/profile" carries untouched (.inl toldProfile),
    (again.1 "fixture-token-t").1, again.2 "" "/auth/check" authorization (.inr toldCheck)⟩

end MockServer

end SignIn
