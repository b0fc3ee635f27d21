import SignIn.Proofs.MockServer.Bearers
import SignIn.Proofs.MockServer.Requests
import SignIn.Proofs.Text.Percent

/-!
# Unmuting

A mock server takes a user off the list of those whom an account mutes when the bearer of the
account asks for it, all occurrences at once and nobody else.  Whoever is no bearer is refused,
and a user who is not on the list is not found; neither changes anything.  Hence a user is
unmuted once, and it does not matter in which order two users are.
-/

namespace SignIn

namespace MockServer

open Utf8

/-- A server that has the tickets, the counts and the settings of another one. -/
structure OnlyAccountsDiffer (before after : MockServer) : Prop where
  tickets : after.tickets = before.tickets
  issued : after.issued = before.issued
  lastTicket : after.lastTicket = before.lastTicket
  autoRedeemAfter : after.autoRedeemAfter = before.autoRedeemAfter
  checkStatus : after.checkStatus = before.checkStatus

theorem onlyAccountsDiffer_changeAccount (server : MockServer) (token : String)
    (change : MockAccount → MockAccount) :
    server.OnlyAccountsDiffer (server.changeAccount token change) := by
  unfold changeAccount
  split <;> exact ⟨rfl, rfl, rfl, rfl, rfl⟩

namespace OnlyAccountsDiffer

variable {first second third : MockServer}

theorem refl (server : MockServer) : server.OnlyAccountsDiffer server :=
  ⟨rfl, rfl, rfl, rfl, rfl⟩

theorem trans (earlier : first.OnlyAccountsDiffer second)
    (later : second.OnlyAccountsDiffer third) : first.OnlyAccountsDiffer third where
  tickets := later.tickets.trans earlier.tickets
  issued := later.issued.trans earlier.issued
  lastTicket := later.lastTicket.trans earlier.lastTicket
  autoRedeemAfter := later.autoRedeemAfter.trans earlier.autoRedeemAfter
  checkStatus := later.checkStatus.trans earlier.checkStatus

theorem eq_of_accounts {server : MockServer} (toFirst : server.OnlyAccountsDiffer first)
    (toSecond : server.OnlyAccountsDiffer second)
    (same : ∀ token, first.accounts.get? token = second.accounts.get? token) : first = second := by
  have accounts := Dictionary.eq_of_forall_get? same
  obtain ⟨tickets, issued, lastTicket, autoRedeemAfter, checkStatus⟩ := toFirst
  obtain ⟨tickets', issued', lastTicket', autoRedeemAfter', checkStatus'⟩ := toSecond
  cases first
  cases second
  simp_all

end OnlyAccountsDiffer

section ChangeAccount

variable {server : MockServer} {token other : String}
  {change first second : MockAccount → MockAccount}

theorem changeAccount_of_same
    (same : ∀ account, server.accounts.get? token = some account → change account = account) :
    server.changeAccount token change = server := by
  refine (onlyAccountsDiffer_changeAccount server token change).eq_of_accounts (.refl server)
    fun key => ?_
  rw [get?_changeAccount]
  split
  · rename_i named
    subst named
    cases there : server.accounts.get? token with
    | none => rfl
    | some account => rw [Option.map_some, same account there]
  · rfl

/-- Changes of two accounts, or of one account in ways that get along, can be made in either
order. -/
theorem changeAccount_comm
    (commute : token = other → ∀ account, second (first account) = first (second account)) :
    (server.changeAccount token first).changeAccount other second =
      (server.changeAccount other second).changeAccount token first := by
  have frame (token other : String) (first second : MockAccount → MockAccount) :
      server.OnlyAccountsDiffer ((server.changeAccount token first).changeAccount other second) :=
    (onlyAccountsDiffer_changeAccount server token first).trans
      (onlyAccountsDiffer_changeAccount _ other second)
  refine (frame token other first second).eq_of_accounts (frame other token second first)
    fun key => ?_
  simp only [get?_changeAccount]
  by_cases isToken : token = key
  · by_cases isOther : other = key
    · have swap : second ∘ first = first ∘ second :=
        funext (commute (isToken.trans isOther.symm))
      simp only [if_pos isToken, if_pos isOther, Option.map_map, swap]
    · simp only [if_pos isToken, if_neg isOther]
  · simp only [if_neg isToken]

end ChangeAccount

def spare (username : String) (account : MockAccount) : MockAccount :=
  { account with mutedUsers := account.mutedUsers.filter (· != username) }

/-- A header carries the bearer of an account. -/
def Admits (server : MockServer) (authorization : Option Octets) (token : String)
    (account : MockAccount) : Prop :=
  Carries authorization token ∧ server.accounts.get? token = some account

section Unmute

variable {server : MockServer} {authorization : Option Octets} {token username : String}
  {account : MockAccount}

theorem unmute_of_muted (admits : server.Admits authorization token account)
    (muted : username ∈ account.mutedUsers) :
    server.unmute username authorization =
      (server.changeAccount token (spare username), .text .ok "ok") := by
  obtain ⟨carries, there⟩ := admits
  simp [unmute, bearer?_eq_some_iff.mpr carries, there, muted, changeAccount, spare]

theorem unmute_of_absent (admits : server.Admits authorization token account)
    (absent : username ∉ account.mutedUsers) :
    server.unmute username authorization = (server, .text .notFound "user not muted\n") := by
  obtain ⟨carries, there⟩ := admits
  simp [unmute, bearer?_eq_some_iff.mpr carries, there, absent]

theorem unmute_of_stranger
    (stranger : ∀ token account, ¬ server.Admits authorization token account) :
    server.unmute username authorization = (server, .invalidToken) := by
  unfold unmute
  split
  · rfl
  · rename_i token carried
    split
    · rfl
    · rename_i account there
      exact absurd ⟨bearer?_eq_some_iff.mp carried, there⟩ (stranger token account)

/-- A header admits to at most one account. -/
theorem Admits.unique {other : String} {another : MockAccount}
    (first : server.Admits authorization token account)
    (second : server.Admits authorization other another) : token = other ∧ account = another := by
  have sameToken : some token = some other :=
    (bearer?_eq_some_iff.mpr first.1).symm.trans (bearer?_eq_some_iff.mpr second.1)
  obtain rfl := Option.some.inj sameToken
  exact ⟨rfl, Option.some.inj (first.2.symm.trans second.2)⟩

/-- What a request to unmute a user comes to. -/
inductive Unmuting (server : MockServer) (username : String) (authorization : Option Octets) :
    MockServer × Reply → Prop where
  | muted {token : String} {account : MockAccount}
      (admits : server.Admits authorization token account)
      (muted : username ∈ account.mutedUsers) :
      Unmuting server username authorization
        (server.changeAccount token (spare username), .text .ok "ok")
  | absent {token : String} {account : MockAccount}
      (admits : server.Admits authorization token account)
      (absent : username ∉ account.mutedUsers) :
      Unmuting server username authorization (server, .text .notFound "user not muted\n")
  | stranger (stranger : ∀ token account, ¬ server.Admits authorization token account) :
      Unmuting server username authorization (server, .invalidToken)

theorem unmuting_unmute (server : MockServer) (username : String)
    (authorization : Option Octets) :
    Unmuting server username authorization (server.unmute username authorization) := by
  by_cases known : ∃ token account, server.Admits authorization token account
  · obtain ⟨token, account, admits⟩ := known
    by_cases muted : username ∈ account.mutedUsers
    · rw [unmute_of_muted admits muted]
      exact .muted admits muted
    · rw [unmute_of_absent admits muted]
      exact .absent admits muted
  · have stranger : ∀ token account, ¬ server.Admits authorization token account :=
      fun token account admits => known ⟨token, account, admits⟩
    rw [unmute_of_stranger stranger]
    exact .stranger stranger

/-- Whatever comes of it, the account of the bearer is left without the user, and there is no
other change. -/
theorem fst_unmute (carries : Carries authorization token) :
    (server.unmute username authorization).1 = server.changeAccount token (spare username) := by
  have unmuting := unmuting_unmute server username authorization
  generalize server.unmute username authorization = answered at unmuting
  have sparing (free : ∀ account, server.accounts.get? token = some account →
      username ∉ account.mutedUsers) : server.changeAccount token (spare username) = server := by
    refine changeAccount_of_same fun account there => ?_
    have kept : account.mutedUsers.filter (· != username) = account.mutedUsers := by
      rw [List.filter_eq_self]
      rintro muted member
      rw [bne_iff_ne]
      rintro rfl
      exact free account there member
    rw [spare, kept]
  cases unmuting with
  | muted admits muted =>
      obtain rfl : token = _ := Option.some.inj
        ((bearer?_eq_some_iff.mpr carries).symm.trans (bearer?_eq_some_iff.mpr admits.1))
      rfl
  | absent admits absent =>
      refine (sparing fun account there => ?_).symm
      obtain ⟨-, rfl⟩ := Admits.unique admits ⟨carries, there⟩
      exact absent
  | stranger stranger =>
      exact (sparing fun account there => absurd ⟨carries, there⟩ (stranger token account)).symm

theorem fst_unmute_of_uncarried (uncarried : ∀ token, ¬ Carries authorization token) :
    (server.unmute username authorization).1 = server := by
  rw [unmute_of_stranger fun token account admits => uncarried token admits.1]

end Unmute

section Two

variable {first second : String} (different : second ≠ first)

theorem spare_comm (account : MockAccount) :
    spare second (spare first account) = spare first (spare second account) := by
  simp only [spare, List.filter_filter, Bool.and_comm]

include different

theorem mem_mutedUsers_spare {account : MockAccount} :
    second ∈ (spare first account).mutedUsers ↔ second ∈ account.mutedUsers := by
  simp [spare, different]

variable {server : MockServer} {authorization : Option Octets}

theorem snd_unmute_changeAccount (token : String) :
    ((server.changeAccount token (spare first)).unmute second authorization).2 =
      (server.unmute second authorization).2 := by
  have admits_iff (bearer : String) (account : MockAccount) :
      (server.changeAccount token (spare first)).Admits authorization bearer account ↔
        ∃ before, server.Admits authorization bearer before ∧
          account = if token = bearer then spare first before else before := by
    unfold Admits
    rw [get?_changeAccount]
    split
    · rw [Option.map_eq_some_iff]
      constructor
      · rintro ⟨carries, before, there, rfl⟩
        exact ⟨before, ⟨carries, there⟩, rfl⟩
      · rintro ⟨before, ⟨carries, there⟩, rfl⟩
        exact ⟨carries, before, there, rfl⟩
    · constructor
      · intro admits
        exact ⟨account, admits, rfl⟩
      · rintro ⟨before, admits, rfl⟩
        exact admits
  have unmuting := unmuting_unmute server second authorization
  generalize server.unmute second authorization = answered at unmuting
  cases unmuting with
  | muted admits muted =>
      rw [unmute_of_muted ((admits_iff _ _).mpr ⟨_, admits, rfl⟩)]
      split
      · exact (mem_mutedUsers_spare different).mpr muted
      · exact muted
  | absent admits absent =>
      rw [unmute_of_absent ((admits_iff _ _).mpr ⟨_, admits, rfl⟩)]
      split
      · exact mt (mem_mutedUsers_spare different).mp absent
      · exact absent
  | stranger stranger =>
      rw [unmute_of_stranger]
      intro bearer account admits
      obtain ⟨before, known, -⟩ := (admits_iff bearer account).mp admits
      exact stranger bearer before known

theorem snd_unmute_unmute (other : Option Octets) :
    ((server.unmute first other).1.unmute second authorization).2 =
      (server.unmute second authorization).2 := by
  by_cases carried : ∃ token, Carries other token
  · obtain ⟨token, carries⟩ := carried
    rw [fst_unmute carries, snd_unmute_changeAccount different token]
  · rw [fst_unmute_of_uncarried fun token carries => carried ⟨token, carries⟩]

end Two

/-- Users are unmuted in either order, whoever asks for it. -/
theorem fst_unmute_comm (server : MockServer) (first second : String)
    (authorization other : Option Octets) :
    ((server.unmute first authorization).1.unmute second other).1 =
      ((server.unmute second other).1.unmute first authorization).1 := by
  by_cases firstCarried : ∃ token, Carries authorization token
  · obtain ⟨token, carries⟩ := firstCarried
    by_cases secondCarried : ∃ token, Carries other token
    · obtain ⟨another, carriesOther⟩ := secondCarried
      rw [fst_unmute carries, fst_unmute carriesOther, fst_unmute carriesOther, fst_unmute carries]
      exact changeAccount_comm fun _ account => spare_comm account
    · have uncarried (token : String) : ¬ Carries other token := fun carries =>
        secondCarried ⟨token, carries⟩
      rw [fst_unmute_of_uncarried uncarried, fst_unmute_of_uncarried uncarried]
  · have uncarried (token : String) : ¬ Carries authorization token := fun carries =>
      firstCarried ⟨token, carries⟩
    rw [fst_unmute_of_uncarried uncarried, fst_unmute_of_uncarried uncarried]

/-- Answers the request to unmute the user whose name is written at the end of the path. -/
def deleteMuted (server : MockServer) (freshId escaped : String)
    (authorization : Option Octets) : MockServer × Reply :=
  server.serve freshId "DELETE" ("/profile/mutedUsers/" ++ escaped) authorization

theorem unescape?_of_spelled {username escaped : String}
    (spelled : Percent.Spells (encode username) escaped.toList) :
    unescape? escaped = some username := by
  rw [unescape?, Utf8.encode, spelled.decode, decode?_encode]

theorem route?_mutedUser {username escaped : String} (nonempty : username ≠ "")
    (spelled : Percent.Spells (encode username) escaped.toList) :
    route? ("/profile/mutedUsers/" ++ escaped) = some (.mutedUser escaped) := by
  have someOctets : encode username ≠ [] := fun nothing =>
    nonempty (encode_inj (nothing.trans encodeChars_nil.symm))
  have someText : escaped ≠ "" := fun empty =>
    spelled.ne_nil someOctets (String.toList_eq_nil_iff.mpr empty)
  have written : ("/profile/mutedUsers/" ++ escaped).toList =
      Url.join ["", "profile", "mutedUsers", escaped] := by
    simp [Url.join, List.intercalate]
  have solid : ∀ segment ∈ ["profile", "mutedUsers", escaped],
      '/' ∉ segment.toList ∧ '?' ∉ segment.toList := by
    intro segment member
    simp only [List.mem_cons, List.not_mem_nil, or_false] at member
    rcases member with rfl | rfl | rfl
    · decide
    · decide
    · exact spelled.solid
  rw [route?, segments_of_path written solid]
  simp only [if_neg someText]

theorem deleteMuted_eq {username escaped : String} (nonempty : username ≠ "")
    (spelled : Percent.Spells (encode username) escaped.toList) (server : MockServer)
    (freshId : String) (authorization : Option Octets) :
    server.deleteMuted freshId escaped authorization = server.unmute username authorization := by
  have found : resource? "DELETE" ("/profile/mutedUsers/" ++ escaped) =
      some (.mutedUser escaped) := by
    rw [resource?, route?_mutedUser nonempty spelled]
    rfl
  rw [deleteMuted, serve_of_resource found, handle, unescape?_of_spelled spelled]
  rfl

/-- A request to unmute a user has come to what it should: found exactly if the header carries
the bearer of an account that mutes the user, who is then gone from the list of that account,
and without any change otherwise. -/
structure Unmutes (server : MockServer) (username : String) (authorization : Option Octets)
    (answered : MockServer × Reply) : Prop where
  ok_iff : answered.2.status.code = 200 ↔
    ∃ token account, server.Admits authorization token account ∧ username ∈ account.mutedUsers
  notFound_iff : answered.2.status.code = 404 ↔
    ∃ token account, server.Admits authorization token account ∧ username ∉ account.mutedUsers
  unauthorized_iff : answered.2.status.code = 401 ↔
    ∀ token account, ¬ server.Admits authorization token account
  spared : ∀ token account, server.Admits authorization token account →
    answered.1.accounts.get? token =
      some { account with mutedUsers := account.mutedUsers.filter (· != username) }
  unchanged : answered.2.status.code ≠ 200 → answered.1 = server
  others : ∀ other, ¬ Carries authorization other →
    answered.1.accounts.get? other = server.accounts.get? other
  frame : server.OnlyAccountsDiffer answered.1

theorem unmutes_unmute (server : MockServer) (username : String)
    (authorization : Option Octets) :
    server.Unmutes username authorization (server.unmute username authorization) := by
  have changed {token : String} (carries : Carries authorization token) :=
    @fst_unmute server authorization token username carries
  have unmuting := unmuting_unmute server username authorization
  generalize server.unmute username authorization = answered at changed unmuting
  have spared : ∀ token account, server.Admits authorization token account →
      answered.1.accounts.get? token = some (spare username account) := by
    intro token account admits
    rw [changed admits.1, get?_changeAccount, if_pos rfl, admits.2]
    rfl
  cases unmuting with
  | @muted token account admits muted =>
      have apart : ¬ ∃ other another, server.Admits authorization other another ∧
          username ∉ another.mutedUsers := by
        rintro ⟨other, another, also, absent⟩
        obtain ⟨-, rfl⟩ := admits.unique also
        exact absent muted
      exact {
        ok_iff := iff_of_true rfl ⟨token, account, admits, muted⟩
        notFound_iff := iff_of_false (by simp [Reply.text, Status.ok]) apart
        unauthorized_iff := iff_of_false (by simp [Reply.text, Status.ok])
          fun stranger => stranger token account admits
        spared
        unchanged := fun other => absurd rfl other
        others := fun other uncarried => by
          have notIt : token ≠ other := fun same => uncarried (same ▸ admits.1)
          rw [get?_changeAccount, if_neg notIt]
        frame := onlyAccountsDiffer_changeAccount server token (spare username) }
  | @absent token account admits absent =>
      have apart : ¬ ∃ other another, server.Admits authorization other another ∧
          username ∈ another.mutedUsers := by
        rintro ⟨other, another, also, muted⟩
        obtain ⟨-, rfl⟩ := admits.unique also
        exact absent muted
      exact {
        ok_iff := iff_of_false (by simp [Reply.text, Status.notFound]) apart
        notFound_iff := iff_of_true rfl ⟨token, account, admits, absent⟩
        unauthorized_iff := iff_of_false (by simp [Reply.text, Status.notFound])
          fun stranger => stranger token account admits
        spared
        unchanged := fun _ => rfl
        others := fun _ _ => rfl
        frame := .refl server }
  | stranger stranger =>
      have nobody (condition : MockAccount → Prop) : ¬ ∃ token account,
          server.Admits authorization token account ∧ condition account := by
        rintro ⟨token, account, admits, -⟩
        exact stranger token account admits
      exact {
        ok_iff := iff_of_false (by simp [Reply.invalidToken, Reply.text, Status.unauthorized])
          (nobody _)
        notFound_iff := iff_of_false (by simp [Reply.invalidToken, Reply.text, Status.unauthorized])
          (nobody _)
        unauthorized_iff := iff_of_true rfl stranger
        spared
        unchanged := fun _ => rfl
        others := fun _ _ => rfl
        frame := .refl server }

/-- A user who has been unmuted is not found any more. -/
theorem unmute_again {server : MockServer} {username : String} {authorization : Option Octets}
    (found : (server.unmute username authorization).2.status.code = 200) :
    (server.unmute username authorization).1.unmute username authorization =
      ((server.unmute username authorization).1, .text .notFound "user not muted\n") := by
  have unmutes := server.unmutes_unmute username authorization
  obtain ⟨token, account, admits, -⟩ := unmutes.ok_iff.mp found
  refine unmute_of_absent ⟨admits.1, unmutes.spared token account admits⟩ ?_
  simp

/-- A request to unmute a user, however the name is spelled, is found exactly if the bearer of
an account asks for someone whom the account mutes, who is then taken off its list with all
occurrences; it changes nothing else and otherwise nothing at all.  To repeat it is not found,
and requests about two users can change places. -/
theorem unmuting_is_exact {username escaped : String} (nonempty : username ≠ "")
    (spelled : Percent.Spells (encode username) escaped.toList) (server : MockServer)
    (freshId : String) (authorization : Option Octets) :
    let answered := server.deleteMuted freshId escaped authorization
    server.Unmutes username authorization answered ∧
      (answered.2.status.code = 200 → ∀ again, Percent.Spells (encode username) again.toList →
        answered.1.deleteMuted freshId again authorization =
          (answered.1, .text .notFound "user not muted\n")) ∧
      ∀ other otherEscaped otherAuthorization, other ≠ "" → other ≠ username →
        Percent.Spells (encode other) otherEscaped.toList →
        let otherAnswered := server.deleteMuted freshId otherEscaped otherAuthorization
        let after := answered.1.deleteMuted freshId otherEscaped otherAuthorization
        let otherAfter := otherAnswered.1.deleteMuted freshId escaped authorization
        after.1 = otherAfter.1 ∧ after.2 = otherAnswered.2 ∧ otherAfter.2 = answered.2 := by
  intro answered
  have whole : answered = server.unmute username authorization :=
    deleteMuted_eq nonempty spelled server freshId authorization
  rw [whole]
  refine ⟨server.unmutes_unmute username authorization, fun found again spelledAgain => ?_, ?_⟩
  · rw [deleteMuted_eq nonempty spelledAgain, unmute_again found]
  · intro other otherEscaped otherAuthorization someOther different spelledOther
    simp only [deleteMuted_eq nonempty spelled, deleteMuted_eq someOther spelledOther]
    exact ⟨fst_unmute_comm server username other authorization otherAuthorization,
      snd_unmute_unmute different authorization,
      snd_unmute_unmute different.symm otherAuthorization⟩

/-- A name that is muted twice, in escapes of either case, and another one beside it. -/
theorem unmuting_of_repeated_name :
    let server : MockServer := MockServer.register {} "t"
      { MockAccount.sample 1 "alice" with mutedUsers := ["é b", "x", "é b"] }
    let authorization := some (encode "Bearer t")
    let answered := server.deleteMuted "" "%C3%a9%20b" authorization
    answered.2.status.code = 200 ∧
      (answered.1.accounts.get? "t").map MockAccount.mutedUsers = some ["x"] ∧
      answered.1.deleteMuted "" "%C3%A9%20b" authorization =
        (answered.1, .text .notFound "user not muted\n") ∧
      (answered.1.deleteMuted "" "x" authorization).1 =
        ((server.deleteMuted "" "x" authorization).1.deleteMuted ""
          "%C3%a9%20b" authorization).1 := by
  intro server authorization answered
  have name : encode "é b" = [0xC3, 0xA9, 0x20, 0x62] := by decide +kernel
  have letter : Percent.Writes (asciiOctet 'b') ['b'] := .itself (by decide)
  have spelled (upper : Bool) (text : String)
      (written : text.toList = ['%', 'C', '3', '%', if upper then 'A' else 'a', '9', '%', '2', '0',
        'b']) : Percent.Spells (encode "é b") text.toList := by
    rw [name, written]
    refine ⟨[['%', 'C', '3'], ['%', if upper then 'A' else 'a', '9'], ['%', '2', '0'], ['b']], ?_,
      by simp⟩
    refine .cons (.escape 0xC3 true true) (.cons ?_ (.cons (.escape 0x20 true true)
      (.cons letter .nil)))
    cases upper with
    | true => exact .escape 0xA9 true true
    | false => exact .escape 0xA9 false true
  have spelledX : Percent.Spells (encode "x") "x".toList :=
    ⟨[['x']], .cons (.itself (by decide)) .nil, by decide⟩
  obtain ⟨unmutes, again, others⟩ := unmuting_is_exact (by decide)
    (spelled false "%C3%a9%20b" (by decide)) server "" authorization
  have admits : server.Admits authorization "t" _ :=
    ⟨bearer?_eq_some_iff.mp (by decide +kernel), rfl⟩
  have found := unmutes.ok_iff.mpr ⟨"t", _, admits, by decide⟩
  obtain ⟨commute, -, -⟩ := others "x" "x" authorization (by decide) (by decide) spelledX
  refine ⟨found, ?_, again found _ (spelled true "%C3%A9%20b" (by decide)), commute⟩
  rw [unmutes.spared "t" _ admits]
  decide +kernel

end MockServer

end SignIn
