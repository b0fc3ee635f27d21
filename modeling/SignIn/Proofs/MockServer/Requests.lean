import SignIn.Proofs.MockServer.Replies
import SignIn.Proofs.Text.Percent
import SignIn.Proofs.Web.Path
import SignIn.Proofs.Client

/-!
# How a mock server understands a client

A client whose base is the root of a mock server reaches its resources, and a token of visible
ASCII that does not end in a blank arrives in the header as it was sent.
-/

namespace SignIn

open Url Utf8

/-- Whether a text may be a bearer that arrives unchanged: printable ASCII, not empty, and
without a blank at the end. -/
def isPrintableToken (token : String) : Bool :=
  token != "" && token.toList.getLast? != some ' ' &&
    token.toList.all fun character => 0x20 ≤ character.toNat && character.toNat < 0x7F

section Bearer

variable {token : String}

theorem header_of_printable (printable : isPrintableToken token = true) :
    let text := "Bearer ".toList ++ token.toList
    (Credential.bearer token).header = text.map asciiOctet ∧
      (∀ character ∈ text, 0x20 ≤ character.toNat ∧ character.toNat < 0x7F) ∧
      ∃ front last, text = 'B' :: front ++ [last] ∧ last ≠ ' ' := by
  intro text
  simp only [isPrintableToken, Bool.and_eq_true, bne_iff_ne, List.all_eq_true,
    decide_eq_true_eq] at printable
  obtain ⟨⟨nonempty, noBlank⟩, all⟩ := printable
  have whole : ∀ character ∈ text, 0x20 ≤ character.toNat ∧ character.toNat < 0x7F := by
    intro character member
    rcases List.mem_append.mp member with word | inToken
    · have letters : "Bearer ".toList.all
          (fun letter => 0x20 ≤ letter.toNat && letter.toNat < 0x7F) = true := by decide
      simpa using List.all_eq_true.mp letters character word
    · exact all character inToken
  refine ⟨?_, whole, ?_⟩
  · have ascii : ∀ character ∈ text, character.toNat < 0x80 := fun character member =>
      Nat.lt_trans (whole character member).2 (by decide)
    rw [← encodeChars_of_ascii ascii, Credential.header, Utf8.encode, String.toList_append]
  · rcases List.eq_nil_or_concat token.toList with empty | ⟨front, last, written⟩
    · exact absurd (String.toList_eq_nil_iff.mp empty) nonempty
    · refine ⟨"earer ".toList ++ front, last, ?_, ?_⟩
      · show "Bearer ".toList ++ token.toList = _
        rw [written]
        simp
      · rw [written] at noBlank
        simpa using noBlank

theorem arriving_of_visible {first last : UInt8} {front : Octets}
    (firstVisible : first ≠ 0x20 ∧ first ≠ 0x09) (lastVisible : last ≠ 0x20 ∧ last ≠ 0x09) :
    MockServer.arriving (first :: front ++ [last]) = first :: front ++ [last] := by
  unfold MockServer.arriving
  simp only
  rw [List.cons_append, List.dropWhile_cons_of_neg (by simpa using firstVisible),
    ← List.cons_append, List.reverse_append, List.reverse_singleton, List.singleton_append,
    List.dropWhile_cons_of_neg (by simpa using lastVisible)]
  simp

/-- A printable token is told from the header that carries it. -/
theorem bearer?_header (printable : isPrintableToken token = true) :
    MockServer.bearer? (some (MockServer.arriving (Credential.bearer token).header)) =
      some token := by
  obtain ⟨written, visible, front, last, ends, notBlank⟩ := header_of_printable printable
  have octets (character : Char) (member : character ∈ "Bearer ".toList ++ token.toList) :
      (asciiOctet character).toNat = character.toNat :=
    toNat_asciiOctet (Nat.lt_trans (visible character member).2 (by decide))
  have arrived : MockServer.arriving (Credential.bearer token).header =
      (Credential.bearer token).header := by
    have lastMember : last ∈ "Bearer ".toList ++ token.toList := by
      rw [ends]
      simp
    have code := visible last lastMember
    rw [written, ends, List.map_append, List.map_cons]
    refine arriving_of_visible (by decide) ⟨fun same => notBlank ?_, fun same => ?_⟩
    · rw [← Char.toNat_inj, ← octets last lastMember, same]
      rfl
    · have small := octets last lastMember
      have tab : (0x09 : UInt8).toNat = 9 := rfl
      rw [same] at small
      omega
  have allowed : (Credential.bearer token).header.all (fun octet =>
      octet = 0x09 || (0x20 ≤ octet && octet < 0x7F)) = true := by
    rw [written, List.all_map, List.all_eq_true]
    intro character member
    have code := visible character member
    simp [UInt8.le_iff_toNat_le, UInt8.lt_iff_toNat_lt, octets character member, code]
  have text : (Credential.bearer token).header.map (fun octet => Char.ofNat octet.toNat) =
      "Bearer ".toList ++ token.toList := by
    rw [written, List.map_map]
    refine (List.map_congr_left fun character member => ?_).trans (List.map_id _)
    rw [Function.comp, octets character member, Char.ofNat_toNat, id]
  rw [arrived]
  simp only [MockServer.bearer?, Option.bind_eq_bind, Option.bind_some, allowed, if_true, text]
  simp

theorem isLegalHeader_of_printable (printable : isPrintableToken token = true) :
    Credential.isLegalHeader (Credential.bearer token).header = true := by
  obtain ⟨written, visible, _⟩ := header_of_printable printable
  rw [written, Credential.isLegalHeader, List.all_map, List.all_eq_true]
  intro character member
  have code := visible character member
  have octet := toNat_asciiOctet (Nat.lt_trans code.2 (by decide))
  simp [UInt8.le_iff_toNat_le, ← UInt8.toNat_inj, octet]
  omega

end Bearer

namespace Client

/-- The base of the client is the root of a server, and names no user. -/
def AtRoot (client : Client) : Prop :=
  ∃ root, Url.parse? (client.url "") = some root ∧ root.IsRoot

variable {client : Client} {path : String} {segments : List String}

theorem url_of_plain (written : path.toList = '/' :: join segments)
    (plain : ∀ segment ∈ segments, isPlainSegment segment = true) :
    client.url path = client.base ++ "/" ++ String.ofList (join segments) := by
  have dropped : path.toList.dropWhile (· = '/') = join segments := by
    rw [written, List.dropWhile_cons_of_pos rfl, dropWhile_slash_join plain]
  rw [url, Trim.leading, dropped]

theorem get?_of_plain {root : Url} (parsed : Url.parse? (client.url "") = some root)
    (isRoot : root.IsRoot) (written : path.toList = '/' :: join segments)
    (plain : ∀ segment ∈ segments, isPlainSegment segment = true) (nonempty : segments ≠ [])
    (bearer : Option String) (printable : ∀ token ∈ bearer, isPrintableToken token = true) :
    client.get? path bearer = some
      { method := "GET"
        url := { root with segments }
        credentials := (bearer.map .bearer).toList } := by
  rw [url_root] at parsed
  have reads := parse?_of_root parsed isRoot plain nonempty
  rw [← url_of_plain written plain] at reads
  have noUser : ({ root with segments } : Url).takeUser = (none, { root with segments }) :=
    takeUser_of_empty isRoot.username isRoot.password
  have built : client.request? "GET" path =
      some { method := "GET", url := { root with segments }, credentials := [] } := by
    simp [request?, reads, noUser]
  unfold get? call?
  rw [built]
  cases bearer with
  | none => rfl
  | some token => simp [attach?, isLegalHeader_of_printable (printable token rfl)]

end Client

namespace MockServer

variable {server : MockServer} {freshId : String}

/-- A path is taken apart into the segments that it is put together from. -/
theorem segments_of_path {path : String} {segments : List String}
    (written : path.toList = join ("" :: segments))
    (solid : ∀ segment ∈ segments, '/' ∉ segment.toList ∧ '?' ∉ segment.toList) :
    ((path.toList.takeWhile (· != '?')).splitOn '/').map String.ofList = "" :: segments := by
  have all : ∀ segment ∈ "" :: segments, '/' ∉ segment.toList ∧ '?' ∉ segment.toList := by
    intro segment member
    rcases List.mem_cons.mp member with rfl | among
    · simp
    · exact solid segment among
  have noMark : ∀ character ∈ join ("" :: segments), decide (character = '?') = false := by
    intro character member
    rw [decide_eq_false_iff_not]
    rintro rfl
    exact not_mem_join (by decide) (fun segment among => (all segment among).2) member
  have whole : (join ("" :: segments)).takeWhile (· != '?') = join ("" :: segments) :=
    congrArg Prod.fst (cut_of_forall noMark)
  rw [written, whole, splitOn_join (fun segment among => (all segment among).1) (by simp),
    List.map_map]
  refine (List.map_congr_left fun segment _ => ?_).trans (List.map_id _)
  rw [Function.comp, String.ofList_toList, id]

theorem segments_of_target {url : Url} (query : url.query = none)
    (plain : ∀ segment ∈ url.segments, isPlainSegment segment = true) :
    ((url.target.toList.takeWhile (· != '?')).splitOn '/').map String.ofList =
      "" :: url.segments :=
  segments_of_path (toList_target query) fun segment member =>
    ⟨not_mem_of_isPlainSegment (plain segment member) (by decide),
      not_mem_of_isPlainSegment (plain segment member) (by decide)⟩

theorem unescape?_of_plain {id : String} (plain : isPlainSegment id = true) :
    unescape? id = some id := by
  have characters : ∀ character ∈ id.toList, isPlain character = true :=
    @isPlain_of_mem [id] (by simpa using plain) id (by simp)
  have unescaped : (0x25 : UInt8) ∉ Utf8.encode id := by
    intro percent
    have inId := mem_of_asciiOctet_mem '%' (by decide) percent
    have strange := characters '%' inId
    contradiction
  rw [unescape?, Percent.decode_of_not_mem unescaped, Utf8.decode?_encode]

section Routes

variable {url : Url} (query : url.query = none)
  (plain : ∀ segment ∈ url.segments, isPlainSegment segment = true)

include query plain

theorem route?_ticket {id : String} (segments : url.segments = ["auth", id]) (other : id ≠ "check") :
    route? url.target = some (.ticket id) := by
  have nonempty : id ≠ "" := by
    have plainId := plain id (by simp [segments])
    simp only [isPlainSegment, Bool.and_eq_true, bne_iff_ne] at plainId
    exact plainId.1
  rw [route?, segments_of_target query plain, segments]
  simp only [if_neg nonempty]

theorem route?_newTicket (segments : url.segments = ["auth"]) :
    route? url.target = some .newTicket := by
  rw [route?, segments_of_target query plain, segments]
  rfl

theorem route?_check (segments : url.segments = ["auth", "check"]) :
    route? url.target = some .check := by
  rw [route?, segments_of_target query plain, segments]
  rfl

theorem route?_profile (segments : url.segments = ["profile"]) :
    route? url.target = some .profile := by
  rw [route?, segments_of_target query plain, segments]
  rfl

end Routes

theorem respond_of_route {request : Request} {route : Route}
    (target : route? request.url.target = some route) (method : request.method = "GET")
    (readable : route.methods = ["GET", "HEAD"]) :
    server.respond freshId request =
      let answered := server.handle freshId route
        (request.credentials.head?.map fun credential => arriving credential.header)
      (answered.1, ⟨answered.2.status, { octets := Utf8.encode answered.2.body }⟩) := by
  have allowed : "GET" ∈ route.methods := by
    rw [readable]
    decide
  simp [respond, serve, target, method, allowed]

/-- What comes of a request to a mock server; one that could not be built is lost. -/
def answer (server : MockServer) (freshId : String) (request : Option Request) :
    MockServer × Answer :=
  match request with
  | none => (server, .failed)
  | some request =>
    let (server, response) := server.respond freshId request
    (server, .received response)

/-- A server on which a ticket has been redeemed with a token for the account that is registered
under this token, and which checks bearers honestly. -/
structure Offers (server : MockServer) (ticket token : String) (account : MockAccount) : Prop where
  redeemed : ∃ polls,
    server.tickets.get? ticket = some ⟨polls, .redeemed token account.profileValue⟩
  registered : server.accounts.get? token = some account
  honest : server.checkStatus = none

/-- That is how things stand once a ticket has been redeemed with a registered token. -/
theorem offers_redeem {ticket token : String} {account : MockAccount} {issued : IssuedTicket}
    (known : server.tickets.get? ticket = some issued)
    (registered : server.accounts.get? token = some account) (honest : server.checkStatus = none) :
    (server.redeem ticket token).Offers ticket token account := by
  have redeemed : server.redeem ticket token =
      { server with
        tickets := server.tickets.insert ticket
          { issued with status := .redeemed token account.profileValue } } := by
    simp [redeem, changeTicket, registered, known]
  rw [redeemed]
  exact ⟨⟨issued.polls, Dictionary.get?_insert_same _ _ _⟩, registered, honest⟩

section Offers

variable {client : Client} {ticket token : String} {account : MockAccount}

/-- A request of the client for a path of plain segments is answered by the resource there. -/
theorem answer_of_route {path : String} {segments : List String} {route : Route}
    (atRoot : client.AtRoot) (written : path.toList = '/' :: join segments)
    (plain : ∀ segment ∈ segments, isPlainSegment segment = true) (nonempty : segments ≠ [])
    (bearer : Option String) (printable : ∀ token ∈ bearer, isPrintableToken token = true)
    (routed : ∀ {url : Url}, url.query = none → url.segments = segments →
      route? url.target = some route) (readable : route.methods = ["GET", "HEAD"]) :
    ∃ request, client.get? path bearer = some request ∧
      ∀ (server : MockServer) (freshId : String), server.answer freshId (some request) =
        let answered := server.handle freshId route
          (bearer.map fun token => arriving (Credential.bearer token).header)
        (answered.1, .received ⟨answered.2.status, { octets := Utf8.encode answered.2.body }⟩) := by
  obtain ⟨root, parsed, isRoot⟩ := atRoot
  have built := Client.get?_of_plain parsed isRoot written plain nonempty bearer printable
  refine ⟨_, built, fun server freshId => ?_⟩
  rw [answer, respond_of_route (routed isRoot.query rfl) rfl readable]
  cases bearer <;> rfl

/-- A request for a ticket is answered with the ticket that is issued. -/
theorem answer_newTicket (atRoot : client.AtRoot) :
    ∃ request, client.ticketRequest? = some request ∧
      ∀ (server : MockServer) (freshId : String), server.answer freshId (some request) =
        ((server.issue freshId).1, Answer.ofText (server.issue freshId).2.body) := by
  have segments : ∀ segment ∈ ["auth"], isPlainSegment segment = true := by decide
  have written : "/auth".toList = '/' :: join ["auth"] := by decide
  exact answer_of_route atRoot written segments (by simp) none (by simp)
    (fun query same => route?_newTicket query (same ▸ segments) same) rfl

theorem answer_ticket (atRoot : client.AtRoot) (plain : isPlainSegment ticket = true)
    (other : ticket ≠ "check") :
    ∃ request, client.pollRequest? ticket = some request ∧
      ∀ (server : MockServer) (freshId : String), server.answer freshId (some request) =
        ((server.poll ticket).1, .received ⟨(server.poll ticket).2.status,
          { octets := Utf8.encode (server.poll ticket).2.body }⟩) := by
  have segments : ∀ segment ∈ ["auth", ticket], isPlainSegment segment = true := by
    have auth : isPlainSegment "auth" = true := by decide
    simp [auth, plain]
  have written : ("/auth/" ++ ticket).toList = '/' :: join ["auth", ticket] := by
    simp [join, List.intercalate]
  obtain ⟨request, built, answered⟩ := answer_of_route atRoot written segments (by simp) none
    (by simp) (fun query same => route?_ticket query (same ▸ segments) same other) rfl
  refine ⟨request, built, fun server freshId => ?_⟩
  rw [answered, Option.map_none, handle, unescape?_of_plain plain]

/-- A question about the ticket is answered with the token and the profile. -/
theorem Offers.answer_poll (offers : server.Offers ticket token account) (atRoot : client.AtRoot)
    (plain : isPlainSegment ticket = true) (other : ticket ≠ "check") (freshId : String) :
    ∃ request after, client.pollRequest? ticket = some request ∧
      server.answer freshId (some request) =
        (after, Answer.ofText (statusReply (.redeemed token account.profileValue)).body) ∧
      after.Offers ticket token account := by
  obtain ⟨request, built, answered⟩ := answer_ticket atRoot plain other
  obtain ⟨polls, redeemed⟩ := offers.redeemed
  let status : TicketStatus := .redeemed token account.profileValue
  let after := { server with tickets := server.tickets.insert ticket ⟨polls + 1, status⟩ }
  have polled : server.poll ticket = (after, statusReply status) := by
    simp [poll, redeemed, after, status]
  refine ⟨request, after, built, ?_, ?_⟩
  · rw [answered, polled]
    rfl
  · exact ⟨⟨polls + 1, Dictionary.get?_insert_same _ _ _⟩, offers.registered, offers.honest⟩

theorem Offers.accountFor? (offers : server.Offers ticket token account)
    (printable : isPrintableToken token = true) :
    server.accountFor? (some (arriving (Credential.bearer token).header)) = some account := by
  rw [MockServer.accountFor?, bearer?_header printable, Option.bind_some, offers.registered]

theorem Offers.answer_check (offers : server.Offers ticket token account) (atRoot : client.AtRoot)
    (printable : isPrintableToken token = true) (freshId : String) :
    ∃ request, client.checkRequest? token = some request ∧
      server.answer freshId (some request) = (server, Answer.ofText account.reportValue.print) := by
  have segments : ∀ segment ∈ ["auth", "check"], isPlainSegment segment = true := by decide
  have written : "/auth/check".toList = '/' :: join ["auth", "check"] := by decide
  obtain ⟨request, built, answered⟩ := answer_of_route atRoot written segments
    (by simp) (some token) (by simpa using printable)
    (fun query same => route?_check query (same ▸ segments) same) rfl
  refine ⟨request, built, ?_⟩
  rw [answered, Option.map_some, handle, check, offers.honest, offers.accountFor? printable]
  rfl

theorem Offers.answer_account (offers : server.Offers ticket token account)
    (atRoot : client.AtRoot) (printable : isPrintableToken token = true) (freshId : String) :
    ∃ request, client.accountRequest? token = some request ∧
      server.answer freshId (some request) = (server, Answer.ofText account.accountValue.print) := by
  have segments : ∀ segment ∈ ["profile"], isPlainSegment segment = true := by decide
  have written : "/profile".toList = '/' :: join ["profile"] := by decide
  obtain ⟨request, built, answered⟩ := answer_of_route atRoot written segments
    (by simp) (some token) (by simpa using printable)
    (fun query same => route?_profile query (same ▸ segments) same) rfl
  refine ⟨request, built, ?_⟩
  rw [answered, Option.map_some, handle, tellAccount, offers.accountFor? printable]
  rfl

end Offers

end MockServer

end SignIn
