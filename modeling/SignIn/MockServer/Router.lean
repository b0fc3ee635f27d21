import SignIn.MockServer.Basic
import SignIn.Text.Percent
import SignIn.Web.Message
import SignIn.Client

/-!
# The requests a mock server answers

Each resource of the mock server has one method, except that what can be read can also
be asked for without its body.  The name of a ticket or of a user is one segment of the
path and may be escaped.
-/

namespace SignIn

namespace MockServer

/-- What a mock server says. -/
structure Reply where
  status : Status
  contentType : Option String := none
  allow : Option String := none
  body : String := ""
  deriving DecidableEq, Repr

namespace Reply

def text (status : Status) (body : String) : Reply :=
  { status, body, contentType := some "text/plain; charset=utf-8" }

def document (value : Json.Value) : Reply :=
  { status := .ok, body := value.print, contentType := some "application/json" }

def invalidToken : Reply :=
  text .unauthorized "Invalid token\n"

end Reply

/-- The resources of a mock server. -/
inductive Route where
  | newTicket
  | check
  | ticket (escapedId : String)
  | profile
  | mutedUser (escapedName : String)
  deriving DecidableEq, Repr

/-- The resource that a path names, without its query. -/
def route? (path : String) : Option Route :=
  let segments := ((path.toList.takeWhile (· != '?')).splitOn '/').map String.ofList
  match segments with
  | ["", "auth"] => some .newTicket
  | ["", "auth", "check"] => some .check
  | ["", "auth", id] => if id = "" then none else some (.ticket id)
  | ["", "profile"] => some .profile
  | ["", "profile", "mutedUsers", name] => if name = "" then none else some (.mutedUser name)
  | _ => none

/-- The methods that a resource has. -/
def Route.methods : Route → List String
  | mutedUser _ => ["DELETE"]
  | _ => ["GET", "HEAD"]

/-- The bearer in the octets of a header: a text of visible ASCII, blanks and tabs that
starts with the word for it. -/
def bearer? (authorization : Option Octets) : Option String := do
  let octets ← authorization
  if octets.all fun octet => octet = 0x09 || (0x20 ≤ octet && octet < 0x7F) then
    let text := octets.map fun octet => Char.ofNat octet.toNat
    let start := "Bearer ".toList
    if start.isPrefixOf text then some (String.ofList (text.drop start.length)) else none
  else
    none

/-- The account behind the bearer in a header. -/
def accountFor? (server : MockServer) (authorization : Option Octets) :
    Option MockAccount :=
  (bearer? authorization).bind server.accounts.get?

def unescape? (segment : String) : Option String :=
  Utf8.decode? (Percent.decode (Utf8.encode segment))

/-- The refusal of a segment that is not text. -/
def brokenSegment (name : String) : Reply :=
  .text .badRequest ("Invalid URL: Invalid UTF-8 in `" ++ name ++ "`")

open Json Value in
def issue (server : MockServer) (id : String) : MockServer × Reply :=
  ({ server with
      tickets := server.tickets.insert id {}
      issued := server.issued + 1
      lastTicket := some id },
    .document (object [
      ("id", text id),
      ("url", text ("https://warpcast.com/~/sign-in-with-farcaster?channelToken=" ++ id))]))

/-- The account for which a ticket redeems itself. -/
def autoAccount : MockAccount :=
  .sample 1000 "fixture-user"

/-- The bearer with which a ticket redeems itself. -/
def autoToken (id : String) : String :=
  "fixture-token-" ++ id

open Json Value in
/-- What is said of a ticket by its status. -/
def statusReply : TicketStatus → Reply
  | .pending => { status := .noContent }
  | .failed message => .text .serverError message
  | .redeemed token profile =>
    .document (object [("authToken", text token), ("profile", profile)])

/-- Answers a question about a ticket.  A pending ticket that has been asked about
often enough is redeemed first, and its bearer registered unless there is one. -/
def poll (server : MockServer) (id : String) : MockServer × Reply :=
  match server.tickets.get? id with
  | none => (server, .text .notFound "authentication id not found\n")
  | some ticket =>
    let polls := ticket.polls + 1
    let due : Bool :=
      match ticket.status, server.autoRedeemAfter with
      | .pending, some threshold => threshold ≤ polls
      | _, _ => false
    if due then
      let status := .redeemed (autoToken id) autoAccount.profileValue
      let known := (server.accounts.get? (autoToken id)).isSome
      let told := { server with tickets := server.tickets.insert id { polls, status } }
      (if known then told else told.register (autoToken id) autoAccount,
        statusReply status)
    else
      ({ server with
          tickets := server.tickets.insert id { polls, status := ticket.status } },
        statusReply ticket.status)

open Json Value in
def check (server : MockServer) (authorization : Option Octets) : Reply :=
  match server.checkStatus with
  | some status => { status }
  | none =>
    match server.accountFor? authorization with
    | none => .invalidToken
    | some account =>
      .document (object [
        ("reputation", natural account.reputation.toNat),
        ("reputationData", account.reputationData)])

open Json Value in
def tellAccount (server : MockServer) (authorization : Option Octets) : Reply :=
  match server.accountFor? authorization with
  | none => .invalidToken
  | some account =>
    .document (object [
      ("mutedUsers", texts account.mutedUsers),
      ("reputation", natural account.reputation.toNat),
      ("reputationData", account.reputationData),
      ("user", account.userValue),
      ("warpcastApiEnabled", boolean false)])

/-- Removes a user from those muted by the account behind a bearer. -/
def unmute (server : MockServer) (username : String) (authorization : Option Octets) :
    MockServer × Reply :=
  match bearer? authorization with
  | none => (server, .invalidToken)
  | some token =>
    match server.accounts.get? token with
    | none => (server, .invalidToken)
    | some account =>
      if account.mutedUsers.contains username then
        (server.register token
          { account with mutedUsers := account.mutedUsers.filter (· != username) },
          .text .ok "ok")
      else
        (server, .text .notFound "user not muted\n")

def handle (server : MockServer) (freshId : String) (route : Route)
    (authorization : Option Octets) : MockServer × Reply :=
  match route with
  | .newTicket => server.issue freshId
  | .check => (server, server.check authorization)
  | .profile => (server, server.tellAccount authorization)
  | .ticket escaped =>
    match unescape? escaped with
    | some id => server.poll id
    | none => (server, brokenSegment "id")
  | .mutedUser escaped =>
    match unescape? escaped with
    | some username => server.unmute username authorization
    | none => (server, brokenSegment "username")

/-- Answers a request; the name for a ticket that may be issued is given. -/
def serve (server : MockServer) (freshId method path : String)
    (authorization : Option Octets) : MockServer × Reply :=
  match route? path with
  | none => (server, { status := .notFound })
  | some route =>
    if route.methods.contains method then
      let (server, reply) := server.handle freshId route authorization
      (server, if method = "HEAD" then { reply with body := "" } else reply)
    else
      (server, { status := .methodNotAllowed, allow := some (",".intercalate route.methods) })

/-- The octets of a header as they arrive: without blanks and tabs at the ends. -/
def arriving (header : Octets) : Octets :=
  let isEdge (octet : UInt8) : Bool := octet = 0x20 || octet = 0x09
  ((header.dropWhile isEdge).reverse.dropWhile isEdge).reverse

/-- Answers a request of a client, by the first credential it carries. -/
def respond (server : MockServer) (freshId : String) (request : Request) :
    MockServer × Response :=
  let authorization := request.credentials.head?.map fun credential =>
    arriving credential.header
  let (server, reply) :=
    server.serve freshId request.method request.url.target authorization
  (server, ⟨reply.status, { octets := Utf8.encode reply.body }⟩)

end MockServer

end SignIn
