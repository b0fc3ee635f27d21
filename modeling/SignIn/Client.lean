import SignIn.Web.Message
import SignIn.Text.Base64
import SignIn.Text.Trim
import SignIn.Reply

/-!
# The client of a server

A client knows the base of a server's addresses and how its calls are asked and
answered.  It holds no session: which bearer goes with a call, and what a failure
means, is for the caller.
-/

namespace SignIn

namespace Credential

/-- The octets of a header that carries a credential. -/
def header : Credential → Octets
  | basic username password =>
    Utf8.encode "Basic " ++ Utf8.encodeChars (Base64.encode
      (Utf8.encode (username ++ ":" ++ password.getD "")))
  | bearer token => Utf8.encode ("Bearer " ++ token)

/-- Whether octets may stand in a header: no controls but the tab. -/
def isLegalHeader (octets : Octets) : Bool :=
  octets.all fun octet => octet = 0x09 || (0x20 ≤ octet && octet != 0x7F)

end Credential

/-- The user and the password that an address holds, and the address without them.  A
user name that is not text stays where it is. -/
def Url.takeUser (url : Url) : Option Credential × Url :=
  let plain (escaped : String) : Option String :=
    Utf8.decode? (Percent.decode (Utf8.encode escaped))
  match plain url.username with
  | none => (none, url)
  | some username =>
    let password := url.password.bind plain
    if username = "" && password.isNone then (none, url)
    else (some (.basic username password), { url with username := "", password := none })

/-- The client of the server at a base address. -/
structure Client where
  base : String
  deriving DecidableEq, Repr

namespace Client

/-- A base address without the slashes at its end. -/
def normalize (base : String) : String :=
  Trim.trailing (· = '/') base

/-- The client of the server at a base address. -/
def ofBase (base : String) : Client :=
  ⟨normalize base⟩

/-- The address of a path: base and path with one slash between them. -/
def url (client : Client) (path : String) : String :=
  client.base ++ "/" ++ Trim.leading (· = '/') path

/-- A request for a path, unless the address cannot be read or names no host. -/
def request? (client : Client) (method path : String) : Option Request := do
  let url ← Url.parse? (client.url path)
  let (user, url) := url.takeUser
  return { method, url, credentials := user.toList }

/-- A request with a bearer attached, unless it does not fit a header. -/
def attach? (request : Request) (bearer : Option String) : Option Request :=
  match bearer with
  | none => some request
  | some token =>
    let credential := Credential.bearer token
    if Credential.isLegalHeader credential.header then
      some { request with credentials := request.credentials ++ [credential] }
    else
      none

def call? (client : Client) (method path : String) (bearer : Option String)
    (body : String := "") : Option Request := do
  let request ← client.request? method path
  attach? { request with body } bearer

def get? (client : Client) (path : String) (bearer : Option String) : Option Request :=
  client.call? "GET" path bearer

def ticketRequest? (client : Client) : Option Request :=
  client.get? "/auth" none

def pollRequest? (client : Client) (ticket : String) : Option Request :=
  client.get? ("/auth/" ++ ticket) none

def checkRequest? (client : Client) (bearer : String) : Option Request :=
  client.get? "/auth/check" (some bearer)

def accountRequest? (client : Client) (bearer : String) : Option Request :=
  client.get? "/profile" (some bearer)

end Client

/-- What comes of asking once whether a ticket has been redeemed. -/
inductive PollOutcome where
  | pending
  | redeemed (redemption : Redemption)
  | failed (error : FetchError)
  deriving DecidableEq, Repr

namespace Answer

def ticket (answer : Answer) : Except FetchError Ticket :=
  answer.decode Ticket.decode

def account (answer : Answer) : Except FetchError Account :=
  answer.decode Account.decode

/-- The reputation that an answer carries.  Only the plain status of success accepts
the bearer. -/
def reputation (answer : Answer) : Except FetchError Reputation :=
  match answer with
  | failed => .error .transport
  | received response =>
    if response.status = .ok then response.decode Reputation.decodeReport
    else .error response.refusal

/-- What an answer says of a ticket: redeemed with the plain status of success, pending
when there is nothing to say, and failed with any other. -/
def poll (answer : Answer) : PollOutcome :=
  match answer with
  | failed => .failed .transport
  | received response =>
    if response.status = .ok then
      match response.decode Redemption.decode with
      | .ok redemption => .redeemed redemption
      | .error error => .failed error
    else if response.status = .noContent then .pending
    else .failed response.refusal

end Answer

end SignIn
