import SignIn.Web.Status
import SignIn.Web.Url
import SignIn.Json.Fault

/-!
# Requests, answers and what can go wrong between them

A request names a resource and may carry credentials.  Its answer is a response with
a status and a body, or no response at all.  Whatever refuses a request is told in one
normal form: the status and a message without line breaks that is never empty.
-/

namespace SignIn

/-- What a request proves its sender with. -/
inductive Credential where
  | basic (username : String) (password : Option String)
  | bearer (token : String)
  deriving DecidableEq, Repr

/-- A request as it is sent; the credentials are in the order in which they were
attached. -/
structure Request where
  method : String
  url : Url
  credentials : List Credential
  body : String := ""
  deriving DecidableEq, Repr

/-- A body: its octets, and whether all that were announced have come. -/
structure Body where
  octets : Octets
  complete : Bool := true
  deriving DecidableEq, Repr

structure Response where
  status : Status
  body : Body
  deriving DecidableEq, Repr

/-- What comes of a request: a response, or none. -/
inductive Answer where
  | received (response : Response)
  | failed
  deriving DecidableEq, Repr

/-- A request that a server refused. -/
structure RequestError where
  status : Status
  message : String
  deriving DecidableEq, Repr

namespace RequestError

/-- A text without its line breaks. -/
def unbroken (text : String) : String :=
  String.ofList (text.toList.filter fun character =>
    character != '\n' && character != '\r')

/-- The refusal told by a status and the text of a body: the text without line breaks,
or else the phrase of the status, or else its digits. -/
def ofText (status : Status) (text : String) : RequestError :=
  let message := unbroken text
  ⟨status,
    if message = "" then status.phrase?.getD (toString status.code) else message⟩

end RequestError

/-- What can go wrong with one call: the server refuses, nothing comes back, or what
comes back cannot be read. -/
inductive FetchError where
  | refused (error : RequestError)
  | transport
  | undecodable (error : Json.DecodeError)
  deriving DecidableEq, Repr

namespace FetchError

def message : FetchError → String
  | refused error => error.message
  | transport => "network error"
  | undecodable error => "unexpected response body: " ++ error.message

def status? : FetchError → Option Status
  | refused error => some error.status
  | transport => none
  | undecodable _ => none

def chain (error : FetchError) : List String :=
  match error with
  | undecodable inner => [error.message, inner.message]
  | _ => [error.message]

end FetchError

namespace Response

/-- The text of a body as far as a message is concerned: a body that broke off has
none. -/
def text (response : Response) : String :=
  if response.body.complete then Utf8.decodeLossy response.body.octets else ""

def octets (response : Response) : Except FetchError Octets :=
  if response.body.complete then .ok response.body.octets else .error .transport

/-- A response told as a refusal. -/
def refusal (response : Response) : FetchError :=
  .refused (.ofText response.status response.text)

def decode {α : Type} (decoder : Octets → Except Json.DecodeError α)
    (response : Response) : Except FetchError α :=
  match response.octets with
  | .error error => .error error
  | .ok octets => (decoder octets).mapError .undecodable

end Response

namespace Answer

/-- The response, whatever its status. -/
def any : Answer → Except FetchError Response
  | received response => .ok response
  | failed => .error .transport

def success (answer : Answer) : Except FetchError Response :=
  match answer with
  | received response =>
    if response.status.isSuccess then .ok response else .error response.refusal
  | failed => .error .transport

def decode {α : Type} (decoder : Octets → Except Json.DecodeError α)
    (answer : Answer) : Except FetchError α :=
  match answer.success with
  | .ok response => response.decode decoder
  | .error error => .error error

end Answer

end SignIn
