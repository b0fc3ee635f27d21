import SignIn.MockServer.Account
import SignIn.Dictionary
import SignIn.Web.Status

/-!
# The mock server

A server that issues tickets and knows accounts by their bearers, held in memory.
Tests redeem or fail its tickets by hand; on request it redeems every ticket by itself
once it has been asked about often enough.
-/

namespace SignIn

/-- What has become of a ticket. -/
inductive TicketStatus where
  | pending
  | redeemed (token : String) (profile : Json.Value)
  | failed (message : String)
  deriving Repr

/-- A ticket that was issued: how often it was asked about, and its status. -/
structure IssuedTicket where
  polls : Nat := 0
  status : TicketStatus := .pending
  deriving Repr

/-- A mock server. -/
structure MockServer where
  tickets : Dictionary IssuedTicket := .empty
  /-- By bearer. -/
  accounts : Dictionary MockAccount := .empty
  issued : Nat := 0
  lastTicket : Option String := none
  /-- After how many questions a ticket redeems itself. -/
  autoRedeemAfter : Option Nat := none
  /-- The status with which every check of a bearer is answered. -/
  checkStatus : Option Status := none
  deriving Repr

namespace MockServer

def register (server : MockServer) (token : String) (account : MockAccount) :
    MockServer :=
  { server with accounts := server.accounts.insert token account }

def revoke (server : MockServer) (token : String) : MockServer :=
  { server with accounts := server.accounts.erase token }

def changeAccount (server : MockServer) (token : String)
    (change : MockAccount → MockAccount) : MockServer :=
  match server.accounts.get? token with
  | some account => server.register token (change account)
  | none => server

def changeTicket (server : MockServer) (ticket : String) (status : TicketStatus) :
    MockServer :=
  match server.tickets.get? ticket with
  | some issued =>
    { server with tickets := server.tickets.insert ticket { issued with status } }
  | none => server

def setReputation (server : MockServer) (token : String) (reputation : UInt32)
    (reputationData : Json.Value) : MockServer :=
  server.changeAccount token ({ · with reputation, reputationData })

/-- Redeems a ticket with a token that is a bearer now; the profile is the one that the
account has now. -/
def redeem (server : MockServer) (ticket token : String) : MockServer :=
  match server.accounts.get? token with
  | some account => server.changeTicket ticket (.redeemed token account.profileValue)
  | none => server

/-- Redeems a ticket for an account with a token that need not be a bearer. -/
def redeemUnregistered (server : MockServer) (ticket token : String)
    (account : MockAccount) : MockServer :=
  server.changeTicket ticket (.redeemed token account.profileValue)

/-- Adds a user to those muted by the account behind a token. -/
def mute (server : MockServer) (token username : String) : MockServer :=
  server.changeAccount token fun account =>
    { account with mutedUsers := account.mutedUsers ++ [username] }

def mutedUsers (server : MockServer) (token : String) : List String :=
  ((server.accounts.get? token).map MockAccount.mutedUsers).getD []

/-- Makes every later question about a ticket fail with a message. -/
def failTicket (server : MockServer) (ticket message : String) : MockServer :=
  server.changeTicket ticket (.failed message)

/-- Answers every check of a bearer with a status, or honestly again if the code is
none of a status. -/
def setCheckStatus (server : MockServer) (code : Nat) : MockServer :=
  { server with checkStatus := Status.ofNat? code }

def pollCount (server : MockServer) (ticket : String) : Nat :=
  ((server.tickets.get? ticket).map IssuedTicket.polls).getD 0

end MockServer

end SignIn
