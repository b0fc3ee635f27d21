import SignIn.Client
import SignIn.CommandLine.Arguments
import SignIn.CommandLine.Run
import SignIn.CommandLine.Usage
import SignIn.Config
import SignIn.Dictionary
import SignIn.Json.Fault
import SignIn.Json.Number
import SignIn.Json.Printer
import SignIn.Json.Reader
import SignIn.Json.Record
import SignIn.Json.Scan
import SignIn.Json.Skip
import SignIn.Json.Value
import SignIn.Main
import SignIn.MockServer.Account
import SignIn.MockServer.Basic
import SignIn.MockServer.Router
import SignIn.Poller
import SignIn.Profile
import SignIn.Prompt
import SignIn.Proofs.BearerText
import SignIn.Proofs.Client
import SignIn.Proofs.Codec
import SignIn.Proofs.CommandLine.Token
import SignIn.Proofs.Credentials
import SignIn.Proofs.Dictionary
import SignIn.Proofs.Durability
import SignIn.Proofs.Joining
import SignIn.Proofs.Json.Containers
import SignIn.Proofs.Json.Filling
import SignIn.Proofs.Json.Grammar
import SignIn.Proofs.Json.Judging
import SignIn.Proofs.Json.Natural
import SignIn.Proofs.Json.Numeral
import SignIn.Proofs.Json.Reading
import SignIn.Proofs.Json.Rearranging
import SignIn.Proofs.Json.Refusing
import SignIn.Proofs.Json.Skipping
import SignIn.Proofs.Json.Text
import SignIn.Proofs.LastOperation
import SignIn.Proofs.MockServer.AutoRedeem
import SignIn.Proofs.MockServer.Bearers
import SignIn.Proofs.MockServer.History
import SignIn.Proofs.MockServer.Muting
import SignIn.Proofs.MockServer.Record
import SignIn.Proofs.MockServer.Replies
import SignIn.Proofs.MockServer.Requests
import SignIn.Proofs.MockServer.Tickets
import SignIn.Proofs.Poller
import SignIn.Proofs.Records
import SignIn.Proofs.Refusals
import SignIn.Proofs.Restoration
import SignIn.Proofs.Session
import SignIn.Proofs.Stage.Call
import SignIn.Proofs.Storage.AllOrNothing
import SignIn.Proofs.Storage.Backing
import SignIn.Proofs.Storage.FileTree
import SignIn.Proofs.Storage.Refinement
import SignIn.Proofs.Storage.Stored
import SignIn.Proofs.System.Agreement
import SignIn.Proofs.System.AutoRedeem
import SignIn.Proofs.System.Basic
import SignIn.Proofs.System.Calls
import SignIn.Proofs.System.Cancellation
import SignIn.Proofs.System.Change
import SignIn.Proofs.System.Endings
import SignIn.Proofs.System.Failure
import SignIn.Proofs.System.LinkLogin
import SignIn.Proofs.System.Lock
import SignIn.Proofs.System.Logins
import SignIn.Proofs.System.Logout
import SignIn.Proofs.System.OtherEntries
import SignIn.Proofs.System.Pollers
import SignIn.Proofs.System.Polling
import SignIn.Proofs.System.PromptPolling
import SignIn.Proofs.System.PromptTickets
import SignIn.Proofs.System.Prompts
import SignIn.Proofs.System.Provenance
import SignIn.Proofs.System.Requests
import SignIn.Proofs.System.Soundness
import SignIn.Proofs.System.Supersession
import SignIn.Proofs.System.Validation
import SignIn.Proofs.System.Yielding
import SignIn.Proofs.Text.Form
import SignIn.Proofs.Text.Percent
import SignIn.Proofs.Text.Utf8
import SignIn.Proofs.TicketPath
import SignIn.Proofs.TokenLink
import SignIn.Proofs.Tolerance
import SignIn.Proofs.Web.Path
import SignIn.Proofs.Web.Segment
import SignIn.Proofs.Web.Url
import SignIn.Proofs.Web.User
import SignIn.Reply
import SignIn.Reputation
import SignIn.Session
import SignIn.Stage.Basic
import SignIn.Stage.Call
import SignIn.Stage.Play
import SignIn.Stage.Step
import SignIn.Stage.Turn
import SignIn.Storage.Backing
import SignIn.Storage.Error
import SignIn.Storage.FileTree
import SignIn.Storage.Stored
import SignIn.Storage.Temporary
import SignIn.Text.Base64
import SignIn.Text.Form
import SignIn.Text.Numeral
import SignIn.Text.Percent
import SignIn.Text.Quoted
import SignIn.Text.Shortest
import SignIn.Text.Trim
import SignIn.Text.Utf8
import SignIn.Text.Visible
import SignIn.TokenLink
import SignIn.Web.Host
import SignIn.Web.Message
import SignIn.Web.Punycode
import SignIn.Web.Status
import SignIn.Web.Url
