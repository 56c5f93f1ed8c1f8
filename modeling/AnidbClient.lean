import AnidbClient.Calendar
import AnidbClient.Chore
import AnidbClient.CommandLine
import AnidbClient.Error
import AnidbClient.Limiter
import AnidbClient.MyList
import AnidbClient.Network
import AnidbClient.Peer.Loopback
import AnidbClient.Peer.Scripted
import AnidbClient.Proofs.Calendar
import AnidbClient.Proofs.CommandLine
import AnidbClient.Proofs.CommandLine.Login
import AnidbClient.Proofs.CommandLine.Lookup
import AnidbClient.Proofs.CommandLine.Parameters
import AnidbClient.Proofs.CommandLine.Unambiguous
import AnidbClient.Proofs.CommandLine.Untagged
import AnidbClient.Proofs.Limiter
import AnidbClient.Proofs.Peer.Scripted
import AnidbClient.Proofs.Reply
import AnidbClient.Proofs.Reply.Canned
import AnidbClient.Proofs.Reply.Grammar
import AnidbClient.Proofs.Request.Filing
import AnidbClient.Proofs.Request.Grammar
import AnidbClient.Proofs.Session.Actions
import AnidbClient.Proofs.Session.Aftermath
import AnidbClient.Proofs.Session.Attribution
import AnidbClient.Proofs.Session.Awaiting
import AnidbClient.Proofs.Session.Callers
import AnidbClient.Proofs.Session.Calls
import AnidbClient.Proofs.Session.Discipline
import AnidbClient.Proofs.Session.Ending
import AnidbClient.Proofs.Session.Expiry
import AnidbClient.Proofs.Session.InFlight
import AnidbClient.Proofs.Session.Keys
import AnidbClient.Proofs.Session.LiveKeys
import AnidbClient.Proofs.Session.Login
import AnidbClient.Proofs.Session.Logout
import AnidbClient.Proofs.Session.Outcome
import AnidbClient.Proofs.Session.Password
import AnidbClient.Proofs.Session.Provenance
import AnidbClient.Proofs.Session.Refusals
import AnidbClient.Proofs.Session.Runs
import AnidbClient.Proofs.Session.Socket
import AnidbClient.Proofs.Session.Spacing
import AnidbClient.Proofs.Session.States
import AnidbClient.Proofs.Session.Threads
import AnidbClient.Proofs.Session.Trails
import AnidbClient.Proofs.Settings.Credentials
import AnidbClient.Proofs.Settings.Layers
import AnidbClient.Proofs.Settings.Leaves
import AnidbClient.Proofs.Settings.Names
import AnidbClient.Proofs.Settings.Notation
import AnidbClient.Proofs.Settings.Written
import AnidbClient.Proofs.Text.Lines
import AnidbClient.Proofs.Text.Numeral
import AnidbClient.Proofs.Text.Padding
import AnidbClient.Proofs.Text.Pieces
import AnidbClient.Proofs.Text.Reader
import AnidbClient.Proofs.Text.Replace
import AnidbClient.Proofs.Text.Utf8
import AnidbClient.Proofs.Time.Date
import AnidbClient.Proofs.Turnstile.Acts
import AnidbClient.Proofs.Turnstile.Arithmetic
import AnidbClient.Proofs.Turnstile.Asking
import AnidbClient.Proofs.Turnstile.Fifo
import AnidbClient.Proofs.Turnstile.GivingUp
import AnidbClient.Proofs.Turnstile.Mimicry
import AnidbClient.Proofs.Turnstile.Moves
import AnidbClient.Proofs.Turnstile.Order
import AnidbClient.Proofs.Turnstile.Spacing
import AnidbClient.Proofs.Turnstile.Splitting
import AnidbClient.Proofs.Turnstile.Throttle
import AnidbClient.Proofs.Wire.Plain
import AnidbClient.Proofs.Wire.Value
import AnidbClient.Protocol
import AnidbClient.Reply
import AnidbClient.Reply.Canned
import AnidbClient.Request
import AnidbClient.Request.Answer
import AnidbClient.Request.Line
import AnidbClient.ReturnCode
import AnidbClient.Secret
import AnidbClient.Session.Connection
import AnidbClient.Session.Exchange
import AnidbClient.Session.Handler
import AnidbClient.Session.Host
import AnidbClient.Session.Threads
import AnidbClient.Settings
import AnidbClient.Settings.Error
import AnidbClient.Settings.Load
import AnidbClient.Settings.Section
import AnidbClient.Settings.Toml.Blank
import AnidbClient.Settings.Toml.Document
import AnidbClient.Settings.Toml.Moment
import AnidbClient.Settings.Toml.Number
import AnidbClient.Settings.Toml.Quoted
import AnidbClient.Settings.Toml.StandIn
import AnidbClient.Settings.Toml.Table
import AnidbClient.Settings.Toml.Value
import AnidbClient.Settings.Tree
import AnidbClient.Settings.Validity
import AnidbClient.Settings.Variable
import AnidbClient.Settings.Variable.Value
import AnidbClient.Text
import AnidbClient.Text.Blank
import AnidbClient.Text.Escape
import AnidbClient.Text.Extending
import AnidbClient.Text.Numeral
import AnidbClient.Text.Quoted
import AnidbClient.Text.Reader
import AnidbClient.Text.Unprintable
import AnidbClient.Text.Utf8
import AnidbClient.Time
import AnidbClient.Time.Clock
import AnidbClient.Time.Date
import AnidbClient.Timeline
import AnidbClient.Turnstile
import AnidbClient.Wire.Datagram
import AnidbClient.Wire.Value
