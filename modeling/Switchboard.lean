import Switchboard.Json.Reader
import Switchboard.Scenario.Play
import Switchboard.Scenario.IndexSession
import Switchboard.Scenario.CircuitSession
import Switchboard.Settings
import Switchboard.Soak
import Switchboard.CommandLine
import Switchboard.Main
import Switchboard.Proofs.Index.Matching
import Switchboard.Proofs.Index.Frame
import Switchboard.Proofs.Mint
import Switchboard.Proofs.Bus.Session
import Switchboard.Proofs.Bus.Desk
import Switchboard.Proofs.Bus.Traffic
import Switchboard.Proofs.Bus.Steps
import Switchboard.Proofs.Bus.Ledger
import Switchboard.Proofs.Bus.Calls
import Switchboard.Proofs.Bus.Mail
import Switchboard.Proofs.Bus.Listeners
import Switchboard.Proofs.Bus.Settlement
import Switchboard.Proofs.Bus.Failures
import Switchboard.Proofs.Table
import Switchboard.Proofs.Circuit.History
import Switchboard.Proofs.Circuit.Admission
import Switchboard.Proofs.Bus.Lasting
import Switchboard.Proofs.Bus.Register
import Switchboard.Proofs.Circuit.Trial
import Switchboard.Proofs.Bus.Leaks
import Switchboard.Proofs.Bus.Catalogue
import Switchboard.Proofs.Bus.Parcels
import Switchboard.Proofs.Bus.Passage
import Switchboard.Proofs.Bus.Retries
import Switchboard.Proofs.Bus.Effort
import Switchboard.Proofs.Hub.Session
import Switchboard.Proofs.Hub.Cache
import Switchboard.Proofs.Hub.Soundness
import Switchboard.Proofs.Bus.Order
import Switchboard.Proofs.Plugin.Permission
import Switchboard.Proofs.Plugin.Guard
import Switchboard.Proofs.Plugin.Registry
import Switchboard.Proofs.Caller
import Switchboard.Proofs.Plugin.Deed
import Switchboard.Proofs.Plugin.Session
import Switchboard.Proofs.Plugin.Revocation
import Switchboard.Proofs.Plugin.Confinement
import Switchboard.Proofs.Plugin.Handles
import Switchboard.Proofs.Plugin.Isolation
import Switchboard.Proofs.Fault.Envelope
import Switchboard.Proofs.Bus.Replies
import Switchboard.Proofs.Circuit.Counting
import Switchboard.Proofs.Bus.Closing
import Switchboard.Proofs.Bus.Beside
import Switchboard.Proofs.Bus.Crew
import Switchboard.Proofs.Plugin.Coverage
import Switchboard.Proofs.Bus.Addresses
import Switchboard.Proofs.Bus.Responders
import Switchboard.Proofs.Caller.Deeds
import Switchboard.Proofs.Caller.Script
import Switchboard.Proofs.Caller.Session
import Switchboard.Proofs.Caller.Counting
import Switchboard.Proofs.Caller.Following
import Switchboard.Proofs.Caller.Pacing
import Switchboard.Proofs.Caller.Retrying
import Switchboard.Proofs.Bus.Calling
import Switchboard.Proofs.Bus.Successes
import Switchboard.Proofs.Bus.Snapshot
import Switchboard.Proofs.Pattern.Grammar
import Switchboard.Proofs.Index.Canonical
import Switchboard.Proofs.Index.Figures
import Switchboard.Proofs.Index.Count
import Switchboard.Proofs.Pattern.Spelling
import Switchboard.Proofs.Hub.Announcing
import Switchboard.Proofs.Hub.Eviction
import Switchboard.Proofs.Hub.Lifecycle
import Switchboard.Proofs.Hub.Account
import Switchboard.Proofs.Hub.Fanning
import Switchboard.Proofs.Hub.Hosting
import Switchboard.Proofs.Caller.Backoff
import Switchboard.Proofs.Fault.RoundTrip
import Switchboard.Proofs.Bus.Attempts
import Switchboard.Proofs.Attempts
import Switchboard.Proofs.Bus.Draining
import Switchboard.Proofs.Plugin.Folder
import Switchboard.Proofs.Bus.Tries
