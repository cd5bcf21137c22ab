import HostServices.Account
import HostServices.Catch.Eval
import HostServices.Catch.Expr
import HostServices.Catch.Tag
import HostServices.Catch.TagBook
import HostServices.Clock
import HostServices.Errno
import HostServices.Failure
import HostServices.Failure.Json
import HostServices.Interrupt
import HostServices.Json.Number
import HostServices.Json.Text
import HostServices.Json.Token
import HostServices.Json.Value
import HostServices.Launch.Child
import HostServices.Launch.Escape
import HostServices.Launch.FileTree
import HostServices.Launch.Floating
import HostServices.Launch.Format
import HostServices.Launch.Forwarder
import HostServices.Launch.Launcher
import HostServices.Launch.Log
import HostServices.Launch.LogFilter
import HostServices.Launch.Quotation
import HostServices.Launch.Shell.Builtin
import HostServices.Launch.Shell.Condition
import HostServices.Launch.Shell.Expansion
import HostServices.Launch.Shell.Grammar
import HostServices.Launch.Shell.Limits
import HostServices.Launch.Shell.Lookup
import HostServices.Launch.Shell.Matching
import HostServices.Launch.Shell.Options
import HostServices.Launch.Shell.Pathname
import HostServices.Launch.Shell.Process
import HostServices.Launch.Shell.Programs
import HostServices.Launch.Shell.Reader
import HostServices.Launch.Shell.Redirection
import HostServices.Launch.Shell.Run
import HostServices.Launch.Shell.Signalling
import HostServices.Launch.Shell.Simple
import HostServices.Launch.Shell.State
import HostServices.Launch.Shell.Sum
import HostServices.Launch.Shell.Token
import HostServices.Launch.Shell.Tree
import HostServices.Launch.Shell.Variables
import HostServices.Launch.Shell.World
import HostServices.Main
import HostServices.Proofs.Watch.Attendance
import HostServices.Proofs.Watch.Bookkeeping
import HostServices.Proofs.Watch.Conservation
import HostServices.Proofs.Watch.History
import HostServices.Proofs.Watch.Ledger
import HostServices.Proofs.Watch.Transition
import HostServices.Proofs.Watch.Wake
import HostServices.Services
import HostServices.Settings
import HostServices.Signal.Action
import HostServices.Signal.Basic
import HostServices.Signal.Name
import HostServices.Signal.Table
import HostServices.Text.Alphanumeric
import HostServices.Text.Blank
import HostServices.Text.CodeRange
import HostServices.Text.Numeral
import HostServices.Text.Octets
import HostServices.Text.Pattern
import HostServices.Text.Pattern.Written
import HostServices.Text.Prefix
import HostServices.Text.Quoted
import HostServices.Text.Unprintable
import HostServices.Wait.Json
import HostServices.Wait.Outcome
import HostServices.Wait.Status
import HostServices.Wait.Waiter
import HostServices.Watch.Json
import HostServices.Watch.Pipe
import HostServices.Watch.Registry
import HostServices.Watch.Rehearsal
import HostServices.Watch.Stats
import HostServices.Watch.Step
import HostServices.Watch.System
import HostServices.Proofs.Watch.Clearing
import HostServices.Proofs.Watch.Balance
import HostServices.Proofs.Watch.Dispatch
import HostServices.Proofs.Watch.Standing
import HostServices.Proofs.Watch.Failing
import HostServices.Proofs.Catch.Machine
import HostServices.Proofs.Watch.Sequence
import HostServices.Proofs.Watch.Adoption
import HostServices.Proofs.Launch.Forwarding
import HostServices.Proofs.Wait.Ways
import HostServices.Proofs.Catch.Labels
import HostServices.Proofs.Json.Number
import HostServices.Proofs.Json.Text
import HostServices.Proofs.Json.Value
import HostServices.Proofs.Json.Record
import HostServices.Proofs.Json.RoundTrip
import HostServices.Proofs.Signal.Naming
import HostServices.Proofs.Catch.Fresh
import HostServices.Proofs.Catch.Origins
import HostServices.Proofs.Wait.Attempts
import HostServices.Proofs.Wait.Layout
import HostServices.Proofs.Watch.Counters
import HostServices.Proofs.Watch.Stages
import HostServices.Proofs.Watch.Crowd
import HostServices.Proofs.Watch.Rehearsed
