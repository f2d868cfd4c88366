import ReportRelay.Bus
import ReportRelay.Cache
import ReportRelay.Client.Connection
import ReportRelay.Client.Error
import ReportRelay.Client.Frame
import ReportRelay.Client.Machine
import ReportRelay.Client.State
import ReportRelay.Command
import ReportRelay.Config
import ReportRelay.Decimal.Digits
import ReportRelay.Decimal.Double
import ReportRelay.Decimal.Shortest
import ReportRelay.Delivery
import ReportRelay.Escape
import ReportRelay.Group.Basic
import ReportRelay.Group.Build
import ReportRelay.Group.Find
import ReportRelay.Group.NameOrder
import ReportRelay.Group.Report
import ReportRelay.Hub
import ReportRelay.Json.Basic
import ReportRelay.Json.Printer
import ReportRelay.Json.Reader
import ReportRelay.Log
import ReportRelay.Main
import ReportRelay.Message
import ReportRelay.Network
import ReportRelay.Queue
import ReportRelay.Rehearsal.Bus
import ReportRelay.Rehearsal.Client
import ReportRelay.Rehearsal.Hub
import ReportRelay.Rehearsal.Script
import ReportRelay.Rehearsal.Stream
import ReportRelay.Relay
import ReportRelay.Report.Basic
import ReportRelay.Report.CreatedAt
import ReportRelay.Report.Decode
import ReportRelay.Report.Encode
import ReportRelay.Report.Error
import ReportRelay.Server.Address
import ReportRelay.Server.Error
import ReportRelay.Server.Route
import ReportRelay.Server.Stream
import ReportRelay.Store
import ReportRelay.Summary
import ReportRelay.Text.Blank
import ReportRelay.Text.Lower
import ReportRelay.Text.Printable
import ReportRelay.Text.Quoted
import ReportRelay.Text.Ranges
import ReportRelay.Time.Calendar
import ReportRelay.Time.Instant
import ReportRelay.Time.Rfc3339
import ReportRelay.Proofs.Bus
import ReportRelay.Proofs.Hub.Sound
import ReportRelay.Proofs.Cache
import ReportRelay.Proofs.Hub.Handed
import ReportRelay.Proofs.Hub.Delivery
import ReportRelay.Proofs.Hub.Calls
import ReportRelay.Proofs.Queue
import ReportRelay.Proofs.Relay.Moves
import ReportRelay.Proofs.Relay.Stream
import ReportRelay.Proofs.Relay.Ending
import ReportRelay.Proofs.Group.NameOrder
import ReportRelay.Proofs.Group.Trie
import ReportRelay.Proofs.Group.Nodes
import ReportRelay.Proofs.Group.Reordering
import ReportRelay.Proofs.Group.Sweep
import ReportRelay.Proofs.Group.Paths
import ReportRelay.Proofs.Group.Names
import ReportRelay.Proofs.Store.LastArrivals
import ReportRelay.Proofs.Client.Sessions
import ReportRelay.Proofs.Store.Convergence
import ReportRelay.Proofs.Client.Scripts
import ReportRelay.Proofs.Bus.Nesting
import ReportRelay.Proofs.Group.Counters
import ReportRelay.Proofs.Group.Lookup
import ReportRelay.Proofs.Client.States
import ReportRelay.Proofs.Hub.Escape
import ReportRelay.Proofs.Hub.Takers
import ReportRelay.Proofs.Hub.Isolation
import ReportRelay.Proofs.Relay.Isolation
import ReportRelay.Proofs.Client.Moves
import ReportRelay.Proofs.Client.Connections
import ReportRelay.Proofs.Report.Refusal
import ReportRelay.Proofs.Hub.Pace
import ReportRelay.Proofs.Hub.Registration
import ReportRelay.Proofs.Relay.Room
import ReportRelay.Proofs.Json.ReadBack
import ReportRelay.Proofs.Message.Frame
import ReportRelay.Proofs.Server.Moves
import ReportRelay.Proofs.Server.Rejections
import ReportRelay.Proofs.Server.Registrations
import ReportRelay.Proofs.Server.Lives
import ReportRelay.Proofs.Server.Serving
import ReportRelay.Proofs.Group.Statuses
import ReportRelay.Proofs.Group.Siblings
import ReportRelay.Proofs.Client.Requests
import ReportRelay.Proofs.Store.Contents
import ReportRelay.Proofs.Client.Frames
import ReportRelay.Proofs.Client.InFlight
import ReportRelay.Proofs.Client.Timeline
import ReportRelay.Proofs.Client.Delays
import ReportRelay.Proofs.Queue.Account
import ReportRelay.Proofs.Message.Grammar
import ReportRelay.Proofs.Json.Members
import ReportRelay.Proofs.Report.Kept
import ReportRelay.Proofs.Report.RoundTrip
import ReportRelay.Proofs.Time.Calendar
import ReportRelay.Proofs.Time.Rfc3339
import ReportRelay.Proofs.Time.Instant
import ReportRelay.Proofs.Report.CreatedAt
import ReportRelay.Proofs.Bus.Slots
import ReportRelay.Proofs.Group.ByteOrder
import ReportRelay.Proofs.Group.Arrangement
