import MessageIntake.Metrics.Registry
import MessageIntake.Rehearsal.Attempts
import MessageIntake.Rehearsal.Broker
import MessageIntake.Rehearsal.Cast
import MessageIntake.Rehearsal.Host
import MessageIntake.Rehearsal.Server
import MessageIntake.Settings.Service
import MessageIntake.Timeout
import MessageIntake.Transport.Tracker
import MessageIntake.Proofs.Gathering
import MessageIntake.Proofs.Store.Ledger
import MessageIntake.Proofs.Store.Answers
import MessageIntake.Proofs.Persistence.Races
import MessageIntake.Proofs.Store.Transactions
import MessageIntake.Proofs.Store.Serializable
import MessageIntake.Proofs.Dispatch.Needs
import MessageIntake.Proofs.Dispatch.Redelivery
import MessageIntake.Proofs.Worker.Order
import MessageIntake.Proofs.Dispatch.Course
import MessageIntake.Proofs.Dispatch.Verdict
import MessageIntake.Proofs.Dispatch.Effect
import MessageIntake.Proofs.Worker.Turns
import MessageIntake.Proofs.Worker.Retries
import MessageIntake.Proofs.Worker.Shutdown
import MessageIntake.Proofs.Binary64.Powers
import MessageIntake.Proofs.Retry.Longest
import MessageIntake.Proofs.Settings.Accepted
import MessageIntake.Proofs.Dispatch.PollInterval
import MessageIntake.Proofs.Event.Acceptance
import MessageIntake.Proofs.Log
import MessageIntake.Proofs.Metrics.Ticks
import MessageIntake.Proofs.Dispatch.Marks
import MessageIntake.Proofs.Worker.Accounts
import MessageIntake.Proofs.Store.Deadlock
import MessageIntake.Proofs.Persistence.Protocol
import MessageIntake.Proofs.Dispatch.Routing
import MessageIntake.Proofs.Json.Strings
import MessageIntake.Proofs.Store.Commitment
import MessageIntake.Proofs.Binary64.Shortest
import MessageIntake.Proofs.Json.Numbers
import MessageIntake.Proofs.Json.Floats
import MessageIntake.Proofs.Json.Members
import MessageIntake.Proofs.Json.Values
import MessageIntake.Proofs.Json.Entries
import MessageIntake.Proofs.Letter.Contents
import MessageIntake.Proofs.Json.WrittenFloats
import MessageIntake.Proofs.Transport.Histories
import MessageIntake.Proofs.Transport.Deliveries
import MessageIntake.Proofs.Transport.Budget
import MessageIntake.Proofs.Transport.Rewinds
import MessageIntake.Proofs.Letter.Replay
import MessageIntake.Proofs.Binary64.Wholes
import MessageIntake.Proofs.Retry.Schedule
import MessageIntake.Proofs.Retry.Attempts
import MessageIntake.Proofs.Worker.Streaks
import MessageIntake.Proofs.Worker.Health
