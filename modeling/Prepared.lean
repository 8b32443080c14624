import Prepared.Engine.Faults
import Prepared.Engine.Recording
import Prepared.Json.Data
import Prepared.Proofs.Accounts
import Prepared.Proofs.Acquire
import Prepared.Proofs.Action
import Prepared.Proofs.Bindings
import Prepared.Proofs.Cache
import Prepared.Proofs.Connection
import Prepared.Proofs.Custody
import Prepared.Proofs.Homes
import Prepared.Proofs.Isolation
import Prepared.Proofs.Leaks
import Prepared.Proofs.Lifecycle
import Prepared.Proofs.Log
import Prepared.Proofs.Lookup
import Prepared.Proofs.Move
import Prepared.Proofs.Operation
import Prepared.Proofs.Ownership
import Prepared.Proofs.Parameters
import Prepared.Proofs.Program
import Prepared.Proofs.Reference
import Prepared.Proofs.Referents
import Prepared.Proofs.Registry
import Prepared.Proofs.Requests
import Prepared.Proofs.Run
import Prepared.Proofs.Sends
import Prepared.Proofs.Shelf
import Prepared.Proofs.Slots
import Prepared.Proofs.Slotted
import Prepared.Proofs.Sound
import Prepared.Proofs.Untouched
import Prepared.Proofs.Whereabouts
import Prepared.Settings.Load
import Prepared.Sql.Dialect
import Prepared.Sql.Library
import Prepared.Sql.Open
import Prepared.Sql.Opener
import Prepared.Store.Describe
import Prepared.Proofs.Books
import Prepared.Proofs.Entries
import Prepared.Proofs.Bookkeeping
import Prepared.Proofs.Acquisition
import Prepared.Proofs.Failures
import Prepared.Proofs.Waiting
import Prepared.Proofs.Blind
import Prepared.Proofs.Stock
import Prepared.Proofs.Deferral
import Prepared.Proofs.Linked
import Prepared.Proofs.Alone
import Prepared.Proofs.Twin
import Prepared.Proofs.Steady
import Prepared.Proofs.Sole
import Prepared.Proofs.Engaged
import Prepared.Proofs.Outline
import Prepared.Proofs.Closing
import Prepared.Proofs.Obtaining
import Prepared.Proofs.Uniform
import Prepared.Proofs.Executing
import Prepared.Proofs.Transparency
import Prepared.Proofs.Misuse
import Prepared.Proofs.Receding
import Prepared.Proofs.Representation
import Prepared.Proofs.Completion
import Prepared.Proofs.Unlogged
import Prepared.Proofs.Sweep
import Prepared.Proofs.Shutdown
import Prepared.Proofs.Obtained
import Prepared.Proofs.Quiescence
import Prepared.Proofs.Attaching
import Prepared.Proofs.Recency
import Prepared.Proofs.Reuse
import Prepared.Proofs.Coding
import Prepared.Proofs.Inclusion
import Prepared.Proofs.Statistics
import Prepared.Proofs.Frame
import Prepared.Proofs.Tenure
import Prepared.Proofs.SlotTable
import Prepared.Proofs.Recorded
import Prepared.Proofs.Simulation
import Prepared.Proofs.Modifications
import Prepared.Proofs.Outcome
import Prepared.Proofs.Changes
import Prepared.Proofs.Faulty
import Prepared.Proofs.Apart
import Prepared.Proofs.Retry
import Prepared.Proofs.Classification
import Prepared.Proofs.Reporting
import Prepared.Proofs.Unknown
import Prepared.Proofs.Opening
import Prepared.Proofs.Totals
