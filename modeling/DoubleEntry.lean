import DoubleEntry.Money
import DoubleEntry.Text.Blank
import DoubleEntry.Text.Quoted
import DoubleEntry.Identity.Basic
import DoubleEntry.Time.Reading
import DoubleEntry.Time.Writing
import DoubleEntry.Json.Reading
import DoubleEntry.Json.Writing
import DoubleEntry.Chart.LockOrder
import DoubleEntry.Book.Reservation
import DoubleEntry.Journal.Prepared
import DoubleEntry.Store.Commit
import DoubleEntry.Log.Event
import DoubleEntry.Service.Operation
import DoubleEntry.Log.Line
import DoubleEntry.Seeding
import DoubleEntry.Record.Basic
import DoubleEntry.Record.Failure
import DoubleEntry.Settings.Writing
import DoubleEntry.Program.Interleaving
import DoubleEntry.Main
import DoubleEntry.Text.Pattern.Reading
import DoubleEntry.Proofs.Outcome
import DoubleEntry.Proofs.Store.Commit
import DoubleEntry.Proofs.Text.Trimming
import DoubleEntry.Proofs.Book.CarryOver
import DoubleEntry.Proofs.Journal.Settlement
import DoubleEntry.Proofs.Lifetime
import DoubleEntry.Proofs.Serializability
import DoubleEntry.Proofs.Tiling
import DoubleEntry.Proofs.Continuity
import DoubleEntry.Proofs.TrialBalance
import DoubleEntry.Proofs.ClosedBooks
import DoubleEntry.Proofs.LostUpdates
import DoubleEntry.Proofs.StaleReads
import DoubleEntry.Proofs.Deadlock
import DoubleEntry.Proofs.Payout
import DoubleEntry.Proofs.Atomicity
import DoubleEntry.Proofs.Representation
import DoubleEntry.Proofs.Faultless
import DoubleEntry.Proofs.Backing
import DoubleEntry.Proofs.Visibility
import DoubleEntry.Proofs.Idempotence
import DoubleEntry.Proofs.Program.Consulting
import DoubleEntry.Proofs.SystemRoles
import DoubleEntry.Proofs.Program.Upholding
import DoubleEntry.Proofs.Bootstrap
import DoubleEntry.Proofs.BalanceLookup
import DoubleEntry.Proofs.Invisibility
import DoubleEntry.Proofs.Transfers
import DoubleEntry.Proofs.Reports
import DoubleEntry.Proofs.LockingOrder
import DoubleEntry.Proofs.BalancedDrafts
import DoubleEntry.Proofs.AllOrNothing
import DoubleEntry.Proofs.GrownDrafts
import DoubleEntry.Proofs.FirstFault
import DoubleEntry.Proofs.Commuting
import DoubleEntry.Proofs.Seeding
