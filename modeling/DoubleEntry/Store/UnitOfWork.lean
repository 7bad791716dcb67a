import DoubleEntry.Sorting
import DoubleEntry.Store.Tables

/-!
# Units of work

A unit of work stages records until it is committed or dropped.  It reads its own
records before the committed ones, remembers the version of every ledger it was
given by a search, and keeps the locks it acquired.
-/

namespace DoubleEntry

structure UnitOfWork where
  guards : List AccountId
  accounts : List Account
  ledgers : Table LedgerId Ledger
  balances : Table BalanceKey Balance
  transactions : List Transaction
  reservations : Table String Reservation
  ledgerReads : Table LedgerId Version
  deriving DecidableEq, Repr

namespace UnitOfWork

def empty : UnitOfWork := ⟨[], [], ∅, ∅, [], ∅, ∅⟩

instance : Inhabited UnitOfWork := ⟨empty⟩

/-! ## Accounts, balances and reservations -/

def findAccount (work : UnitOfWork) (tables : Tables) (reference : String) : Option Account :=
  match work.accounts.find? fun account => account.reference = reference with
  | some account => some account
  | none => tables.accounts.get? reference

def saveAccount (work : UnitOfWork) (account : Account) : UnitOfWork :=
  { work with accounts := work.accounts ++ [account] }

def findBalance (work : UnitOfWork) (tables : Tables) (key : BalanceKey) : Option Balance :=
  match work.balances.get? key with
  | some balance => some balance
  | none => tables.balances.get? key

def saveBalance (work : UnitOfWork) (balance : Balance) : UnitOfWork :=
  { work with balances := work.balances.insert balance.key balance }

def findReservation (work : UnitOfWork) (tables : Tables) (businessReference : String) :
    Option Reservation :=
  match work.reservations.get? businessReference with
  | some reservation => some reservation
  | none => tables.reservations.get? businessReference

def saveReservation (work : UnitOfWork) (reservation : Reservation) : UnitOfWork :=
  { work with
    reservations := work.reservations.insert reservation.businessReference reservation }

/-! ## Ledgers -/

def ledgerView (work : UnitOfWork) (tables : Tables) : List Ledger :=
  sortBy (fun a b => a.opensAt ≤ b.opensAt) (tables.ledgers.overlay work.ledgers).values

def track (work : UnitOfWork) : Option Ledger → UnitOfWork
  | some ledger =>
    { work with ledgerReads := work.ledgerReads.insert ledger.id ledger.version }
  | none => work

def ledgerAt (work : UnitOfWork) (tables : Tables) (time : Instant) : Option Ledger :=
  (work.ledgerView tables).find? fun ledger => ledger.covers time

def openLedger (work : UnitOfWork) (tables : Tables) : Option Ledger :=
  (work.ledgerView tables).find? Ledger.isOpen

def previousLedger (work : UnitOfWork) (tables : Tables) (ledger : Ledger) : Option Ledger :=
  ((work.ledgerView tables).filter fun other => other.opensAt < ledger.opensAt).getLast?

def saveLedger (work : UnitOfWork) (ledger : Ledger) : UnitOfWork :=
  { work with ledgers := work.ledgers.insert ledger.id ledger }

/-! ## Transactions -/

def saveTransaction (work : UnitOfWork) (transaction : Transaction) : UnitOfWork :=
  { work with transactions := work.transactions ++ [transaction] }

def latestTime (ledgerId : LedgerId) (transactions : List Transaction) : Option Instant :=
  let times := (transactions.filter fun t => t.ledgerId = ledgerId).map Transaction.accountingTime
  times.foldl (fun latest time => some (latest.elim time time.latest)) none

def latestPosting (work : UnitOfWork) (tables : Tables) (ledgerId : LedgerId) :
    Option Instant :=
  latestTime ledgerId (tables.transactions ++ work.transactions)

end UnitOfWork

end DoubleEntry
