import DoubleEntry.Error

/-!
# Ledgers

A ledger is one period of the books.  It covers the instants from its opening up
to, and without, its closing; a ledger that is not closed covers all later ones.
-/

namespace DoubleEntry

/-- Counts the commits of a record; zero before the first. -/
abbrev Version := UInt64

structure Ledger where
  id : LedgerId
  name : String
  opensAt : Instant
  closesAt : Option Instant
  version : Version
  deriving DecidableEq, Repr

namespace Ledger

def create (id : LedgerId) (name : String) (opensAt : Instant) : Ledger :=
  ⟨id, name, opensAt, none, 0⟩

def ofYear (id : LedgerId) (opensAt : Instant) : Ledger :=
  create id (toString opensAt.year) opensAt

def isOpen (ledger : Ledger) : Bool := ledger.closesAt.isNone

def covers (ledger : Ledger) (time : Instant) : Bool :=
  ledger.opensAt ≤ time && ledger.closesAt.all (time < ·)

def close (ledger : Ledger) (closesAt : Instant) : Except LedgerError Ledger :=
  match ledger.closesAt with
  | some existing => .error (.invalidPeriod ledger.name (.alreadyClosed existing))
  | none =>
    if closesAt ≤ ledger.opensAt then
      .error (.invalidPeriod ledger.name (.endsBeforeStart closesAt ledger.opensAt))
    else .ok { ledger with closesAt := some closesAt }

def committed (ledger : Ledger) : Ledger := { ledger with version := ledger.version + 1 }

end Ledger

end DoubleEntry
