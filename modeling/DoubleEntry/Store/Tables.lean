import DoubleEntry.Book.Balance
import DoubleEntry.Book.Reservation
import DoubleEntry.Journal.Entry
import DoubleEntry.Store.Locks
import DoubleEntry.Store.Table

/-!
# The record store

The store keeps the committed records in five tables, the journal of transactions
being a list in the order of the commits, and the locks of the accounts.
-/

namespace DoubleEntry

structure Tables where
  accounts : Table String Account
  ledgers : Table LedgerId Ledger
  balances : Table BalanceKey Balance
  transactions : List Transaction
  reservations : Table String Reservation
  deriving DecidableEq, Repr

def Tables.empty : Tables := ⟨∅, ∅, ∅, [], ∅⟩

instance : Inhabited Tables := ⟨Tables.empty⟩

structure Store where
  tables : Tables
  locks : Locks
  deriving DecidableEq, Repr

def Store.empty : Store := ⟨.empty, .empty⟩

instance : Inhabited Store := ⟨Store.empty⟩

end DoubleEntry
