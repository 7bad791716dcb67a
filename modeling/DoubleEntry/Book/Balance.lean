import DoubleEntry.Book.Ledger
import DoubleEntry.Chart.Account

/-!
# Balances

A balance is the running total of one account in one ledger.  What it started
with never changes; its end amount moves only when a transaction is applied.
-/

namespace DoubleEntry

structure Balance where
  key : BalanceKey
  reference : String
  accountType : AccountType
  purpose : Purpose
  startAmount : Money
  endAmount : Money
  version : Version
  deriving DecidableEq, Repr

namespace Balance

def opening (ledger : Ledger) (account : Account) (startAmount : Money) : Balance where
  key := ⟨ledger.id, account.id⟩
  reference := account.reference
  accountType := account.accountType
  purpose := account.purpose
  startAmount := startAmount
  endAmount := startAmount
  version := 0

def isOverdraftProtected (balance : Balance) : Bool :=
  Account.isOverdraftProtected balance.accountType balance.purpose

def projected (balance : Balance) (delta : Money) : Except LedgerError Money :=
  Overflow.lift (balance.endAmount.add delta)

def committed (balance : Balance) : Balance := { balance with version := balance.version + 1 }

end Balance

end DoubleEntry
