import DoubleEntry.Error

/-!
# Entries and transactions

A transaction is a list of entries whose debits and credits have the same total.
It is never edited after it was posted; corrections are new transactions.
-/

namespace DoubleEntry

inductive EntryType where
  | debit
  | credit
  deriving DecidableEq, Repr

instance : Coded EntryType where
  subject := .entryType
  values := [.debit, .credit]
  code
    | .debit => "D"
    | .credit => "C"
  name
    | .debit => "debit"
    | .credit => "credit"

def EntryType.effect (entryType : EntryType) (accountType : AccountType) (amount : Money) :
    Except Overflow Money :=
  match entryType, accountType with
  | .debit, .asset | .credit, .liability => .ok amount
  | .credit, .asset | .debit, .liability => amount.neg

structure Entry where
  id : EntryId
  balance : BalanceKey
  accountId : AccountId
  accountType : AccountType
  entryType : EntryType
  amount : Money
  deriving DecidableEq, Repr

def Entry.effect (entry : Entry) : Except Overflow Money :=
  entry.entryType.effect entry.accountType entry.amount

/-- `total` is the sum of the debits and of the credits alike. -/
structure Transaction where
  id : TransactionId
  ledgerId : LedgerId
  description : String
  accountingTime : Instant
  transactionTime : Instant
  entries : List Entry
  total : Money
  deriving DecidableEq, Repr

end DoubleEntry
