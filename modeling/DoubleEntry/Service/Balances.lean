import DoubleEntry.Service.Accounts
import DoubleEntry.Service.Periods

/-!
# Balances of the bank

The balance of an account in a ledger is created when it is first needed.  It
starts with what the account had in the most recent earlier ledger that holds a
balance of it.
-/

namespace DoubleEntry.Bank

open DoubleEntry.Action

/-- Looks for a balance in the ledgers before `ledger`, the most recent first.  Every step goes
to an earlier instant, and `steps` instants are before the opening of the first one. -/
def carriedFrom (accountId : AccountId) : (steps : Nat) → (ledger : Ledger) → Action Money
  | 0, _ => return .zero
  | steps + 1, ledger => do
    match ← previousLedger ledger with
    | none => return .zero
    | some previous =>
      match ← findBalance ⟨previous.id, accountId⟩ with
      | some balance => return balance.endAmount
      | none => carriedFrom accountId steps previous

def carriedAmount (accountId : AccountId) (ledger : Ledger) : Action Money :=
  carriedFrom accountId ledger.opensAt.rank ledger

def newBalance (account : Account) (ledger : Ledger) : Action Balance := do
  let startAmount ← carriedAmount account.id ledger
  record (.balanceCreated account.reference ledger.name startAmount)
  return Balance.opening ledger account startAmount

/-- The stored balance, or a new one that is not saved yet. -/
def loadBalance (account : Account) (ledger : Ledger) : Action Balance := do
  match ← findBalance ⟨ledger.id, account.id⟩ with
  | some balance => return balance
  | none => newBalance account ledger

def getOrCreateBalance (account : Account) (time : Instant) : Action Balance := do
  openWork
  lockAccounts [account.id]
  let ledger ← requireLedgerAt time
  match ← findBalance ⟨ledger.id, account.id⟩ with
  | some balance => return balance
  | none =>
    let balance ← newBalance account ledger
    saveBalance balance
    commit
    return balance.committed

/-- The amount at `time`; a missing balance is not created. -/
def getBalance (reference : String) (time : Instant) : Action Money := do
  openWork
  let account ← requireAccount reference
  let ledger ← requireLedgerAt time
  match ← findBalance ⟨ledger.id, account.id⟩ with
  | some balance => return balance.endAmount
  | none => carriedAmount account.id ledger

end DoubleEntry.Bank
