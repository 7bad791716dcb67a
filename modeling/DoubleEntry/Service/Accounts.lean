import DoubleEntry.Chart.LockOrder
import DoubleEntry.Program.Action

/-!
# Accounts of the bank

Creating accounts and looking them up.  The three system accounts are created on
demand; no other account can take their references.
-/

namespace DoubleEntry.Bank

open DoubleEntry.Action

structure SystemAccounts where
  bankingReserve : Account
  reservations : Account
  premiums : Account
  deriving DecidableEq, Repr

def requireAccount (reference : String) : Action Account := do
  let reference := Text.trim reference
  orThrow (← findAccount reference) (.accountNotFound reference)

/-! ## System accounts -/

def isSystemAccount (accountType : AccountType) (account : Account) : Bool :=
  account.accountType = accountType && account.purpose = .system

def systemAccount (reference name : String) (accountType : AccountType) : Action Account := do
  match ← findAccount reference with
  | some account =>
    if isSystemAccount accountType account then return account
    throw (.systemAccountMismatch account.reference account.accountType account.purpose)
  | none =>
    let account ← Account.create (← freshId) (← now) reference name accountType .system
    saveAccount account
    record (.systemAccountCreated account.reference)
    return account

def loadSystemAccounts (refs : SystemRefs) : Action SystemAccounts := do
  openWork
  let bankingReserve ← systemAccount refs.bankingReserve "Banking reserve" .asset
  let reservations ← systemAccount refs.reservations "Reservations" .liability
  let premiums ← systemAccount refs.premiums "Premiums" .liability
  commit
  return { bankingReserve, reservations, premiums }

/-- The system accounts, created where they are missing.  If somebody else creates one of them
meanwhile, they are looked up once more. -/
def ensureSystemAccounts (refs : SystemRefs) : Action SystemAccounts :=
  handleError (loadSystemAccounts refs) fun
    | .duplicateReference reference => do
      record (.systemAccountsReloaded reference)
      loadSystemAccounts refs
    | e => throw e

/-! ## Accounts of customers -/

def createAccount (refs : SystemRefs) (reference name : String) (accountType : AccountType)
    (purpose : Purpose) : Action Account := do
  let account ← Account.create (← freshId) (← now) reference name accountType purpose
  if purpose ≠ .system && refs.isSystemReference account.reference then
    record (.systemReferenceRejected account.reference)
    throw (.reservedReference account.reference)
  openWork
  if (← findAccount account.reference).isSome then
    throw (.duplicateReference account.reference)
  saveAccount account
  commit
  record (.accountCreated account.id account.reference)
  return account

def lookupAccount (reference : String) : Action Account := do
  openWork
  requireAccount reference

end DoubleEntry.Bank
