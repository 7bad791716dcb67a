import DoubleEntry.Journal.Prepared
import DoubleEntry.Service.Balances
import DoubleEntry.Settings

/-!
# Postings of the bank

A posting moves an amount from one account to another: it debits the first and
credits the second in the ledger that covers the accounting time.  Both accounts
are locked before, and no protected balance may become negative.
-/

namespace DoubleEntry.Bank

open DoubleEntry.Action

def ensurePositive (amount : Money) : Action Unit :=
  if amount.isPositive then return else throw (.nonPositiveAmount amount)

/-- `account` and then the others, less each that follows one with the same id. -/
def dropRepeatedAfter (account : Account) : List Account → List Account
  | [] => [account]
  | next :: rest =>
    if account.id = next.id then dropRepeatedAfter account rest
    else account :: dropRepeatedAfter next rest

def dropRepeated : List Account → List Account
  | [] => []
  | account :: rest => dropRepeatedAfter account rest

def lockInOrder (refs : SystemRefs) (accounts : List Account) : Action Unit := do
  let ordered := dropRepeated (Account.sortForLocking refs accounts)
  lockAccounts (ordered.map Account.id)
  record (.accountsLocked (ordered.map Account.reference))

structure Posting where
  amount : Money
  description : String
  time : Instant
  deriving DecidableEq, Repr

def requirePostable (settings : LedgerSettings) (time : Instant) : Action Ledger := do
  let ledger ← requireLedgerAt time
  if !ledger.isOpen && !settings.allowClosedPeriodPosting then
    record (.closedPostingRejected ledger.name time)
    throw (.periodClosed ledger.name)
  return ledger

def transferDraft (ledger : Ledger) (debited credited : Balance) (posting : Posting)
    (transactionTime : Instant) : Except LedgerError Draft := do
  let draft ← ledger.draft posting.description posting.time transactionTime
  let draft ← draft.debit debited posting.amount
  draft.credit credited posting.amount

def freshPostingIds : Action PostingIds := do
  let transaction ← freshId
  let first ← freshId
  let second ← freshId
  return ⟨transaction, fun position => if position = 0 then first else second⟩

def checkOverdraft (ledger : Ledger) (prepared : Prepared) (amount : Money) (balance : Balance) :
    Action Unit := do
  if balance.isOverdraftProtected then
    let projected ← balance.projected (prepared.deltaFor balance.key)
    if projected.isNegative then
      record (.overdraftRejected balance.reference ledger.name balance.endAmount amount)
      throw (.overdrawn balance.reference ledger.name balance.endAmount amount)

def post (settings : LedgerSettings) (payer payee : Account) (posting : Posting) :
    Action Transaction := do
  let ledger ← requirePostable settings posting.time
  let debited ← loadBalance payer ledger
  let credited ← loadBalance payee ledger
  let draft ← transferDraft ledger debited credited posting (← now)
  let prepared ← draft.prepare (← freshPostingIds)
  checkOverdraft ledger prepared posting.amount debited
  checkOverdraft ledger prepared posting.amount credited
  let (transaction, balances) ← prepared.apply [debited, credited]
  balances.forM saveBalance
  saveTransaction transaction
  return transaction

def transfer (settings : LedgerSettings) (payerReference payeeReference : String)
    (posting : Posting) : Action Transaction := do
  ensurePositive posting.amount
  openWork
  let payer ← requireAccount payerReference
  let payee ← requireAccount payeeReference
  if payer.id = payee.id then
    throw (.sameAccountTransfer payer.reference)
  lockInOrder settings.refs [payer, payee]
  let transaction ← post settings payer payee posting
  commit
  record (.transferPosted transaction.id payer.reference payee.reference posting.amount)
  return transaction

def deposit (settings : LedgerSettings) (reference : String) (posting : Posting) :
    Action Transaction :=
  transfer settings settings.refs.bankingReserve reference posting

def withdraw (settings : LedgerSettings) (reference : String) (posting : Posting) :
    Action Transaction :=
  transfer settings reference settings.refs.bankingReserve posting

end DoubleEntry.Bank
