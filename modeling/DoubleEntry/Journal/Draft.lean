import DoubleEntry.Book.Balance
import DoubleEntry.Journal.Entry

/-!
# Drafts

A draft collects the lines of a transaction before it is posted.  `totals` says
whether the lines make up a transaction: at least two of them, every amount
positive, the sums representable, and debits equal to credits.  A draft can be
written down at once or grown line by line from a ledger (`Ledger.draft`,
`Draft.debit`, `Draft.credit`).
-/

namespace DoubleEntry

structure Line where
  balance : BalanceKey
  accountType : AccountType
  entryType : EntryType
  amount : Money
  deriving DecidableEq, Repr

structure Draft where
  ledgerId : LedgerId
  description : String
  accountingTime : Instant
  transactionTime : Instant
  lines : List Line
  deriving DecidableEq, Repr

/-! ## Totals -/

structure Totals where
  debit : Money
  credit : Money
  deriving DecidableEq, Repr

namespace Totals

def isBalanced (totals : Totals) : Bool := totals.debit = totals.credit

def count (totals : Totals) (line : Line) : Except LedgerError Totals := do
  if !line.amount.isPositive then
    throw (.nonPositiveAmount line.amount)
  match line.entryType with
  | .debit => return { totals with debit := ← Overflow.lift (totals.debit.add line.amount) }
  | .credit => return { totals with credit := ← Overflow.lift (totals.credit.add line.amount) }

def ofLines (lines : List Line) : Except LedgerError Totals := do
  if lines.length < 2 then
    throw (.insufficientEntries lines.length)
  let totals ← lines.foldlM count ⟨.zero, .zero⟩
  if totals.isBalanced then return totals
  throw (.unbalancedTransaction totals.debit totals.credit)

end Totals

/-! ## Growing a draft -/

def Ledger.draft (ledger : Ledger) (description : String)
    (accountingTime transactionTime : Instant) : Except LedgerError Draft :=
  if ledger.covers accountingTime then
    .ok ⟨ledger.id, description, accountingTime, transactionTime, []⟩
  else .error (.accountingTimeOutsidePeriod ledger.name accountingTime)

namespace Draft

def post (draft : Draft) (entryType : EntryType) (balance : Balance) (amount : Money) :
    Except LedgerError Draft :=
  if !amount.isPositive then .error (.nonPositiveAmount amount)
  else if balance.key.ledgerId ≠ draft.ledgerId then
    .error (.balanceLedgerMismatch draft.ledgerId balance.key.ledgerId)
  else
    let line : Line := ⟨balance.key, balance.accountType, entryType, amount⟩
    .ok { draft with lines := draft.lines ++ [line] }

def debit (draft : Draft) (balance : Balance) (amount : Money) : Except LedgerError Draft :=
  draft.post .debit balance amount

def credit (draft : Draft) (balance : Balance) (amount : Money) : Except LedgerError Draft :=
  draft.post .credit balance amount

end Draft

end DoubleEntry
