import DoubleEntry.Program.Action

/-!
# Periods of the bank

The first ledger is opened once.  From then on one ledger is open, and closing it
opens the next one at the same instant.
-/

namespace DoubleEntry.Bank

open DoubleEntry.Action

def requireLedgerAt (time : Instant) : Action Ledger := do
  orThrow (← ledgerAt time) (.noLedgerForInstant time)

def requireOpenLedger : Action Ledger := do
  orThrow (← openLedger) .noOpenLedger

def openFirstLedger (start : Instant) : Action Ledger := do
  openWork
  if let existing :: _ ← ledgers then
    throw (.ledgerAlreadyExists existing.name)
  let ledger := Ledger.ofYear (← freshId) start
  saveLedger ledger
  commit
  record (.firstLedgerOpened ledger.name start)
  return ledger.committed

def currentLedger : Action Ledger := do
  openWork
  requireOpenLedger

/-- The next period must start after the last posting of the open ledger. -/
def closePeriodAndOpenNext (newStart : Instant) : Action Ledger := do
  openWork
  let current ← requireOpenLedger
  if let some latest ← latestPosting current.id then
    if newStart ≤ latest then
      record (.rolloverRejected current.name newStart latest)
      throw (.invalidPeriod current.name (.notAfterPosting newStart latest))
  let closed ← current.close newStart
  let next := Ledger.ofYear (← freshId) newStart
  saveLedger closed
  saveLedger next
  commit
  record (.periodRolledOver closed.name next.name newStart)
  return next.committed

end DoubleEntry.Bank
