import DoubleEntry.Store.UnitOfWork

/-!
# Commit

A commit compares what was staged with the committed records as they are now.  If
nothing contradicts, all staged records are published at once, each with its
version raised by one; otherwise the tables stay as they were.  Either way the
unit of work ends and its locks are free again.
-/

namespace DoubleEntry

namespace UnitOfWork

/-! ## Checks -/

/-- No reference is in use, neither by a committed account nor by one staged before. -/
def checkAccounts (tables : Tables) : List String → List Account → Except LedgerError Unit
  | _, [] => .ok ()
  | seen, account :: accounts =>
    if tables.accounts.contains account.reference || seen.contains account.reference then
      .error (.duplicateReference account.reference)
    else checkAccounts tables (account.reference :: seen) accounts

/-- A new record must be absent, a changed one must still have the version it was read with. -/
def checkVersion (stored : Option Version) (staged : Version) (record : Contested) :
    Except LedgerError Unit :=
  let isCurrent := match stored with
    | some version => version == staged
    | none => staged == 0
  if isCurrent then .ok () else .error (.concurrencyConflict record)

def checkLedger (tables : Tables) (ledger : Ledger) : Except LedgerError Unit :=
  checkVersion ((tables.ledgers.get? ledger.id).map Ledger.version) ledger.version
    (.ledger ledger.name)

/-- A ledger that was read and not staged must have the version it was read with. -/
def checkRead (work : UnitOfWork) (tables : Tables) : LedgerId × Version → Except LedgerError Unit
  | (id, version) =>
    if work.ledgers.contains id then .ok ()
    else if (tables.ledgers.get? id).map Ledger.version = some version then .ok ()
    else .error (.concurrencyConflict (.ledgerRead id))

def checkPostings (tables : Tables) (ledger : Ledger) : Except LedgerError Unit :=
  match ledger.closesAt with
  | none => .ok ()
  | some closesAt =>
    if tables.transactions.any fun t => t.ledgerId = ledger.id && closesAt ≤ t.accountingTime then
      .error (.concurrencyConflict (.postings ledger.name))
    else .ok ()

def checkOpenLedger (work : UnitOfWork) (tables : Tables) : Except LedgerError Unit :=
  if ((tables.ledgers.overlay work.ledgers).values.countP Ledger.isOpen) ≤ 1 then .ok ()
  else .error (.concurrencyConflict .openLedger)

def checkBalance (tables : Tables) (balance : Balance) : Except LedgerError Unit :=
  checkVersion ((tables.balances.get? balance.key).map Balance.version) balance.version
    (.balance balance.reference balance.key.ledgerId)

def checkReservation (tables : Tables) (reservation : Reservation) : Except LedgerError Unit :=
  let stored := (tables.reservations.get? reservation.businessReference).map Reservation.version
  if stored.isSome && reservation.version == 0 then
    .error (.duplicateReservation reservation.businessReference)
  else checkVersion stored reservation.version (.reservation reservation.businessReference)

def check (work : UnitOfWork) (tables : Tables) : Except LedgerError Unit := do
  checkAccounts tables [] work.accounts
  work.ledgers.values.forM (checkLedger tables)
  work.ledgerReads.entries.forM (work.checkRead tables)
  work.ledgers.values.forM (checkPostings tables)
  work.checkOpenLedger tables
  work.balances.values.forM (checkBalance tables)
  work.reservations.values.forM (checkReservation tables)

/-! ## Publication -/

def publish (work : UnitOfWork) (tables : Tables) : Tables where
  accounts := work.accounts.foldl (fun t account => t.insert account.reference account)
    tables.accounts
  ledgers := work.ledgers.values.foldl (fun t ledger => t.insert ledger.id ledger.committed)
    tables.ledgers
  balances := work.balances.values.foldl (fun t balance => t.insert balance.key balance.committed)
    tables.balances
  transactions := tables.transactions ++ work.transactions
  reservations := work.reservations.values.foldl
    (fun t reservation => t.insert reservation.businessReference reservation.committed)
    tables.reservations

end UnitOfWork

namespace Store

def acquire (store : Store) (work : UnitOfWork) (account : AccountId) :
    Except LedgerError (Store × UnitOfWork) :=
  if account ∈ work.guards then .ok (store, work)
  else
    match store.locks.acquire? account with
    | some locks => .ok ({ store with locks }, { work with guards := work.guards ++ [account] })
    | none => .error (.lockTimeout (toString account))

def abandon (store : Store) (work : UnitOfWork) : Store :=
  { store with locks := store.locks.release work.guards }

def commit (store : Store) (work : UnitOfWork) : Except LedgerError Unit × Store :=
  match work.check store.tables with
  | .ok () => (.ok (), { store with tables := work.publish store.tables }.abandon work)
  | .error e => (.error e, store.abandon work)

end Store

end DoubleEntry
