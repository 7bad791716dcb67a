import DoubleEntry.Book.Reservation
import DoubleEntry.Text.Quoted

/-!
# Log events

Every event carries what happened as typed data.  Its level, its source, its
message and its named fields follow from it.
-/

namespace DoubleEntry

inductive Level where
  | error
  | warn
  | info
  | debug
  | trace
  deriving DecidableEq, Repr

inductive Source where
  | service
  | store
  | seeding
  deriving DecidableEq, Repr

inductive Event where
  | systemAccountCreated (reference : String)
  | systemAccountsReloaded (reference : String)
  | systemReferenceRejected (reference : String)
  | accountCreated (account : AccountId) (reference : String)
  | firstLedgerOpened (ledger : String) (start : Instant)
  | rolloverRejected (ledger : String) (newStart latest : Instant)
  | periodRolledOver (closed opened : String) (start : Instant)
  | accountsLocked (references : List String)
  | balanceCreated (account ledger : String) (startAmount : Money)
  | closedPostingRejected (ledger : String) (time : Instant)
  | overdraftRejected (account ledger : String) (balance amount : Money)
  | transferPosted (transaction : TransactionId) (payer payee : String) (amount : Money)
  | amountReserved (transaction : TransactionId) (businessReference payer : String)
      (amount : Money)
  | chargeRejected (businessReference : String) (amount remaining : Money)
  | reservationCharged (transaction : TransactionId) (businessReference beneficiary : String)
      (amount : Money) (status : ReservationStatus)
  | nothingToRelease (businessReference : String)
  | reservationReleased (transaction : TransactionId) (businessReference payer : String)
      (amount : Money)
  | workCommitted (transactions locks : Nat)
  | systemAccountsReady (bankingReserve reservations premiums : String)
  | ledgerOpened (ledger : String)
  | sampleReservationSettled (released : Bool)
  | balanceReported (account : String) (accountType : AccountType) (start stop : Money)
  | seedingComplete (transactions : Nat)
  | seedingFailed (code : String) (retryable : Bool) (error : String)
  deriving DecidableEq, Repr

/-- A field is shown as it is (`shown`) or is a text, a number or a flag of its own. -/
inductive Field where
  | shown (text : String)
  | text (value : String)
  | number (value : Nat)
  | flag (value : Bool)
  deriving DecidableEq, Repr

def Field.display {α : Type} [ToString α] (value : α) : Field := .shown (toString value)

def Level.name : Level → String
  | .error => "ERROR"
  | .warn => "WARN"
  | .info => "INFO"
  | .debug => "DEBUG"
  | .trace => "TRACE"

def Source.target : Source → String
  | .service => "banker_core::ledger::service"
  | .store => "banker_store::memory"
  | .seeding => "seeder"

namespace Event

def level : Event → Level
  | systemAccountsReloaded _ | accountsLocked _ | balanceCreated .. | nothingToRelease _
  | workCommitted .. => .debug
  | systemReferenceRejected _ | rolloverRejected .. | closedPostingRejected ..
  | overdraftRejected .. | chargeRejected .. => .warn
  | seedingFailed .. => .error
  | _ => .info

def source : Event → Source
  | workCommitted .. => .store
  | systemAccountsReady .. | ledgerOpened _ | sampleReservationSettled _ | balanceReported ..
  | seedingComplete _ | seedingFailed .. => .seeding
  | _ => .service

def message : Event → String
  | systemAccountCreated _ => "system account created"
  | systemAccountsReloaded _ => "system account created concurrently, reloading"
  | systemReferenceRejected _ => "system reference rejected"
  | accountCreated .. => "account created"
  | firstLedgerOpened .. => "first ledger opened"
  | rolloverRejected .. => "rollover before last posting rejected"
  | periodRolledOver .. => "ledger period rolled over"
  | accountsLocked _ => "accounts locked"
  | balanceCreated .. => "balance created"
  | closedPostingRejected .. => "posting into closed ledger rejected"
  | overdraftRejected .. => "overdraft rejected"
  | transferPosted .. => "transfer posted"
  | amountReserved .. => "amount reserved"
  | chargeRejected .. => "charge rejected"
  | reservationCharged .. => "reservation charged"
  | nothingToRelease _ => "nothing to release"
  | reservationReleased .. => "reservation released"
  | workCommitted .. => "store transaction committed"
  | systemAccountsReady .. => "System accounts ready"
  | ledgerOpened _ => "Ledger opened"
  | sampleReservationSettled _ => "Sample reservation settled"
  | balanceReported .. => "Balance"
  | seedingComplete _ => "Seeding complete"
  | seedingFailed .. => "Seeding failed"

def fields : Event → List (String × Field)
  | systemAccountCreated reference | systemAccountsReloaded reference
  | systemReferenceRejected reference => [("reference", .shown reference)]
  | accountCreated account reference =>
    [("account_id", .display account), ("reference", .shown reference)]
  | firstLedgerOpened ledger start => [("ledger", .shown ledger), ("start", .display start)]
  | rolloverRejected ledger newStart latest =>
    [("ledger", .shown ledger), ("new_start", .display newStart), ("latest", .display latest)]
  | periodRolledOver closed opened start =>
    [("closed", .shown closed), ("opened", .shown opened), ("start", .display start)]
  | accountsLocked references => [("accounts", .shown (Text.quotedList references))]
  | balanceCreated account ledger startAmount =>
    [("account", .shown account), ("ledger", .shown ledger),
      ("start_amount", .display startAmount)]
  | closedPostingRejected ledger time => [("ledger", .shown ledger), ("at", .display time)]
  | overdraftRejected account ledger balance amount =>
    [("account", .shown account), ("ledger", .shown ledger), ("balance", .display balance),
      ("amount", .display amount)]
  | transferPosted transaction payer payee amount =>
    [("transaction_id", .display transaction), ("from", .shown payer), ("to", .shown payee),
      ("amount", .display amount)]
  | amountReserved transaction businessReference payer amount =>
    [("transaction_id", .display transaction), ("business_reference", .shown businessReference),
      ("payer", .shown payer), ("amount", .display amount)]
  | chargeRejected businessReference amount remaining =>
    [("business_reference", .shown businessReference), ("amount", .display amount),
      ("remaining", .display remaining)]
  | reservationCharged transaction businessReference beneficiary amount status =>
    [("transaction_id", .display transaction), ("business_reference", .shown businessReference),
      ("beneficiary", .shown beneficiary), ("amount", .display amount),
      ("status", .text (Coded.code status))]
  | nothingToRelease businessReference => [("business_reference", .shown businessReference)]
  | reservationReleased transaction businessReference payer amount =>
    [("transaction_id", .display transaction), ("business_reference", .shown businessReference),
      ("payer", .shown payer), ("amount", .display amount)]
  | workCommitted transactions locks =>
    [("transactions", .number transactions), ("locks", .number locks)]
  | systemAccountsReady bankingReserve reservations premiums =>
    [("banking_reserve", .shown bankingReserve), ("reservations", .shown reservations),
      ("premiums", .shown premiums)]
  | ledgerOpened ledger => [("ledger", .shown ledger)]
  | sampleReservationSettled released => [("released", .flag released)]
  | balanceReported account accountType start stop =>
    [("account", .shown account), ("account_type", .text (Coded.code accountType)),
      ("start", .display start), ("end", .display stop)]
  | seedingComplete transactions => [("transactions", .number transactions)]
  | seedingFailed code retryable error =>
    [("code", .text code), ("retryable", .flag retryable), ("error", .shown error)]

end Event

end DoubleEntry
