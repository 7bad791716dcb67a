import DoubleEntry.Chart.Classification
import DoubleEntry.Identity.Basic
import DoubleEntry.Money
import DoubleEntry.Time.Writing

/-!
# Why an operation fails

`LedgerError` names the cause of a failure.  From the cause follow its code, its
kind and its message; the kind decides what a caller sees (`CallerError`) and
whether trying again may help.
-/

namespace DoubleEntry

/-! ## Causes -/

inductive PeriodFault where
  | alreadyClosed (closesAt : Instant)
  | endsBeforeStart (closesAt opensAt : Instant)
  | notAfterPosting (newStart latest : Instant)
  | stated (reason : String)
  deriving DecidableEq, Repr

inductive Contested where
  | ledger (name : String)
  | ledgerRead (id : LedgerId)
  | postings (ledger : String)
  | openLedger
  | balance (account : String) (ledger : LedgerId)
  | reservation (businessReference : String)
  | named (description : String)
  deriving DecidableEq, Repr

inductive LedgerError where
  | nonPositiveAmount (amount : Money)
  | blankReference
  | duplicateReference (reference : String)
  | reservedReference (reference : String)
  | systemAccountMismatch (reference : String) (accountType : AccountType) (purpose : Purpose)
  | insufficientEntries (count : Nat)
  | unbalancedTransaction (debit credit : Money)
  | accountingTimeOutsidePeriod (ledger : String) (time : Instant)
  | balanceLedgerMismatch (expected actual : LedgerId)
  | sameAccountTransfer (reference : String)
  | invalidPeriod (ledger : String) (fault : PeriodFault)
  | ledgerAlreadyExists (ledger : String)
  | duplicateReservation (businessReference : String)
  | unknownCode (subject : CodeSubject) (code : String)
  | overflow (cause : Overflow)
  | accountNotFound (reference : String)
  | noLedgerForInstant (time : Instant)
  | noOpenLedger
  | reservationNotFound (businessReference : String)
  | overdrawn (account ledger : String) (balance amount : Money)
  | invalidCharge (businessReference : String) (requested reserved : Money)
  | periodClosed (ledger : String)
  | concurrencyConflict (record : Contested)
  | lockTimeout (account : String)
  | store (reason : String)
  | balanceNotLoaded (key : BalanceKey)
  | internal (reason : String)
  deriving DecidableEq, Repr

inductive ErrorKind where
  | validation
  | notFound
  | business
  | conflict
  | system
  deriving DecidableEq, Repr

/-! ## Texts -/

def PeriodFault.describe : PeriodFault → String
  | alreadyClosed closesAt => s!"already closed at {closesAt}"
  | endsBeforeStart closesAt opensAt => s!"end {closesAt} must be after start {opensAt}"
  | notAfterPosting newStart latest =>
    s!"new start {newStart} is not after the last posting at {latest}"
  | stated reason => reason

def Contested.describe : Contested → String
  | .ledger name => s!"ledger {name}"
  | .ledgerRead id => s!"ledger {id}"
  | .postings name => s!"postings of ledger {name}"
  | .openLedger => "open ledger"
  | .balance account id => s!"balance of account {account} in ledger {id}"
  | .reservation businessReference => s!"reservation {businessReference}"
  | .named description => description

namespace LedgerError

def message : LedgerError → String
  | nonPositiveAmount amount => s!"Amount must be positive, got {amount}"
  | blankReference => "Account reference must not be blank"
  | duplicateReference reference => s!"Account reference already in use: {reference}"
  | reservedReference reference =>
    s!"Account reference {reference} is reserved for a system account"
  | systemAccountMismatch reference accountType purpose =>
    let shape := Coded.code accountType ++ "/" ++ Coded.code purpose
    s!"Account {reference} ({shape}) cannot serve as a system account"
  | insufficientEntries count => s!"Transaction must have at least 2 entries, got {count}"
  | unbalancedTransaction debit credit =>
    s!"Transaction is not balanced. Debit: {debit}, Credit: {credit}"
  | accountingTimeOutsidePeriod ledger time =>
    s!"Accounting time {time} is outside ledger {ledger}"
  | balanceLedgerMismatch expected actual =>
    s!"Balance belongs to ledger {actual}, transaction posts to ledger {expected}"
  | sameAccountTransfer reference => s!"Cannot transfer from account {reference} to itself"
  | invalidPeriod ledger fault =>
    s!"Invalid ledger period for {ledger}: " ++ fault.describe
  | ledgerAlreadyExists ledger => s!"A ledger already exists: {ledger}"
  | duplicateReservation businessReference =>
    s!"Reservation already exists for {businessReference}"
  | unknownCode subject code => "Unknown " ++ subject.description ++ s!" code: {code}"
  | overflow cause => cause.message
  | accountNotFound reference => s!"Account not found: {reference}"
  | noLedgerForInstant time => s!"No ledger covers {time}"
  | noOpenLedger => "No open ledger"
  | reservationNotFound businessReference => s!"Reservation not found: {businessReference}"
  | overdrawn account ledger balance amount =>
    s!"Account {account} would be overdrawn in ledger {ledger}: "
      ++ s!"balance {balance}, amount {amount}"
  | invalidCharge businessReference requested reserved =>
    s!"Charge of {requested} for {businessReference} exceeds reserved amount {reserved}"
  | periodClosed ledger => s!"Ledger {ledger} is closed, no posting allowed"
  | concurrencyConflict record =>
    "Concurrent modification of " ++ record.describe ++ ", please retry"
  | lockTimeout account => s!"Timed out waiting for lock on account {account}, please retry"
  | store reason => s!"Store error: {reason}"
  | balanceNotLoaded key =>
    s!"Internal error: balance for account {key.accountId} in ledger {key.ledgerId} not loaded"
  | internal reason => s!"Internal error: {reason}"

def code : LedgerError → String
  | nonPositiveAmount _ => "NON_POSITIVE_AMOUNT"
  | blankReference => "BLANK_REFERENCE"
  | duplicateReference _ => "DUPLICATE_REFERENCE"
  | reservedReference _ => "RESERVED_REFERENCE"
  | systemAccountMismatch .. => "SYSTEM_ACCOUNT_MISMATCH"
  | insufficientEntries _ => "INSUFFICIENT_ENTRIES"
  | unbalancedTransaction .. => "UNBALANCED_TRANSACTION"
  | accountingTimeOutsidePeriod .. => "ACCOUNTING_TIME_OUTSIDE_PERIOD"
  | balanceLedgerMismatch .. => "BALANCE_LEDGER_MISMATCH"
  | sameAccountTransfer _ => "SAME_ACCOUNT_TRANSFER"
  | invalidPeriod .. => "INVALID_PERIOD"
  | ledgerAlreadyExists _ => "LEDGER_ALREADY_EXISTS"
  | duplicateReservation _ => "DUPLICATE_RESERVATION"
  | unknownCode .. => "UNKNOWN_CODE"
  | overflow _ => "ARITHMETIC_OVERFLOW"
  | accountNotFound _ => "ACCOUNT_NOT_FOUND"
  | noLedgerForInstant _ => "NO_LEDGER_FOR_INSTANT"
  | noOpenLedger => "NO_OPEN_LEDGER"
  | reservationNotFound _ => "RESERVATION_NOT_FOUND"
  | overdrawn .. => "OVERDRAWN"
  | invalidCharge .. => "INVALID_CHARGE"
  | periodClosed _ => "PERIOD_CLOSED"
  | concurrencyConflict _ => "CONCURRENCY_CONFLICT"
  | lockTimeout _ => "LOCK_TIMEOUT"
  | store _ => "STORE_ERROR"
  | balanceNotLoaded _ | internal _ => "INTERNAL_ERROR"

def kind : LedgerError → ErrorKind
  | accountNotFound _ | noLedgerForInstant _ | noOpenLedger | reservationNotFound _ => .notFound
  | overdrawn .. | invalidCharge .. | periodClosed _ => .business
  | concurrencyConflict _ | lockTimeout _ => .conflict
  | store _ | balanceNotLoaded _ | internal _ => .system
  | _ => .validation

def isRetryable (e : LedgerError) : Bool := e.kind = .conflict

end LedgerError

def Overflow.lift {α : Type} : Except Overflow α → Except LedgerError α :=
  Except.mapError .overflow

def Coded.read {α : Type} [Coded α] (text : String) : Except LedgerError α :=
  match Coded.ofCode? text with
  | some value => .ok value
  | none => .error (.unknownCode (Coded.subject α) text)

/-! ## What a caller sees -/

inductive CallerErrorKind where
  | notFound
  | validation
  | businessRule
  | conflict
  | database
  | internal
  deriving DecidableEq, Repr

structure CallerError where
  kind : CallerErrorKind
  detail : String
  deriving DecidableEq, Repr

namespace CallerError

def message (e : CallerError) : String :=
  match e.kind with
  | .notFound => "Not found: " ++ e.detail
  | .validation => "Validation error: " ++ e.detail
  | .businessRule => "Business rule violation: " ++ e.detail
  | .conflict => "Conflict: " ++ e.detail
  | .database => "Database error: " ++ e.detail
  | .internal => "Internal error: " ++ e.detail

def isRetryable (e : CallerError) : Bool := e.kind = .conflict

end CallerError

def LedgerError.toCaller (e : LedgerError) : CallerError :=
  let kind := match e.kind with
    | .validation => CallerErrorKind.validation
    | .notFound => .notFound
    | .business => .businessRule
    | .conflict => .conflict
    | .system =>
      match e with
      | .store _ => .database
      | _ => .internal
  ⟨kind, e.message⟩

end DoubleEntry
