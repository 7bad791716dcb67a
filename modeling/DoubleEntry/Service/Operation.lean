import DoubleEntry.Program.Run
import DoubleEntry.Service.Holds

/-!
# Operations

Every public operation of the bank with its arguments, what it results in, and the
span in which it logs.
-/

namespace DoubleEntry

inductive Operation where
  | ensureSystemAccounts
  | createAccount (reference name : String) (accountType : AccountType) (purpose : Purpose)
  | lookupAccount (reference : String)
  | openFirstLedger (start : Instant)
  | currentLedger
  | closePeriodAndOpenNext (newStart : Instant)
  | getOrCreateBalance (account : Account) (time : Instant)
  | getBalance (reference : String) (time : Instant)
  | transfer (payer payee : String) (posting : Bank.Posting)
  | deposit (reference : String) (posting : Bank.Posting)
  | withdraw (reference : String) (posting : Bank.Posting)
  | reserve (reference businessReference : String) (posting : Bank.Posting)
  | charge (reference businessReference : String) (posting : Bank.Posting)
  | release (businessReference description : String) (time : Instant)
  deriving DecidableEq, Repr

inductive Outcome where
  | systemAccounts (accounts : Bank.SystemAccounts)
  | account (account : Account)
  | ledger (ledger : Ledger)
  | balance (balance : Balance)
  | amount (amount : Money)
  | transaction (transaction : Transaction)
  | reservation (reservation : Reservation)
  | nothingReleased
  deriving DecidableEq, Repr

namespace Operation

abbrev Result : Operation → Type
  | ensureSystemAccounts => Bank.SystemAccounts
  | createAccount .. | lookupAccount _ => Account
  | openFirstLedger _ | currentLedger | closePeriodAndOpenNext _ => Ledger
  | getOrCreateBalance .. => Balance
  | getBalance .. => Money
  | transfer .. | deposit .. | withdraw .. | charge .. => Transaction
  | reserve .. => Reservation
  | release .. => Option Transaction

def perform (settings : LedgerSettings) : (operation : Operation) → Action operation.Result
  | ensureSystemAccounts => Bank.ensureSystemAccounts settings.refs
  | createAccount reference name accountType purpose =>
    Bank.createAccount settings.refs reference name accountType purpose
  | lookupAccount reference => Bank.lookupAccount reference
  | openFirstLedger start => Bank.openFirstLedger start
  | currentLedger => Bank.currentLedger
  | closePeriodAndOpenNext newStart => Bank.closePeriodAndOpenNext newStart
  | getOrCreateBalance account time => Bank.getOrCreateBalance account time
  | getBalance reference time => Bank.getBalance reference time
  | transfer payer payee posting => Bank.transfer settings payer payee posting
  | deposit reference posting => Bank.deposit settings reference posting
  | withdraw reference posting => Bank.withdraw settings reference posting
  | reserve reference businessReference posting =>
    Bank.reserve settings reference businessReference posting
  | charge reference businessReference posting =>
    Bank.charge settings reference businessReference posting
  | release businessReference description time =>
    Bank.release settings businessReference description time

def outcome : (operation : Operation) → operation.Result → Outcome
  | ensureSystemAccounts, accounts => .systemAccounts accounts
  | createAccount .., account | lookupAccount _, account => .account account
  | openFirstLedger _, ledger | currentLedger, ledger | closePeriodAndOpenNext _, ledger =>
    .ledger ledger
  | getOrCreateBalance .., balance => .balance balance
  | getBalance .., amount => .amount amount
  | transfer .., transaction | deposit .., transaction | withdraw .., transaction
  | charge .., transaction => .transaction transaction
  | reserve .., reservation => .reservation reservation
  | release .., some transaction => .transaction transaction
  | release .., none => .nothingReleased

def action (settings : LedgerSettings) (operation : Operation) : Action Outcome :=
  operation.outcome <$> operation.perform settings

def run (surroundings : Surroundings) (settings : LedgerSettings) (operation : Operation)
    (world : World) : Except LedgerError Outcome × World :=
  (operation.action settings).run surroundings world

/-! ## Spans -/

def typeText : AccountType → String
  | .asset => "Asset"
  | .liability => "Liability"

def purposeText : Purpose → String
  | .system => "System"
  | .current => "Current"
  | .premium => "Premium"

def amountText (amount : Money) : String := "Money(" ++ toString amount ++ ")"

def transferSpan (payer payee : String) (posting : Bank.Posting) : Span :=
  ⟨"transfer", [("from_ref", payer), ("to_ref", payee), ("amount", amountText posting.amount),
    ("at", posting.time.toData)]⟩

def holdSpan (name reference businessReference : String) (posting : Bank.Posting) : Span :=
  ⟨name, [("account_ref", reference), ("amount", amountText posting.amount),
    ("business_reference", businessReference), ("at", posting.time.toData)]⟩

def span (settings : LedgerSettings) : Operation → Span
  | ensureSystemAccounts => ⟨"ensure_system_accounts", []⟩
  | createAccount reference name accountType purpose =>
    ⟨"create_account", [("reference", reference), ("name", name),
      ("account_type", typeText accountType), ("purpose", purposeText purpose)]⟩
  | lookupAccount reference => ⟨"find_account", [("reference", reference)]⟩
  | openFirstLedger start => ⟨"open_first_ledger", [("start", start.toData)]⟩
  | currentLedger => ⟨"current_ledger", []⟩
  | closePeriodAndOpenNext newStart =>
    ⟨"close_period_and_open_next", [("new_start", newStart.toData)]⟩
  | getOrCreateBalance account time =>
    ⟨"get_or_create_balance", [("account", account.reference), ("at", time.toData)]⟩
  | getBalance reference time =>
    ⟨"get_balance", [("account_ref", reference), ("at", time.toData)]⟩
  | transfer payer payee posting => transferSpan payer payee posting
  | deposit reference posting => transferSpan settings.refs.bankingReserve reference posting
  | withdraw reference posting => transferSpan reference settings.refs.bankingReserve posting
  | reserve reference businessReference posting =>
    holdSpan "reserve" reference businessReference posting
  | charge reference businessReference posting =>
    holdSpan "charge" reference businessReference posting
  | release businessReference _ time =>
    ⟨"release", [("business_reference", businessReference), ("at", time.toData)]⟩

end Operation

end DoubleEntry
