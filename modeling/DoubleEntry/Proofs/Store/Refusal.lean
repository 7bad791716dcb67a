import DoubleEntry.Proofs.Store.Commit

/-!
# What a commit can still refuse

If what was staged fits the tables and what was read is current, the only reason
left to refuse a commit is a name that is in use already: the reference of an
account, or the business reference of a reservation.  Nobody is at fault for those
(`LedgerError.isFault`).
-/

namespace DoubleEntry

namespace LedgerError

def isFault (e : LedgerError) : Bool :=
  match e.kind with
  | .conflict | .system => true
  | _ =>
    match e with
    | balanceLedgerMismatch .. | accountingTimeOutsidePeriod .. | insufficientEntries _
    | unbalancedTransaction .. => true
    | _ => false

end LedgerError

theorem lift_eq_error {α : Type} {result : Except Overflow α} {e : LedgerError}
    (fails : Overflow.lift result = .error e) : e.isFault = false := by
  cases result with
  | error cause =>
      cases fails
      rfl
  | ok value => cases fails

namespace UnitOfWork

structure Current (work : UnitOfWork) (tables : Tables) : Prop where
  ledgers_fit : ∀ ledger ∈ work.ledgers.values,
    Fits ((tables.ledgers.get? ledger.id).map Ledger.version) ledger.version
  postings_inside : ∀ ledger ∈ work.ledgers.values, ∀ closesAt, ledger.closesAt = some closesAt →
    ∀ t ∈ tables.transactions, t.ledgerId = ledger.id → t.accountingTime < closesAt
  one_open : (tables.ledgers.overlay work.ledgers).values.countP Ledger.isOpen ≤ 1
  balances_fit : ∀ balance ∈ work.balances.values,
    Fits ((tables.balances.get? balance.key).map Balance.version) balance.version
  reservations_fit : ∀ reservation ∈ work.reservations.values,
    Fits ((tables.reservations.get? reservation.businessReference).map Reservation.version)
      reservation.version

variable {work : UnitOfWork} {tables : Tables} {e : LedgerError}

theorem checkAccounts_eq_error {seen : List String} {accounts : List Account}
    (refused : checkAccounts tables seen accounts = .error e) :
    ∃ reference, e = .duplicateReference reference := by
  induction accounts generalizing seen with
  | nil => cases refused
  | cons account rest ih =>
      rw [checkAccounts] at refused
      split at refused
      · cases refused
        exact ⟨account.reference, rfl⟩
      · exact ih refused

private theorem checkReservation_eq_error {reservation : Reservation}
    (fits : Fits ((tables.reservations.get? reservation.businessReference).map Reservation.version)
      reservation.version)
    (refused : checkReservation tables reservation = .error e) : e.isFault = false := by
  rw [checkReservation] at refused
  split at refused
  · cases refused
    rfl
  · rw [checkVersion_eq_ok_iff.mpr fits] at refused
    cases refused

theorem Current.of_bare {other : UnitOfWork} (same : work.bare = other.bare)
    (current : work.Current tables) : other.Current tables := by
  obtain ⟨-, ledgers, balances, -, reservations⟩ := bare_eq_bare_iff.mp same
  constructor
  · rw [← ledgers]; exact current.ledgers_fit
  · rw [← ledgers]; exact current.postings_inside
  · rw [← ledgers]; exact current.one_open
  · rw [← balances]; exact current.balances_fit
  · rw [← reservations]; exact current.reservations_fit

theorem Current.acceptable_of_new (current : work.Current tables)
    (accounts_new : ∀ account ∈ work.accounts, tables.accounts.get? account.reference = none)
    (references_nodup : (work.accounts.map Account.reference).Nodup)
    (reservations_new : ∀ reservation ∈ work.reservations.values,
      ¬ ((tables.reservations.get? reservation.businessReference).isSome ∧
        reservation.version = 0)) (unread : work.ledgerReads = ∅) :
    work.Acceptable tables where
  accounts_new := accounts_new
  references_nodup := references_nodup
  ledgers_fit := current.ledgers_fit
  reads_current := by simp [unread]
  postings_inside := current.postings_inside
  one_open := current.one_open
  balances_fit := current.balances_fit
  reservations_fit reservation member :=
    ⟨reservations_new reservation member, current.reservations_fit reservation member⟩

theorem Current.acceptable (current : work.Current tables) (accounts : work.accounts = [])
    (reservations : work.reservations = ∅) (unread : work.ledgerReads = ∅) :
    work.Acceptable tables :=
  current.acceptable_of_new (by simp [accounts]) (by simp [accounts]) (by simp [reservations])
    unread

theorem Current.refusal (current : work.Current tables) (reads : work.ReadsCurrent tables)
    (refused : work.check tables = .error e) : e.isFault = false := by
  have ledgers : work.ledgers.values.forM (checkLedger tables) = .ok () :=
    forM_eq_ok_iff.mpr fun ledger member =>
      checkVersion_eq_ok_iff.mpr (current.ledgers_fit ledger member)
  have read : work.ledgerReads.entries.forM (work.checkRead tables) = .ok () :=
    forM_eq_ok_iff.mpr fun entry member => checkRead_eq_ok_iff.mpr (.inr (reads entry member))
  have postings : work.ledgers.values.forM (checkPostings tables) = .ok () :=
    forM_eq_ok_iff.mpr fun ledger member =>
      checkPostings_eq_ok_iff.mpr (current.postings_inside ledger member)
  have oneOpen : work.checkOpenLedger tables = .ok () :=
    checkOpenLedger_eq_ok_iff.mpr current.one_open
  have balances : work.balances.values.forM (checkBalance tables) = .ok () :=
    forM_eq_ok_iff.mpr fun balance member =>
      checkVersion_eq_ok_iff.mpr (current.balances_fit balance member)
  rw [check, ledgers, read, postings, oneOpen, balances, bind_eq_error_iff] at refused
  rcases refused with refused | ⟨-, -, refused⟩
  · obtain ⟨_, rfl⟩ := checkAccounts_eq_error refused
    rfl
  · obtain ⟨reservation, member, refused⟩ := forM_eq_error refused
    exact checkReservation_eq_error (current.reservations_fit reservation member) refused

end UnitOfWork

end DoubleEntry
