import DoubleEntry.Proofs.Outcome
import DoubleEntry.Proofs.Store.Table
import DoubleEntry.Store.Commit

/-!
# What a commit accepts and publishes

`check_eq_ok_iff` takes the checks of a commit apart into the conditions that they
test.  What is published depends on the staged records alone, and so do all
conditions but the one on the ledgers that were read (`Acceptable.of_bare`).
-/

namespace DoubleEntry.UnitOfWork

def bare (work : UnitOfWork) : UnitOfWork := { work with guards := [], ledgerReads := ∅ }

theorem bare_eq_bare_iff {work other : UnitOfWork} : work.bare = other.bare ↔
    work.accounts = other.accounts ∧ work.ledgers = other.ledgers ∧
      work.balances = other.balances ∧ work.transactions = other.transactions ∧
      work.reservations = other.reservations := by
  simp [bare]

/-- A staged version fits: it is that of the stored record, or zero if there is none. -/
def Fits (stored : Option Version) (staged : Version) : Prop :=
  match stored with
  | some version => version = staged
  | none => staged = 0

def ReadsCurrent (work : UnitOfWork) (tables : Tables) : Prop :=
  ∀ entry ∈ work.ledgerReads.entries,
    (tables.ledgers.get? entry.1).map Ledger.version = some entry.2

structure Acceptable (work : UnitOfWork) (tables : Tables) : Prop where
  accounts_new : ∀ account ∈ work.accounts, tables.accounts.get? account.reference = none
  references_nodup : (work.accounts.map Account.reference).Nodup
  ledgers_fit : ∀ ledger ∈ work.ledgers.values,
    Fits ((tables.ledgers.get? ledger.id).map Ledger.version) ledger.version
  reads_current : ∀ entry ∈ work.ledgerReads.entries, work.ledgers.contains entry.1 = true ∨
    (tables.ledgers.get? entry.1).map Ledger.version = some entry.2
  postings_inside : ∀ ledger ∈ work.ledgers.values, ∀ closesAt, ledger.closesAt = some closesAt →
    ∀ t ∈ tables.transactions, t.ledgerId = ledger.id → t.accountingTime < closesAt
  one_open : (tables.ledgers.overlay work.ledgers).values.countP Ledger.isOpen ≤ 1
  balances_fit : ∀ balance ∈ work.balances.values,
    Fits ((tables.balances.get? balance.key).map Balance.version) balance.version
  reservations_fit : ∀ reservation ∈ work.reservations.values,
    ¬ ((tables.reservations.get? reservation.businessReference).isSome ∧
      reservation.version = 0) ∧
    Fits ((tables.reservations.get? reservation.businessReference).map Reservation.version)
      reservation.version

/-! ## The checks one by one -/

theorem checkAccounts_eq_ok_iff {tables : Tables} {seen : List String} {accounts : List Account} :
    checkAccounts tables seen accounts = .ok () ↔
      (∀ account ∈ accounts, tables.accounts.get? account.reference = none ∧
        account.reference ∉ seen) ∧
      (accounts.map Account.reference).Nodup := by
  induction accounts generalizing seen with
  | nil => simp [checkAccounts]
  | cons account accounts ih =>
      rw [checkAccounts]
      split
      next refused =>
        simp only [Bool.or_eq_true, List.contains_iff_mem, Table.contains,
          Option.isSome_iff_ne_none] at refused
        simp only [List.mem_cons, forall_eq_or_imp, reduceCtorEq, false_iff, not_and]
        intro fine
        rcases refused with taken | repeated
        · exact absurd fine.1.1 taken
        · exact absurd repeated fine.1.2
      next free =>
        simp only [Bool.or_eq_true, not_or, Bool.not_eq_true, Table.contains_eq_false_iff,
          List.contains_iff_mem] at free
        rw [ih]
        simp only [List.mem_cons, not_or, List.map_cons, List.nodup_cons, forall_eq_or_imp,
          List.mem_map, not_exists, not_and]
        constructor
        · rintro ⟨others, nodup⟩
          exact ⟨⟨⟨free.1, by simpa using free.2⟩, fun a h => ⟨(others a h).1, (others a h).2.2⟩⟩,
            fun a h => (others a h).2.1, nodup⟩
        · rintro ⟨⟨_, others⟩, differs, nodup⟩
          exact ⟨fun a h => ⟨(others a h).1, differs a h, (others a h).2⟩, nodup⟩

theorem checkVersion_eq_ok_iff {stored : Option Version} {staged : Version} {record : Contested} :
    checkVersion stored staged record = .ok () ↔ Fits stored staged := by
  cases stored <;> simp [checkVersion, Fits]

theorem checkRead_eq_ok_iff {work : UnitOfWork} {tables : Tables} {entry : LedgerId × Version} :
    work.checkRead tables entry = .ok () ↔ work.ledgers.contains entry.1 = true ∨
      (tables.ledgers.get? entry.1).map Ledger.version = some entry.2 := by
  rw [checkRead]
  split
  next staged => simp [staged]
  next unstaged => split <;> simp_all

theorem checkPostings_eq_ok_iff {tables : Tables} {ledger : Ledger} :
    checkPostings tables ledger = .ok () ↔ ∀ closesAt, ledger.closesAt = some closesAt →
      ∀ t ∈ tables.transactions, t.ledgerId = ledger.id → t.accountingTime < closesAt := by
  rw [checkPostings]
  cases ledger.closesAt with
  | none => simp
  | some closesAt =>
      simp only [Option.some.injEq, forall_eq']
      split
      next late =>
        simp only [List.any_eq_true, Bool.and_eq_true, decide_eq_true_eq] at late
        obtain ⟨t, member, same, after⟩ := late
        simp only [reduceCtorEq, false_iff]
        intro inside
        exact Nat.lt_irrefl _ (Nat.lt_of_lt_of_le (inside t member same) after)
      next early =>
        simpa [Instant.lt_def, Instant.le_def] using early

theorem checkOpenLedger_eq_ok_iff {work : UnitOfWork} {tables : Tables} :
    work.checkOpenLedger tables = .ok () ↔
      (tables.ledgers.overlay work.ledgers).values.countP Ledger.isOpen ≤ 1 := by
  rw [checkOpenLedger]
  split <;> simp_all

private theorem checkReservation_eq_ok_iff {tables : Tables} {reservation : Reservation} :
    checkReservation tables reservation = .ok () ↔
      ¬ ((tables.reservations.get? reservation.businessReference).isSome ∧
        reservation.version = 0) ∧
      Fits ((tables.reservations.get? reservation.businessReference).map Reservation.version)
        reservation.version := by
  rw [checkReservation]
  cases tables.reservations.get? reservation.businessReference with
  | none => simp [checkVersion_eq_ok_iff]
  | some stored =>
      by_cases new : reservation.version = 0 <;> simp [new, checkVersion_eq_ok_iff]

theorem check_eq_ok_iff {work : UnitOfWork} {tables : Tables} :
    work.check tables = .ok () ↔ work.Acceptable tables := by
  simp only [check, then_eq_ok_iff, List.forM_eq_forM, forM_eq_ok_iff, checkAccounts_eq_ok_iff,
    checkLedger, checkBalance, checkVersion_eq_ok_iff, checkRead_eq_ok_iff,
    checkPostings_eq_ok_iff, checkOpenLedger_eq_ok_iff, checkReservation_eq_ok_iff]
  constructor
  · rintro ⟨⟨new, nodup⟩, fit, current, inside, one, balances, reservations⟩
    exact ⟨fun a h => (new a h).1, nodup, fit, current, inside, one, balances, reservations⟩
  · intro h
    exact ⟨⟨fun a member => ⟨h.accounts_new a member, by simp⟩, h.references_nodup⟩,
      h.ledgers_fit, h.reads_current, h.postings_inside, h.one_open, h.balances_fit,
      h.reservations_fit⟩

/-! ## Only the staged records count -/

theorem Acceptable.of_bare {work other : UnitOfWork} {tables : Tables}
    (same : work.bare = other.bare) (acceptable : work.Acceptable tables)
    (current : other.ReadsCurrent tables) : other.Acceptable tables := by
  obtain ⟨accounts, ledgers, balances, -, reservations⟩ := bare_eq_bare_iff.mp same
  constructor
  · rw [← accounts]; exact acceptable.accounts_new
  · rw [← accounts]; exact acceptable.references_nodup
  · rw [← ledgers]; exact acceptable.ledgers_fit
  · exact fun entry member => .inr (current entry member)
  · rw [← ledgers]; exact acceptable.postings_inside
  · rw [← ledgers]; exact acceptable.one_open
  · rw [← balances]; exact acceptable.balances_fit
  · rw [← reservations]; exact acceptable.reservations_fit

theorem Acceptable.bare {work : UnitOfWork} {tables : Tables}
    (acceptable : work.Acceptable tables) : work.bare.Acceptable tables := by
  have same : work.bare = work.bare.bare := rfl
  exact acceptable.of_bare same nofun

theorem publish_bare (work : UnitOfWork) (tables : Tables) :
    work.bare.publish tables = work.publish tables := rfl

theorem publish_eq_of_bare {work other : UnitOfWork} (same : work.bare = other.bare)
    (tables : Tables) : work.publish tables = other.publish tables := by
  rw [← publish_bare, same, publish_bare]

end DoubleEntry.UnitOfWork
