import DoubleEntry.Proofs.Service.Publication
import DoubleEntry.Proofs.Store.Refusal

/-!
# What fits

The ledger that is found for a posting covers its time, its balances belong to it,
and the two lines of the draft balance, so the pure steps of a posting can fail with
an overflow at most.  What an operation stages on sound tables fits them: it was read
before, or it is new.
-/

namespace DoubleEntry

/-! ## What the pure steps can fail with -/

theorem Account.create_eq_error {id : AccountId} {createdAt : Instant} {reference name : String}
    {accountType : AccountType} {purpose : Purpose} {e : LedgerError}
    (fails : create id createdAt reference name accountType purpose = .error e) :
    e.isFault = false := by
  simp only [create] at fails
  split at fails
  · cases fails
    rfl
  · cases fails

theorem Reservation.create_eq_error {id : ReservationId} {createdAt : Instant}
    {businessReference : String} {payer : Account} {amount : Money} {e : LedgerError}
    (fails : create id createdAt businessReference payer amount = .error e) :
    e.isFault = false := by
  simp only [create] at fails
  split at fails
  · cases fails
    rfl
  · split at fails
    · cases fails
      rfl
    · cases fails

theorem Reservation.charge_eq_error {reservation : Reservation} {amount : Money} {e : LedgerError}
    (fails : reservation.charge amount = .error e) : e.isFault = false := by
  rw [charge] at fails
  split at fails
  · cases fails
    rfl
  · split at fails
    · cases fails
      rfl
    · rcases bind_eq_error_iff.mp fails with fails | ⟨_, -, fails⟩
      · exact lift_eq_error fails
      · cases fails

theorem Ledger.close_eq_error {ledger : Ledger} {closesAt : Instant} {e : LedgerError}
    (fails : ledger.close closesAt = .error e) : e.isFault = false := by
  rw [close] at fails
  split at fails
  · cases fails
    rfl
  · split at fails
    · cases fails
      rfl
    · cases fails

section Posting

variable {ledger : Ledger} {debited credited : Balance} {posting : Bank.Posting} {time : Instant}
  {draft : Draft} {prepared : Prepared} {ids : PostingIds} {e : LedgerError}

theorem transferDraft_eq_error (covers : ledger.covers posting.time = true)
    (debited_in : debited.key.ledgerId = ledger.id)
    (credited_in : credited.key.ledgerId = ledger.id)
    (fails : Bank.transferDraft ledger debited credited posting time = .error e) :
    e.isFault = false := by
  by_cases positive : posting.amount.isPositive = true
  · rw [transferDraft_eq_ok_iff.mpr ⟨covers, positive, debited_in, credited_in, rfl⟩] at fails
    cases fails
  · rw [Bank.transferDraft, draft_eq_ok_iff.mpr ⟨covers, rfl⟩] at fails
    simp only [bind, Except.bind, Draft.debit, Draft.post, positive] at fails
    cases fails
    rfl

theorem totals_pair {amount : Money} (positive : amount.isPositive = true) :
    Totals.ofLines [debitLine debited amount, creditLine credited amount] =
      .ok ⟨amount, amount⟩ := by
  have lifted : Overflow.lift (Money.zero.add amount) = .ok amount :=
    lift_eq_ok_iff.mpr (Money.zero_add amount)
  simp [Totals.ofLines, Totals.count, debitLine, creditLine, positive, lifted, Totals.isBalanced,
    bind, Except.bind, pure, Except.pure]

theorem prepare_eq_error
    (drafted : Bank.transferDraft ledger debited credited posting time = .ok draft)
    (fails : draft.prepare ids = .error e) : e.isFault = false := by
  obtain ⟨-, positive, debited_in, credited_in, rfl⟩ := transferDraft_eq_ok_iff.mp drafted
  rcases prepare_eq_error_cases fails with ⟨line, member, elsewhere⟩ | fails | ⟨_, rfl⟩
  · simp only [List.mem_cons, List.not_mem_nil, or_false] at member
    rcases member with rfl | rfl
    · exact absurd debited_in elsewhere
    · exact absurd credited_in elsewhere
  · rw [totals_pair positive] at fails
    cases fails
  · rfl

theorem apply_eq_error (apart : debited.key ≠ credited.key)
    (drafted : Bank.transferDraft ledger debited credited posting time = .ok draft)
    (isPrepared : draft.prepare ids = .ok prepared)
    (fails : prepared.apply [debited, credited] = .error e) : e.isFault = false := by
  obtain ⟨-, -, -, -, rfl⟩ := transferDraft_eq_ok_iff.mp drafted
  obtain ⟨-, _, -, counted, -⟩ := prepare_eq_ok_iff.mp isPrepared
  obtain ⟨debitEffect, creditEffect, -, -, shape⟩ := ofLines_pair apart counted
  rcases apply_pair_eq_error apart shape fails with fails | fails
  · exact lift_eq_error fails
  · exact lift_eq_error fails

end Posting

/-! ## What is staged fits -/

theorem Tiles.countP_isOpen_le {ledgers : List Ledger} (tiles : Tiles ledgers) :
    ledgers.countP Ledger.isOpen ≤ 1 := by
  induction tiles with
  | none => exact Nat.zero_le 1
  | last => exact List.countP_le_length
  | before meets _ _ _ ih =>
      rw [List.countP_cons_of_neg (by simp [Ledger.isOpen, meets])]
      exact ih

namespace Tables

variable {settings : LedgerSettings} {refs : SystemRefs} {tables : Tables}

theorem Sound.balanceIn_fits (sound : tables.Sound refs) (account : Account) (ledger : Ledger) :
    UnitOfWork.Fits ((tables.balances.get? (tables.balanceIn account ledger).key).map
      Balance.version) (tables.balanceIn account ledger).version := by
  rw [sound.balanceIn_key, balanceIn]
  cases tables.balances.get? ⟨ledger.id, account.id⟩ with
  | some balance => rfl
  | none => rfl

theorem Sound.reservation_fits (sound : tables.Sound refs) {businessReference : String}
    {reservation changed : Reservation}
    (found : tables.reservations.get? businessReference = some reservation)
    (same_name : changed.businessReference = reservation.businessReference)
    (same_version : changed.version = reservation.version) :
    UnitOfWork.Fits ((tables.reservations.get? changed.businessReference).map
      Reservation.version) changed.version := by
  rw [same_name, sound.reservations.name_of_get? found, found]
  exact same_version.symm

theorem Sound.current_of_accounts (sound : tables.Sound refs) (accounts : List Account) :
    ({ UnitOfWork.empty with accounts }).Current tables where
  ledgers_fit := by simp [UnitOfWork.empty]
  postings_inside := by simp [UnitOfWork.empty]
  one_open := sound.tiles.countP_isOpen_le
  balances_fit := by simp [UnitOfWork.empty]
  reservations_fit := by simp [UnitOfWork.empty]

theorem Sound.current_of_opening (sound : tables.Sound refs) (account : Account) (ledger : Ledger) :
    ({ UnitOfWork.empty with
      balances := stagedBalances [tables.balanceIn account ledger] }).Current tables where
  ledgers_fit := by simp [UnitOfWork.empty]
  postings_inside := by simp [UnitOfWork.empty]
  one_open := sound.tiles.countP_isOpen_le
  balances_fit balance member := by
    have same : balance = tables.balanceIn account ledger := List.mem_singleton.mp member
    rw [same]
    exact sound.balanceIn_fits account ledger
  reservations_fit := by simp [UnitOfWork.empty]

theorem Posts.current {payer payee : Account} {posting : Bank.Posting} {ids : PostingIds}
    {time : Instant} {transaction : Transaction} {balances : List Balance}
    {reservations : Table String Reservation} (sound : tables.Sound settings.refs)
    (apart : payer.id ≠ payee.id)
    (posts : tables.Posts settings payer payee posting ids time transaction balances)
    (fit : ∀ reservation ∈ reservations.values, UnitOfWork.Fits
      ((tables.reservations.get? reservation.businessReference).map Reservation.version)
        reservation.version) :
    (UnitOfWork.ofPosting transaction balances reservations).Current tables where
  ledgers_fit := by simp [UnitOfWork.ofPosting, UnitOfWork.empty]
  postings_inside := by simp [UnitOfWork.ofPosting, UnitOfWork.empty]
  one_open := sound.tiles.countP_isOpen_le
  balances_fit balance member := by
    obtain ⟨ledger, -, -, _, _, values, -⟩ := posts.settled sound apart
    have member : balance ∈ (stagedBalances balances).values := member
    rw [values] at member
    rcases List.mem_cons.mp member with rfl | member
    · exact sound.balanceIn_fits payer ledger
    · rw [List.mem_singleton.mp member]
      exact sound.balanceIn_fits payee ledger
  reservations_fit := fit

theorem Sound.current_of_first (sound : tables.Sound refs) {id : LedgerId} {start : Instant}
    (none : tables.ledgers.values = []) :
    (UnitOfWork.empty.saveLedger (.ofYear id start)).Current tables where
  ledgers_fit ledger member := by
    have same : ledger = .ofYear id start := List.mem_singleton.mp member
    have missing : tables.ledgers.get? ledger.id = Option.none := by
      cases found : tables.ledgers.get? ledger.id with
      | none => rfl
      | some other =>
          have stored := sound.ledgers.mem_of_get? found
          rw [none] at stored
          cases stored
    rw [missing, same]
    rfl
  postings_inside ledger member closesAt closes := by
    have same : ledger = .ofYear id start := List.mem_singleton.mp member
    rw [same] at closes
    cases closes
  one_open := by
    have entries : tables.ledgers.entries = [] := List.map_eq_nil_iff.mp none
    have overlaid : (tables.ledgers.overlay
        (UnitOfWork.empty.saveLedger (.ofYear id start)).ledgers).values =
          [.ofYear id start] := by
      show ((Table.place _ _ tables.ledgers.entries).map Prod.snd) = _
      rw [entries]
      rfl
    rw [overlaid]
    exact List.countP_le_length
  balances_fit := by simp [UnitOfWork.saveLedger, UnitOfWork.empty]
  reservations_fit := by simp [UnitOfWork.saveLedger, UnitOfWork.empty]

theorem Sound.current_of_rollover (sound : tables.Sound refs) {current : Ledger}
    {newStart : Instant} {id : LedgerId} (stored : current ∈ tables.ledgers.values)
    (isOpen : current.isOpen = true) (missing : tables.ledgers.get? id = none)
    (early : ∀ t ∈ tables.transactions, t.ledgerId = current.id → t.accountingTime < newStart) :
    ((UnitOfWork.empty.saveLedger { current with closesAt := some newStart }).saveLedger
      (.ofYear id newStart)).Current tables := by
  let closed : Ledger := { current with closesAt := some newStart }
  let next : Ledger := .ofYear id newStart
  have found := sound.ledgers.get?_name stored
  have apart : closed.id ≠ next.id := by
    intro same
    have same : current.id = id := same
    rw [same, missing] at found
    cases found
  have values : ((UnitOfWork.empty.saveLedger closed).saveLedger next).ledgers.values =
      [closed, next] := by
    refine Table.values_insert_of_absent next ?_
    exact (Table.get?_insert _ _ _ _).trans (if_neg apart)
  constructor
  case ledgers_fit =>
    rw [values]
    intro ledger member
    rcases List.mem_cons.mp member with rfl | member
    · have same : tables.ledgers.get? closed.id = some current := found
      rw [same]
      rfl
    · rw [List.mem_singleton.mp member]
      have same : tables.ledgers.get? next.id = none := missing
      rw [same]
      rfl
  case postings_inside =>
    rw [values]
    intro ledger member closesAt closes
    rcases List.mem_cons.mp member with rfl | member
    · cases closes
      exact early
    · rw [List.mem_singleton.mp member] at closes
      cases closes
  case one_open =>
    obtain ⟨earlier, before, after⟩ :=
      sound.rollover_values closed next stored isOpen rfl apart missing
    have overlaid : tables.ledgers.overlay
        ((UnitOfWork.empty.saveLedger closed).saveLedger next).ledgers =
          (tables.ledgers.insert closed.id closed).insert next.id next := by
      have entries : ((UnitOfWork.empty.saveLedger closed).saveLedger next).ledgers.entries =
          [(closed.id, closed), (next.id, next)] := by
        refine Table.place_of_notMem next ?_
        rintro (_ | ⟨_, ⟨⟩⟩)
        exact apart rfl
      rw [Table.overlay, entries]
      rfl
    have tiles := sound.tiles
    rw [before] at tiles
    have others := tiles.countP_isOpen_le
    rw [List.countP_append] at others
    have last : [current].countP Ledger.isOpen = 1 := by simp [isOpen]
    have added : [closed, next].countP Ledger.isOpen = 1 := rfl
    rw [overlaid, after, List.countP_append]
    omega
  case balances_fit => simp [UnitOfWork.saveLedger, UnitOfWork.empty]
  case reservations_fit => simp [UnitOfWork.saveLedger, UnitOfWork.empty]

end Tables

end DoubleEntry
